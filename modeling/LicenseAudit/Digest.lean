import LicenseAudit.Text.Utf8

/-!
# Digests

The MD5 digest of bytes. The bytes are padded to whole blocks of sixteen words, a one bit and the
length in bits at the end; each block is mixed into a state of four words in sixty-four steps.
-/

namespace LicenseAudit

namespace Digest

/-- The state of four words. -/
structure State where
  a : UInt32
  b : UInt32
  c : UInt32
  d : UInt32
  deriving DecidableEq, Repr

/-- The state before the first block. -/
def initial : State := ⟨0x67452301, 0xefcdab89, 0x98badcfe, 0x10325476⟩

/-- The constant of each step: the sine of its number, in thirty-two bits. -/
def constants : List UInt32 :=
  [0xd76aa478, 0xe8c7b756, 0x242070db, 0xc1bdceee, 0xf57c0faf, 0x4787c62a, 0xa8304613, 0xfd469501,
   0x698098d8, 0x8b44f7af, 0xffff5bb1, 0x895cd7be, 0x6b901122, 0xfd987193, 0xa679438e, 0x49b40821,
   0xf61e2562, 0xc040b340, 0x265e5a51, 0xe9b6c7aa, 0xd62f105d, 0x02441453, 0xd8a1e681, 0xe7d3fbc8,
   0x21e1cde6, 0xc33707d6, 0xf4d50d87, 0x455a14ed, 0xa9e3e905, 0xfcefa3f8, 0x676f02d9, 0x8d2a4c8a,
   0xfffa3942, 0x8771f681, 0x6d9d6122, 0xfde5380c, 0xa4beea44, 0x4bdecfa9, 0xf6bb4b60, 0xbebfbc70,
   0x289b7ec6, 0xeaa127fa, 0xd4ef3085, 0x04881d05, 0xd9d4d039, 0xe6db99e5, 0x1fa27cf8, 0xc4ac5665,
   0xf4292244, 0x432aff97, 0xab9423a7, 0xfc93a039, 0x655b59c3, 0x8f0ccc92, 0xffeff47d, 0x85845dd1,
   0x6fa87e4f, 0xfe2ce6e0, 0xa3014314, 0x4e0811a1, 0xf7537e82, 0xbd3af235, 0x2ad7d2bb, 0xeb86d391]

/-- How far a step rotates: four amounts in turn, for each of the four rounds. -/
def rotation (step : Nat) : UInt32 :=
  let amounts : List UInt32 :=
    match step / 16 with
    | 0 => [7, 12, 17, 22]
    | 1 => [5, 9, 14, 20]
    | 2 => [4, 11, 16, 23]
    | _ => [6, 10, 15, 21]
  amounts.getD (step % 4) 0

/-- The word with its bits turned to the left. -/
def rotate (x n : UInt32) : UInt32 := (x <<< n) ||| (x >>> (32 - n))

/-- How a step combines three words of the state. -/
def combine (step : Nat) (s : State) : UInt32 :=
  match step / 16 with
  | 0 => (s.b &&& s.c) ||| (~~~s.b &&& s.d)
  | 1 => (s.d &&& s.b) ||| (~~~s.d &&& s.c)
  | 2 => s.b ^^^ s.c ^^^ s.d
  | _ => s.c ^^^ (s.b ||| ~~~s.d)

/-- Which word of the block a step takes in. -/
def wordIndex (step : Nat) : Nat :=
  match step / 16 with
  | 0 => step
  | 1 => (5 * step + 1) % 16
  | 2 => (3 * step + 5) % 16
  | _ => (7 * step) % 16

/-- One step. -/
def step (words : List UInt32) (s : State) (e : UInt32 × Nat) : State :=
  let (constant, i) := e
  let sum := s.a + combine i s + constant + words.getD (wordIndex i) 0
  ⟨s.d, s.b + rotate sum (rotation i), s.b, s.c⟩

/-- The state after a block. -/
def mix (s : State) (words : List UInt32) : State :=
  let t := constants.zipIdx.foldl (step words) s
  ⟨s.a + t.a, s.b + t.b, s.c + t.c, s.d + t.d⟩

/-- The bytes of a number, the least significant first. -/
def littleEndian : Nat → Nat → Bytes
  | 0, _ => []
  | count + 1, n => (n % 256).toUInt8 :: littleEndian count (n / 256)

/-- The bytes filled up to whole blocks. -/
def pad (content : Bytes) : Bytes :=
  let size := content.length
  content ++ 0x80 :: List.replicate ((119 - size % 64) % 64) 0 ++ littleEndian 8 (8 * size)

/-- Bytes read as words, the least significant byte first. -/
def toWords : Bytes → List UInt32
  | b₀ :: b₁ :: b₂ :: b₃ :: rest =>
    (b₀.toUInt32 ||| b₁.toUInt32 <<< 8 ||| b₂.toUInt32 <<< 16 ||| b₃.toUInt32 <<< 24) ::
      toWords rest
  | _ => []

/-- The state after all words, sixteen at a time. -/
def mixAll (s : State) (words : List UInt32) : State :=
  if h : words = [] then s
  else
    have : (words.drop 16).length < words.length := by
      have := List.length_pos_iff.2 h
      simp only [List.length_drop]
      omega
    mixAll (mix s (words.take 16)) (words.drop 16)
termination_by words.length

/-- The bytes of a state. -/
def State.bytes (s : State) : Bytes :=
  [s.a, s.b, s.c, s.d].flatMap fun w => littleEndian 4 w.toNat

end Digest

/-- The digest of bytes, in hexadecimal digits. -/
def digest (content : Bytes) : Text :=
  let final := Digest.mixAll Digest.initial (Digest.toWords (Digest.pad content))
  final.bytes.flatMap fun b => hexDigits 2 b.toNat

end LicenseAudit
