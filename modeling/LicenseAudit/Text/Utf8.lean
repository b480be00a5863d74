import LicenseAudit.Text.Quoted

/-!
# UTF-8

`Utf8.decode` reads bytes as UTF-8 and reports the first malformed sequence: where it starts, how
many of its bytes could have begun a character, and what is wrong with it. `Utf8.encode` writes
a text; what it writes is read back as the same text.
-/

namespace LicenseAudit

/-- The content of a file. -/
abbrev Bytes := List UInt8

namespace Utf8

/-- What is wrong with a malformed sequence. -/
inductive Fault
  /-- No character starts with this byte. -/
  | badStart
  /-- The sequence goes on with a byte that cannot stand there. -/
  | badContinuation
  /-- The bytes end inside a character. -/
  | truncated
  deriving DecidableEq, Repr

/-- A malformed sequence: its first byte, its place, the number of its bytes, and its fault. -/
structure Malformed where
  first : UInt8
  start : Nat
  size : Nat
  fault : Fault
  deriving DecidableEq, Repr

/-- The fault in words. -/
def Fault.message : Fault → Text
  | .badStart => "invalid start byte"
  | .badContinuation => "invalid continuation byte"
  | .truncated => "unexpected end of data"

/-- The message that names the bytes and the fault. -/
def Malformed.message (m : Malformed) : Text :=
  let spot : Text :=
    if m.size = 1 then
      "byte 0x" ++ hexDigits 2 m.first.toNat ++ " in position " ++ Text.ofInt m.start
    else
      "bytes in position " ++ Text.ofInt m.start ++ "-" ++ Text.ofInt (m.start + m.size - 1 : Nat)
  "'utf-8' codec can't decode " ++ spot ++ ": " ++ m.fault.message

/-! ## Writing -/

/-- The bytes of one character. -/
def encodeChar (c : Char) : Bytes :=
  let n := c.toNat
  if n < 0x80 then [n.toUInt8]
  else if n < 0x800 then [(0xC0 + n / 64).toUInt8, (0x80 + n % 64).toUInt8]
  else if n < 0x10000 then
    [(0xE0 + n / 4096).toUInt8, (0x80 + n / 64 % 64).toUInt8, (0x80 + n % 64).toUInt8]
  else
    [(0xF0 + n / 262144).toUInt8, (0x80 + n / 4096 % 64).toUInt8, (0x80 + n / 64 % 64).toUInt8,
      (0x80 + n % 64).toUInt8]

/-- The bytes of a text. -/
def encode (s : Text) : Bytes := s.flatMap encodeChar

/-- How many bytes a text has. -/
def size (s : Text) : Nat := (encode s).length

/-! ## Reading -/

/-- How many bytes follow the first one of a character, and the bounds of the second byte. They
leave out overlong forms, surrogates and what lies beyond U+10FFFF. -/
def follow? (b : UInt8) : Option (Nat × Nat × Nat) :=
  let n := b.toNat
  if 0xC2 ≤ n && n ≤ 0xDF then some (1, 0x80, 0xBF)
  else if n == 0xE0 then some (2, 0xA0, 0xBF)
  else if n == 0xED then some (2, 0x80, 0x9F)
  else if 0xE1 ≤ n && n ≤ 0xEF then some (2, 0x80, 0xBF)
  else if n == 0xF0 then some (3, 0x90, 0xBF)
  else if 0xF1 ≤ n && n ≤ 0xF3 then some (3, 0x80, 0xBF)
  else if n == 0xF4 then some (3, 0x80, 0x8F)
  else none

/-- The bits of the first byte that belong to the character, by the number of bytes after it. -/
def leadBits (count : Nat) (b : UInt8) : Nat :=
  match count with
  | 1 => b.toNat - 0xC0
  | 2 => b.toNat - 0xE0
  | _ => b.toNat - 0xF0

/-- Reads the bytes that go on a character: `count` of them, the first within the given bounds
and the rest within those of any continuation byte. `taken` bytes have been read, whose bits are
`acc`. The result is the code point and the bytes after it, or the number of bytes that could
have begun a character and the fault. -/
def readTail (taken acc low high : Nat) : Nat → Bytes → Except (Nat × Fault) (Nat × Bytes)
  | 0, bs => .ok (acc, bs)
  | _ + 1, [] => .error (taken, .truncated)
  | count + 1, b :: bs =>
    if low ≤ b.toNat && b.toNat ≤ high then
      readTail (taken + 1) (acc * 64 + (b.toNat - 0x80)) 0x80 0xBF count bs
    else .error (taken, .badContinuation)

theorem length_le_of_readTail {taken acc low high count n : Nat} {bs r : Bytes}
    (h : readTail taken acc low high count bs = .ok (n, r)) : r.length ≤ bs.length := by
  induction count generalizing taken acc low high bs with
  | zero => simp only [readTail, Except.ok.injEq, Prod.mk.injEq] at h; simp [h.2]
  | succ count ih =>
    cases bs with
    | nil => simp [readTail] at h
    | cons b bs =>
      rw [readTail] at h
      split at h
      · have := ih h
        simp only [List.length_cons]
        omega
      · simp at h

/-- Reads the bytes from position `start` on. -/
def decodeFrom (start : Nat) : Bytes → Except Malformed Text
  | [] => .ok []
  | b :: bs =>
    if b.toNat < 0x80 then
      (decodeFrom (start + 1) bs).map (Char.ofNat b.toNat :: ·)
    else
      match follow? b with
      | none => .error ⟨b, start, 1, .badStart⟩
      | some (count, low, high) =>
        match h : readTail 1 (leadBits count b) low high count bs with
        | .error (size, fault) => .error ⟨b, start, size, fault⟩
        | .ok (n, rest) =>
          (decodeFrom (start + 1 + count) rest).map (Char.ofNat n :: ·)
termination_by bs => bs.length
decreasing_by
  · exact Nat.lt_succ_self _
  · exact Nat.lt_succ_of_le (length_le_of_readTail h)

/-- The text that the bytes write, or the first malformed sequence. -/
def decode (bs : Bytes) : Except Malformed Text := decodeFrom 0 bs

end Utf8

end LicenseAudit
