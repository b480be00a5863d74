import LicenseAudit.Number.Numeral
import LicenseAudit.Toml.Fault

/-!
# Strings of a settings file

Strings stand on one line between single or double quotes, or on several lines between three of
them. Between double quotes a backslash starts an escape.
-/

namespace LicenseAudit

open Text

namespace Toml

/-! ## Escapes -/

/-- What the letters of short escapes stand for. -/
def shortEscapes : List (Char × Char) :=
  [('b', '\x08'), ('t', '\t'), ('n', '\n'), ('f', '\x0c'), ('r', '\r'), ('"', '"'), ('\\', '\\'),
    ('e', '\x1b')]

/-- How many characters follow the letter of an escape by number. -/
def numberEscapes : List (Char × Nat) := [('u', 4), ('U', 8), ('x', 2)]

/-- Whether digits that name a character in four or eight places start like a surrogate's. -/
def startsLikeSurrogate : Text → Bool
  | d :: c :: _ => d.toLower == 'd' && !('0' ≤ c && c ≤ '7')
  | _ => false

/-- The character whose number is written in hexadecimal. -/
def namedChar? (letter : Char) (digits : Text) : Option Char := do
  let n ← signedNumeral? 16 digits
  if n < 0 ∨ !n.toNat.isValidChar ∨ (letter ≠ 'x' ∧ startsLikeSurrogate digits) then none
  else return Char.ofNat n.toNat

/-- Whether a character may be left out after a backslash at the end of a line. -/
def isLineSpace (c : Char) : Bool := isGap c || c == '\n'

/-- What the escape after a backslash stands for, and the rest. Where lines may be joined, a
backslash at the end of a line takes away the line end and the blanks around it. -/
def escape? (joins : Bool) : Text → Option (Text × Text)
  | [] => none
  | c :: s =>
    if joins && isLineSpace c then
      if (c :: s.takeWhile isLineSpace).contains '\n' then some ([], s.dropWhile isLineSpace)
      else none
    else
      match shortEscapes.lookup c, numberEscapes.lookup c with
      | some d, _ => some ([d], s)
      | none, some count =>
        if s.length < count then none
        else (namedChar? c (s.take count)).map fun d => ([d], s.drop count)
      | none, none => none

theorem length_escape? {joins : Bool} {s t r : Text} (h : escape? joins s = some (t, r)) :
    r.length < s.length := by
  cases s with
  | nil => simp [escape?] at h
  | cons c s =>
    have hs : (s.dropWhile isLineSpace).length ≤ s.length :=
      (List.dropWhile_suffix isLineSpace).length_le
    simp only [escape?] at h
    split at h
    · split at h
      · simp only [Option.some.injEq, Prod.mk.injEq] at h
        rw [← h.2, List.length_cons]
        omega
      · simp at h
    · split at h
      · simp only [Option.some.injEq, Prod.mk.injEq] at h
        rw [← h.2, List.length_cons]
        omega
      · split at h
        · simp at h
        · obtain ⟨d, -, hd⟩ := Option.map_eq_some_iff.1 h
          simp only [Prod.mk.injEq] at hd
          rw [← hd.2, List.length_cons, List.length_drop]
          omega
      · simp at h

/-! ## Strings -/

/-- How a string is written. -/
structure StringForm where
  quote : Char
  /-- Whether it stands between three quotes, on any number of lines. -/
  isLong : Bool
  deriving DecidableEq, Repr

/-- Whether a backslash starts an escape. -/
def StringForm.hasEscapes (f : StringForm) : Bool := f.quote == '"'

/-- How many quotes a text starts with. -/
def quoteRun (quote : Char) (s : Text) : Nat := (s.takeWhile (· == quote)).length

/-- The content of a string up to its closing quotes, and the rest. Up to two more quotes may
stand before three that close. -/
def StringForm.content (f : StringForm) (s : Text) : Except Fault (WithRest Text) :=
  match s with
  | [] => .error .malformed
  | c :: s =>
    if c = f.quote ∧ f.isLong = false then .ok ([], s)
    else if c = f.quote ∧ quoteRun c (c :: s) ≥ 3 then
      let run := quoteRun c (c :: s)
      if run ≥ 6 then .error .malformed
      else .ok (List.replicate (run - 3) c, (c :: s).drop run)
    else if f.hasEscapes ∧ c = '\\' then
      match _h : escape? f.isLong s with
      | some (t, rest) => mapResult (t ++ ·) (f.content rest)
      | none => .error .malformed
    else if isPlain c ∨ (f.isLong ∧ c = '\n') then mapResult (c :: ·) (f.content s)
    else .error .malformed
termination_by s.length
decreasing_by
  · have := length_escape? _h
    simp only [List.length_cons]
    omega
  · simp

/-- The text without a line feed in front. -/
def dropLineFeed : Text → Text
  | '\n' :: s => s
  | s => s

/-- Reads a string, which starts with this quote: its content, and whether it is a long one. -/
def quotation (quote : Char) (s : Text) : Except Fault (WithRest (Text × Bool)) :=
  match s with
  | a :: b :: c :: rest =>
    if a = quote ∧ b = quote ∧ c = quote then
      mapResult (·, true) (StringForm.content ⟨quote, true⟩ (dropLineFeed rest))
    else mapResult (·, false) (StringForm.content ⟨quote, false⟩ (b :: c :: rest))
  | _ :: rest => mapResult (·, false) (StringForm.content ⟨quote, false⟩ rest)
  | [] => .error .malformed

end Toml

end LicenseAudit
