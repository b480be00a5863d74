import LicenseAudit.Text.Basic

/-!
# Sets of characters

What one character of a path may be: a given one, any but the slash, or one that brackets list.
Brackets list characters and ranges; a range that runs backwards makes them invalid, which
`CharSet.backwardRange?` finds. `CharSet.expression` writes a set as a regular expression, because
a message tells where in the expression of a pattern the backward range stands.
-/

namespace LicenseAudit

open Text

/-- A set of characters. -/
inductive CharSet
  | only (c : Char)
  /-- Every character but the slash. -/
  | inName
  /-- The characters that the content of brackets lists, or all the others. -/
  | brackets (negated : Bool) (content : Text)
  deriving DecidableEq, Repr

namespace CharSet

/-- The ranges that the content of brackets lists; a hyphen at an end stands for itself. -/
def bounds : Text → List (Char × Char)
  | a :: '-' :: b :: rest => (a, b) :: bounds rest
  | a :: rest => (a, a) :: bounds rest
  | [] => []

/-- Whether a set has a character. -/
def has : CharSet → Char → Bool
  | .only d, c => c == d
  | .inName, c => c != '/'
  | .brackets negated content, c =>
    negated != (bounds content).any fun r => r.1 ≤ c && c ≤ r.2

/-! ## Sets as regular expressions -/

/-- The characters that have a meaning in regular expressions. -/
def reserved : Text := "()[]\x7b\x7d?*+-|^$\\.&~# \t\n\r\x0b\x0c".toList

/-- A character inside the brackets of a regular expression. -/
def bracketChar (c : Char) : Text := if c = '\\' then ['\\', '\\'] else [c]

/-- The opening of the brackets of a regular expression. -/
def openingBracket : Bool → Text
  | true => ['[', '^']
  | false => ['[']

/-- A set as a regular expression. -/
def expression : CharSet → Text
  | .only c => if reserved.contains c then ['\\', c] else [c]
  | .inName => "[^/]".toList
  | .brackets negated content => openingBracket negated ++ content.flatMap bracketChar ++ [']']

/-- A range that runs backwards, and where in the expression of its brackets it stands. -/
structure BackwardRange where
  low : Char
  high : Char
  offset : Nat
  deriving DecidableEq, Repr

/-- The first range of some brackets' content that runs backwards. `offset` is where the content
starts. -/
def backwardIn? (offset : Nat) : Text → Option BackwardRange
  | a :: '-' :: b :: rest =>
    if b < a then some ⟨a, b, offset⟩
    else backwardIn? (offset + (bracketChar a).length + 1 + (bracketChar b).length) rest
  | a :: rest => backwardIn? (offset + (bracketChar a).length) rest
  | [] => none

/-- The first range of a set that runs backwards. -/
def backwardRange? : CharSet → Option BackwardRange
  | .brackets negated content => backwardIn? (openingBracket negated).length content
  | _ => none

/-- No range runs backwards just when every range has its bounds in order. -/
theorem backwardIn?_eq_none_iff (offset : Nat) (content : Text) :
    backwardIn? offset content = none ↔ ∀ r ∈ bounds content, r.1 ≤ r.2 := by
  fun_induction backwardIn? offset content with
  | case1 offset a b rest h =>
    simpa [bounds] using fun hab : a ≤ b => absurd h (Char.not_lt.2 hab)
  | case2 offset a b rest h ih => simpa [bounds, ih] using fun _ => Char.not_lt.1 h
  | case3 offset a rest h ih => simp [bounds, ih]
  | case4 => simp [bounds]

end CharSet

end LicenseAudit
