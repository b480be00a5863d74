import LicenseAudit.Text.Blank
import LicenseAudit.Text.Digits

/-!
# Numerals

Integers written in a base: digits of any script, with single underscores between them, a sign in
front, for some bases a letter after a zero that names the base, and blanks around it all.
`signedNumeral?` reads one; `digitsValue_append` says that a numeral is read digit by digit.
-/

namespace LicenseAudit

/-- The value of a digit or, from ten on, of a letter in either case. -/
def figureValue? (c : Char) : Option Nat :=
  (digitValue? c).or <|
    if 'a' ≤ c && c ≤ 'z' then some (c.toNat - 87)
    else if 'A' ≤ c && c ≤ 'Z' then some (c.toNat - 55)
    else none

/-- The value of a digit of a base. -/
def digitIn? (base : Nat) (c : Char) : Option Nat := (figureValue? c).filter (· < base)

/-- Whether a character may stand around a numeral: the blanks but for the information
separators. -/
def isNumeralBlank (c : Char) : Bool := isBlank c && !(28 ≤ c.toNat && c.toNat ≤ 31)

/-- The number that digits of a base write. -/
def digitsValue (base : Nat) (ds : List Nat) : Nat := ds.foldl (fun n d => n * base + d) 0

theorem digitsValue_append (base : Nat) (ds : List Nat) (d : Nat) :
    digitsValue base (ds ++ [d]) = digitsValue base ds * base + d := by
  simp [digitsValue]

namespace Text

/-- The text without the blanks of numerals it ends with. -/
def trimNumeralRight (s : Text) : Text := (s.reverse.dropWhile isNumeralBlank).reverse

/-- The text without the blanks of numerals at its two ends. -/
def trimNumeral (s : Text) : Text := (trimNumeralRight s).dropWhile isNumeralBlank

/-- The digits of a numeral, of which there is at least one; an underscore stands between two. -/
def digitRun? (base : Nat) : Text → Option (List Nat)
  | [] => none
  | [c] => (digitIn? base c).map ([·])
  | c :: '_' :: s => do return (← digitIn? base c) :: (← digitRun? base s)
  | c :: s => do return (← digitIn? base c) :: (← digitRun? base s)

/-- The sign of a number and the rest. -/
def splitSign : Text → Option Char × Text
  | '+' :: s => (some '+', s)
  | '-' :: s => (some '-', s)
  | s => (none, s)

/-- The letter that names a base after a zero. -/
def baseLetter? : Nat → Option Char
  | 2 => some 'b'
  | 8 => some 'o'
  | 16 => some 'x'
  | _ => none

/-- The text without the name of a base, after which an underscore may stand. -/
def dropBaseName (base : Nat) : Text → Text
  | '0' :: c :: s =>
    if baseLetter? base = some c.toLower then
      match s with
      | '_' :: s => s
      | s => s
    else '0' :: c :: s
  | s => s

/-- The integer that a numeral of a base writes. In base ten it has no more than `numeralLimit`
digits. -/
def signedNumeral? (base : Nat) (s : Text) : Option Int := do
  let (sign, body) := splitSign (trimNumeral s)
  let ds ← digitRun? base (dropBaseName base body)
  if base = 10 ∧ ds.length > numeralLimit then none
  else
    let n : Int := digitsValue base ds
    return if sign = some '-' then -n else n

end Text

end LicenseAudit
