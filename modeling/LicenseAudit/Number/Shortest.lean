import LicenseAudit.Text.Basic

/-!
# Shortest decimals

A decimal fraction read as a binary number of 53 bits is shown by the fewest digits that read
back as the same number. `toBinary` finds the nearest binary number, `shortestDigits` the digits:
for each count of digits it looks at the two decimals around the number, and takes the nearer one
of those that read back.
-/

namespace LicenseAudit

/-- A positive rational, as numerator and denominator. -/
structure Ratio where
  num : Nat
  den : Nat

namespace Ratio

/-- The value scaled by a power of a base. -/
def scale (r : Ratio) (base : Nat) (k : Int) : Ratio :=
  if k < 0 then ⟨r.num, r.den * Nat.pow base k.natAbs⟩ else ⟨r.num * Nat.pow base k.toNat, r.den⟩

/-- The nearest natural number; a half goes to the even neighbour. -/
def round (r : Ratio) : Nat :=
  let q := r.num / r.den
  let twice := 2 * (r.num % r.den)
  if twice < r.den then q
  else if twice > r.den then q + 1
  else if q % 2 = 0 then q else q + 1

/-- Whether one value is less than another. -/
def lt (a b : Ratio) : Bool := a.num * b.den < b.num * a.den

end Ratio

/-- A binary number `mantissa * 2 ^ exponent` with a mantissa below `2 ^ 53`. -/
structure Binary where
  mantissa : Nat
  exponent : Int

/-- The least number of 53 binary digits. -/
def leastMantissa : Nat := 4503599627370496

/-- The binary number nearest to a positive value; there is none beyond the greatest. -/
def Ratio.toBinary? (r : Ratio) : Option Binary :=
  let guess : Int := (Nat.log2 r.num : Int) - (Nat.log2 r.den : Int) - 52
  let isBelow := (r.scale 2 (-guess)).lt ⟨leastMantissa, 1⟩
  let exponent := max (-1074) (if isBelow then guess - 1 else guess)
  let mantissa := (r.scale 2 (-exponent)).round
  let result : Binary :=
    if mantissa = 2 * leastMantissa then ⟨leastMantissa, exponent + 1⟩ else ⟨mantissa, exponent⟩
  if result.exponent > 971 then none else some result

namespace Binary

/-- The value. -/
def ratio (b : Binary) : Ratio := (⟨b.mantissa, 1⟩ : Ratio).scale 2 b.exponent

/-- Whether a value is read as this number. -/
def isReadFrom (b : Binary) (r : Ratio) : Bool :=
  match r.toBinary? with
  | some c => c.mantissa == b.mantissa && c.exponent == b.exponent
  | none => false

/-- Whether the decimal `digits * 10 ^ place` is read as this number. -/
def isReadAs (b : Binary) (digits : Nat) (place : Int) : Bool :=
  b.isReadFrom ((⟨digits, 1⟩ : Ratio).scale 10 place)

/-- The decimal `digits * 10 ^ place` of at most `count` digits that is nearest to the number
among those that read back; it is one of the two around the number. `top` is the place of the
first digit. -/
def decimalOf? (b : Binary) (top : Int) (count : Nat) : Option (Nat × Int) :=
  let place := top - count + 1
  let scaled := b.ratio.scale 10 (-place)
  let nearest := scaled.round
  let below := scaled.num / scaled.den
  let other := if nearest = below then below + 1 else below
  ([nearest, other].find? (b.isReadAs · place)).map fun digits => (digits, place)

/-- The place of the first decimal digit. -/
def topPlace (b : Binary) : Int :=
  let r := b.ratio
  let guess : Int := (Nat.toDigits 10 r.num).length - (Nat.toDigits 10 r.den).length
  if r.lt ((⟨1, 1⟩ : Ratio).scale 10 guess) then guess - 1 else guess

/-- The fewest digits that read back, with the place of the last one. -/
def shortestDigits (b : Binary) : Nat × Int :=
  let top := b.topPlace
  ((List.range' 1 17).findSome? (b.decimalOf? top)).getD (b.mantissa, b.exponent)

end Binary

/-- A real number as settings write it. -/
inductive Real
  /-- The value `digits * 10 ^ place`, or its negative. -/
  | finite (negative : Bool) (digits : Nat) (place : Int)
  | infinite (negative : Bool)
  | notANumber
  deriving DecidableEq, Repr

namespace Real

/-- Digits with their point: positional from 0.0001 up to sixteen digits before the point, else
with an exponent of at least two digits. -/
def layout (digits : Text) (place : Int) : Text :=
  let count : Int := digits.length
  let point := count + place
  if -4 < point && point ≤ 16 then
    if point ≤ 0 then "0." ++ List.replicate point.natAbs '0' ++ digits
    else if place ≥ 0 then digits ++ List.replicate place.toNat '0' ++ ".0"
    else digits.take point.toNat ++ '.' :: digits.drop point.toNat
  else
    let exponent := point - 1
    let sign : Char := if exponent < 0 then '-' else '+'
    let size := Nat.toDigits 10 exponent.natAbs
    let size := if size.length < 2 then '0' :: size else size
    let rest := digits.drop 1
    digits.take 1 ++ (if rest.isEmpty then [] else '.' :: rest) ++ 'e' :: sign :: size

/-- Digits without zeros at the end, and the place moved accordingly. -/
def stripZeros : Text → Int → Text × Int
  | [], place => ([], place)
  | '0' :: rest, place => stripZeros rest (place + 1)
  | digits, place => (digits, place)

/-- The text of a real number. -/
def shown : Real → Text
  | .notANumber => "nan"
  | .infinite negative => if negative then "-inf" else "inf"
  | .finite negative digits place =>
    let sign : Text := if negative then ['-'] else []
    if digits = 0 then sign ++ "0.0"
    else match ((⟨digits, 1⟩ : Ratio).scale 10 place).toBinary? with
      | none => sign ++ "inf"
      | some ⟨0, _⟩ => sign ++ "0.0"
      | some b =>
        let (digits, place) := b.shortestDigits
        let (reversed, place) := stripZeros (Nat.toDigits 10 digits).reverse place
        sign ++ layout reversed.reverse place

end Real

end LicenseAudit
