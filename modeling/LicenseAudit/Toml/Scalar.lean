import LicenseAudit.Number.Numeral
import LicenseAudit.Settings.Value
import LicenseAudit.Toml.Fault

/-!
# Numbers and points in time of a settings file

Each is one token, which goes up to the next separator; only between a day and a time of day may
there be a space.
-/

namespace LicenseAudit

open Text

namespace Toml

/-- Whether a character goes on a number or a point in time. -/
def isTokenChar (c : Char) : Bool :=
  !(isGap c || c == '\n' || c == '\r' || c == '#' || c == ',' || c == ']' || c == '}')

/-! ## Numbers -/

/-- The base that a number without its sign names; without a name it is ten. -/
def baseOf : Text → Nat
  | '0' :: 'x' :: _ => 16
  | '0' :: 'o' :: _ => 8
  | '0' :: 'b' :: _ => 2
  | _ => 10

/-- Whether a number without its sign has a zero in front that does not belong there. -/
def hasIdleZero : Text → Bool
  | '0' :: c :: _ => !(['.', 'e', 'x', 'o', 'b'].contains c)
  | _ => false

/-- The text without its underscores, each of which stands between two digits of a base. -/
def dropUnderscores? (base : Nat) : Text → Option Text
  | '_' :: _ => none
  | c :: '_' :: d :: s =>
    let isDigit := fun c : Char => c.toNat < 0x80 && (digitIn? base c).isSome
    if isDigit c && isDigit d then (dropUnderscores? base (d :: s)).map (c :: ·) else none
  | c :: s => (dropUnderscores? base s).map (c :: ·)
  | [] => some []

/-- The value of decimal digits. -/
def decimal (s : Text) : Nat := digitsValue 10 (s.filterMap digitValue?)

/-- Digits that are not empty. -/
def someDigits? (s : Text) : Option Text := if s.isEmpty || !s.all isDecimalDigit then none else s

/-- The exponent of a number, given the text after its letter. -/
def exponent? (s : Text) : Option Int := do
  let (sign, body) := splitSign s
  let n := decimal (← someDigits? body)
  return if sign = some '-' then -(n : Int) else n

/-- The real number `digits * 10 ^ place`; beyond all that can be told apart from zero or
infinity it is one of these. -/
def realOf (negative : Bool) (digits : Text) (place : Int) : Real :=
  let n := decimal digits
  let top : Int := (Nat.toDigits 10 n).length + place
  if n = 0 || top < -400 then .finite negative 0 0
  else if top > 400 then .infinite negative
  else .finite negative n place

/-- A real number in small letters without its sign: a word, or digits with perhaps a point, a
fraction and an exponent. -/
def magnitude? (negative : Bool) (s : Text) : Option Real :=
  if s = ("inf" : Text) ∨ s = ("infinity" : Text) then some (.infinite negative)
  else if s = ("nan" : Text) then some .notANumber
  else do
    let mantissa := s.takeWhile (· != 'e')
    let e ← match s.dropWhile (· != 'e') with
      | _ :: rest => exponent? rest
      | [] => some 0
    let whole ← someDigits? (mantissa.takeWhile (· != '.'))
    let fraction ← match mantissa.dropWhile (· != '.') with
      | [] | [_] => some []
      | _ :: rest => someDigits? rest
    return realOf negative (whole ++ fraction) (e - fraction.length)

/-- Whether a number ends in a point, or has one right before its exponent. -/
def hasIdlePoint (s : Text) : Bool := endsWith ['.'] s || endsWith ['.'] (s.takeWhile (· != 'e'))

/-- The number that a token writes: an integer in the base that it names, which allows no sign, or
a real number. Blanks at the end that do not end the token do not count. -/
def number? (token : Text) : Option Value := do
  let (sign, body) := splitSign token
  let base := baseOf body
  let figures := (← dropUnderscores? base body).map Char.toLower
  if hasIdleZero body ∨ hasIdlePoint figures ∨ (sign.isSome ∧ base ≠ 10) then none
  else
    let digits := trimNumeralRight figures
    if base ≠ 10 ∨ digits.all isDecimalDigit then
      return .integer (← signedNumeral? base (sign.toList ++ digits))
    else return .real (← magnitude? (sign = some '-') digits)

/-! ## Points in time -/

/-- A number of two digits, within bounds. -/
def pair? (low high : Nat) (a b : Char) : Option Nat :=
  if a.isDigit && b.isDigit then
    let n := decimal [a, b]
    if low ≤ n && n ≤ high then some n else none
  else none

/-- How many days a month has. -/
def daysInMonth (year month : Nat) : Nat :=
  if month = 2 then
    if year % 4 = 0 ∧ (year % 100 ≠ 0 ∨ year % 400 = 0) then 29 else 28
  else if month ∈ [4, 6, 9, 11] then 30 else 31

/-- A day at the start of a text. The digits of the year may be of any script. -/
def day? : Text → Option (Day × Text)
  | y₁ :: y₂ :: y₃ :: y₄ :: '-' :: m₁ :: m₂ :: '-' :: d₁ :: d₂ :: rest => do
    let year := decimal (← someDigits? [y₁, y₂, y₃, y₄])
    let month ← pair? 1 12 m₁ m₂
    let day ← pair? 1 (daysInMonth year month) d₁ d₂
    if year ≥ 1 then return (⟨year, month, day⟩, rest) else none
  | _ => none

/-- The fraction of a second, cut to millionths, at the start of a text. -/
def fraction? : Text → Option (Nat × Text)
  | '.' :: s =>
    let digits := s.takeWhile Char.isDigit
    if digits.isEmpty then none
    else some (decimal ((digits ++ ['0', '0', '0', '0', '0', '0']).take 6),
      s.dropWhile Char.isDigit)
  | s => some (0, s)

/-- The seconds of a time of day, with their fraction; they may be left out. -/
def seconds? : Text → Option (Nat × Nat × Text)
  | ':' :: s₁ :: s₂ :: rest => do
    let second ← pair? 0 59 s₁ s₂
    let (micro, rest) ← fraction? rest
    return (second, micro, rest)
  | s => some (0, 0, s)

/-- A time of day at the start of a text. -/
def clock? : Text → Option (Clock × Text)
  | h₁ :: h₂ :: ':' :: m₁ :: m₂ :: rest => do
    let hour ← pair? 0 23 h₁ h₂
    let minute ← pair? 0 59 m₁ m₂
    let (second, micro, rest) ← seconds? rest
    return (⟨hour, minute, second, micro⟩, rest)
  | _ => none

/-- A whole text that is a zone, or nothing. An upright bar counts as a plus sign. -/
def zone? : Text → Option (Option Zone)
  | [] => some none
  | ['Z'] | ['z'] => some (some ⟨0, "UTC"⟩)
  | [sign, h₁, h₂, ':', m₁, m₂] => do
    let hours ← pair? 0 23 h₁ h₂
    let minutes ← pair? 0 59 m₁ m₂
    let ahead : Int := hours * 60 + minutes
    let name := [sign, h₁, h₂, ':', m₁, m₂]
    if sign = '+' ∨ sign = '|' then return some ⟨ahead, name⟩
    else if sign = '-' then return some ⟨-ahead, name⟩
    else none
  | _ => none

/-- A whole text that is a point in time. -/
def moment? (s : Text) : Option Moment :=
  match day? s with
  | some (d, []) => some (.day d)
  | some (d, sep :: rest) =>
    if sep = 'T' ∨ sep = 't' ∨ sep = ' ' then do
      let (c, rest) ← clock? rest
      return .dayAndClock d c (← zone? rest)
    else none
  | none => do
    let (c, rest) ← clock? s
    if rest.isEmpty then return .clock c else none

/-! ## Scalars -/

/-- A day with what follows it: a space and a time of day, or nothing that belongs to it. -/
def dayWithClock (token : Text) (d : Day) (rest : Text) : Except Fault (WithRest Value) := do
  let more := rest.takeWhile fun c => c == ' ' || isTokenChar c
  let clock := trimRight more
  if clock.isEmpty then return (.moment (.day d), rest)
  else return (.moment (← orMalformed (moment? (token ++ clock))), rest.drop more.length)

/-- Whether a token is a number that is no digits: one with a sign, or one of two words. -/
def isMarkedNumber (token : Text) : Bool :=
  (splitSign token).1.isSome || token == "inf" || token == "nan"

/-- A number or a point in time. -/
def scalar (s : Text) : Except Fault (WithRest Value) := do
  let token := s.takeWhile isTokenChar
  let rest := s.dropWhile isTokenChar
  if isMarkedNumber token then return (← orMalformed (number? token), rest)
  else if !(token.take 1).any Char.isDigit then .error (.unexpected s)
  else
    match moment? token with
    | some (.day d) => dayWithClock token d rest
    | some m => return (.moment m, rest)
    | none => return (← orMalformed (number? token), rest)

end Toml

end LicenseAudit
