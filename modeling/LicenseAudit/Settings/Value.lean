import LicenseAudit.Number.Shortest
import LicenseAudit.Text.Quoted

/-!
# Setting values

The values that a settings file holds: texts, integers, reals, truth values, dates and times,
lists, and tables with their keys in the order of the file. `Value.shown` is how a message shows
a value.
-/

namespace LicenseAudit

/-- A calendar day. -/
structure Day where
  year : Nat
  month : Nat
  day : Nat
  deriving DecidableEq, Repr

/-- A time of day. -/
structure Clock where
  hour : Nat
  minute : Nat
  second : Nat
  microsecond : Nat
  deriving DecidableEq, Repr

/-- How local time differs from universal time. -/
structure Zone where
  /-- Minutes ahead, or behind when negative. -/
  minutes : Int
  name : Text
  deriving DecidableEq, Repr

/-- A point in time, as far as it is given. -/
inductive Moment
  | day (d : Day)
  | clock (c : Clock)
  | dayAndClock (d : Day) (c : Clock) (zone : Option Zone)
  deriving DecidableEq, Repr

/-- A value of a settings file. -/
inductive Value
  /-- A key that is there without a value. -/
  | empty
  | text (s : Text)
  | integer (n : Int)
  | real (r : Real)
  | truth (b : Bool)
  | moment (m : Moment)
  | list (items : List Value)
  | table (entries : List (Text × Value))
  deriving Repr, Inhabited

/-- A table: keys with values, in the order of the file. -/
abbrev Table := List (Text × Value)

/-- The value of a key. -/
def Table.get? (t : Table) (key : Text) : Option Value :=
  (t.find? (·.1 == key)).map (·.2)

/-! ## Showing values -/

/-- The numbers of a call, separated by commas. -/
def commaSeparated (ns : List Nat) : Text :=
  Text.joinWith ", " (ns.map fun n : Nat => Text.ofInt n)

/-- Hour and minute, with the finer parts only when they or still finer ones are not zero. -/
def Clock.numbers (c : Clock) : List Nat :=
  if c.microsecond ≠ 0 then [c.hour, c.minute, c.second, c.microsecond]
  else if c.second ≠ 0 then [c.hour, c.minute, c.second]
  else [c.hour, c.minute]

/-- The parts of a day. -/
def Day.numbers (d : Day) : List Nat := [d.year, d.month, d.day]

/-- How a difference to universal time is shown: whole days and the seconds beyond them. -/
def Zone.shown (zone : Zone) : Text :=
  let seconds := zone.minutes * 60
  let difference : Text :=
    if seconds < 0 then
      "datetime.timedelta(days=-1, seconds=" ++ Text.ofInt (seconds + 86400) ++ ")"
    else if seconds = 0 then "datetime.timedelta(0)"
    else "datetime.timedelta(seconds=" ++ Text.ofInt seconds ++ ")"
  "datetime.timezone(" ++ difference ++ ", " ++ Text.quoted zone.name ++ ")"

/-- How a point in time is shown. -/
def Moment.shown : Moment → Text
  | .day d => "datetime.date(" ++ commaSeparated d.numbers ++ ")"
  | .clock c => "datetime.time(" ++ commaSeparated c.numbers ++ ")"
  | .dayAndClock d c zone =>
    let zoneText : Text :=
      match zone with
      | some z => ", tzinfo=" ++ z.shown
      | none => []
    "datetime.datetime(" ++ commaSeparated (d.numbers ++ c.numbers) ++ zoneText ++ ")"

mutual

/-- How a value is shown. -/
def Value.shown : Value → Text
  | .empty => "None"
  | .text s => Text.quoted s
  | .integer n => Text.ofInt n
  | .real r => r.shown
  | .truth b => if b then "True" else "False"
  | .moment m => m.shown
  | .list items => '[' :: showItems items ++ [']']
  | .table entries => '{' :: showEntries entries ++ ['}']

/-- List items, separated by commas. -/
def showItems : List Value → Text
  | [] => []
  | [v] => v.shown
  | v :: rest => v.shown ++ ", " ++ showItems rest

/-- Table entries, separated by commas. -/
def showEntries : List (Text × Value) → Text
  | [] => []
  | [(key, v)] => Text.quoted key ++ ": " ++ v.shown
  | (key, v) :: rest => Text.quoted key ++ ": " ++ v.shown ++ ", " ++ showEntries rest

end

end LicenseAudit
