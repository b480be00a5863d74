import LicenseAudit.Failure
import LicenseAudit.Log.Record
import LicenseAudit.Text.Blank
import LicenseAudit.Text.Digits

/-!
# The level of the log

From which level on records are shown: the environment may name a level or give its number, and
the command line asks for more or less by how often it says so.
-/

namespace LicenseAudit

open Text

/-- A letter as level names have it: in upper case, the dotless i and the long s included. -/
def levelLetter (c : Char) : Char :=
  if c = 'ı' then 'I' else if c = 'ſ' then 'S' else c.toUpper

namespace Level

/-- The names that the environment may give. -/
def names : List (Text × Level) :=
  [("TRACE", trace), ("DEBUG", debug), ("INFO", info), ("WARNING", warning), ("WARN", warning),
    ("ERROR", error), ("CRITICAL", critical), ("FATAL", critical), ("NOTSET", 0)]

/-- The level that the environment gives, in any case and with blanks around it. A text that is
neither a name nor digits gives none. Digits have to make a number, of no more than
`Text.numeralLimit` digits; how many there are is told before whether they make one. -/
def ofEnvironment : Option Text → Except Failure (Option Level)
  | none => .ok none
  | some setting =>
    let s := (trim setting).map levelLetter
    if s.isEmpty || !s.all isDigitLike then .ok (names.lookup s)
    else
      let count := (s.takeWhile isDecimalDigit).length
      if count > numeralLimit then .error (.numeralTooLong count)
      else match readNumeral? s with
        | some n => .ok (some n)
        | none => .error (.notANumeral s)

/-- The level that counts of calls for more and for less output ask for. -/
def ofCounts (more less : Int) : Except Failure Level :=
  if more > 0 ∧ less > 0 then .error .verbosityConflict
  else if more ≥ 3 then .ok trace
  else if more = 2 then .ok debug
  else if more = 1 then .ok info
  else if less ≥ 1 then .ok critical
  else .ok warning

/-- The level of the log: the one that is asked for, else the one in the environment unless it is
zero, else the highest. -/
def settle (asked : Option Level) (environment : Option Text) : Except Failure Level :=
  match asked with
  | some level => .ok level
  | none => do
    match ← ofEnvironment environment with
    | some level => return if level = 0 then critical else level
    | none => return critical

end Level

end LicenseAudit
