import LicenseAudit.Command.Usage
import LicenseAudit.Session

/-!
# Tasks

A task is a run that may end the whole command: with an exit code, with a message to the error
output, or with a failure that no command accounts for.
-/

namespace LicenseAudit

open Text

/-- The exit codes that commands give. -/
inductive ExitCode
  | success
  /-- Files need fixing. -/
  | wouldChange
  /-- The command line was not understood by the reader of options. -/
  | badSyntax
  /-- The command line asks for what does not go together. -/
  | badUsage
  | badEncoding
  | noInput
  | unsupported
  | inputOutput
  | badSettings
  deriving DecidableEq, Repr

/-- The number of an exit code. -/
def ExitCode.toNat : ExitCode → Nat
  | .success => 0
  | .wouldChange => 2
  | .badSyntax => 2
  | .badUsage => 64
  | .badEncoding => 65
  | .noInput => 66
  | .unsupported => 69
  | .inputOutput => 74
  | .badSettings => 78

/-- How a command ends. -/
inductive Ending
  | exit (code : ExitCode)
  /-- It stops with a report on the error output. -/
  | refused (code : ExitCode) (report : Text)
  /-- It stops with a failure that it does not account for. -/
  | broken (f : Failure)
  deriving DecidableEq, Repr

namespace Ending

/-- The exit code as a number. -/
def code : Ending → Nat
  | .exit c => c.toNat
  | .refused c _ => c.toNat
  | .broken _ => 1

/-- What is written to the error output. -/
def errorOutput : Ending → Text
  | .refused _ report => report
  | _ => []

/-- An ending with a message. -/
def error (code : ExitCode) (message : Text) : Ending :=
  .refused code ("Error: " ++ message ++ ['\n'])

/-- An ending because of the words of a command. -/
def misused (c : Command) (f : UsageFault) : Ending := .refused .badSyntax (f.report c)

end Ending

/-- A run that may end the command. -/
abbrev Task := ExceptT Ending (StateM Session)

namespace Task

/-- Ends the command. -/
def finish {α : Type} (e : Ending) : Task α := throw e

/-- A run in a command; `settle` says how the command ends when the run fails. -/
def attempt {α : Type} (settle : Failure → Ending) (r : Run α) : Task α := ExceptT.adapt settle r

/-- A run whose failure the command does not account for. -/
def ofRun {α : Type} (r : Run α) : Task α := attempt .broken r

end Task

/-- Where a command writes for its user, and how. -/
structure Terminal where
  /-- Whether colors are wanted. -/
  colored : Bool
  /-- Whether only problems are wanted. -/
  quiet : Bool
  deriving DecidableEq, Repr

namespace Terminal

/-- A text as it is written: without codes when no colors are wanted. -/
def plainOr (t : Terminal) (s : Text) : Text := if t.colored then s else stripStyles s

/-- A text with codes before it, when colors are wanted. -/
def styled (t : Terminal) (codes : List Nat) (s : Text) : Text :=
  if t.colored then emphasize codes s else s

/-- A text in a style, when colors are wanted. -/
def label (t : Terminal) (style : Style) (s : Text) : Text :=
  if t.colored then style.paint s else s

/-- A warning as it is written. -/
def warning (t : Terminal) (s : Text) : Text := t.plainOr (emphasize [33] s)

/-- An error as it is written. -/
def error (t : Terminal) (s : Text) : Text := t.plainOr (emphasize [91] s)

/-- Writes a line. -/
def line (t : Terminal) (s : Text) : Task Unit := Task.ofRun (Run.write (t.plainOr s ++ ['\n']))

/-- Writes lines. -/
def lines (t : Terminal) : List Text → Task Unit
  | [] => return ()
  | s :: rest => do
    t.line s
    lines t rest

/-- Bold. -/
def bold : List Nat := [1]

/-- Bold and underlined. -/
def heading : List Nat := [1, 4]

end Terminal

end LicenseAudit
