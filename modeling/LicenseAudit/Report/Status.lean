import LicenseAudit.Audit
import LicenseAudit.Standalone

/-!
# Statuses

The outcomes of checks in words and colors.
-/

namespace LicenseAudit

/-- What became of a file, without the details. -/
inductive FileStatus
  | matched
  | needsFix
  | fixed
  | unsupported
  | unreadable
  | undecodable
  deriving DecidableEq, Repr

namespace FileStatus

/-- All statuses, in the order of a summary. -/
def all : List FileStatus := [matched, needsFix, fixed, unsupported, unreadable, undecodable]

/-- The status in words. -/
def text : FileStatus → Text
  | matched => "license header matched"
  | needsFix => "license header missing or stale"
  | fixed => "license header fixed"
  | unsupported => "no comment grammar for file"
  | unreadable => "file could not be read or written"
  | undecodable => "file is not valid UTF-8"

/-- The color of the status. -/
def style : FileStatus → Style
  | matched => .green
  | needsFix => .yellow
  | fixed => .blue
  | unsupported => .red
  | unreadable | undecodable => .brightRed

end FileStatus

namespace StandaloneStatus

/-- The status in words. -/
def text : StandaloneStatus → Text
  | skipped => "skipped (not a directory)"
  | matched => "license file matches"
  | missing => "no standalone license file"
  | mismatched => "license file does not match"
  | fixed => "license file created"
  | noTemplate => "standalone license template not found"

/-- The color of the status. -/
def style : StandaloneStatus → Style
  | skipped => .gray
  | matched => .green
  | missing | mismatched => .red
  | fixed => .blue
  | noTemplate => .brightRed

end StandaloneStatus

/-- The status of a verdict. -/
def Verdict.status (v : Verdict) : FileStatus :=
  match v.finding with
  | .matched _ => .matched
  | .needsFix _ => .needsFix
  | .fixed .. => .fixed

/-- The status of a file that could not be checked. -/
def Failure.status : Failure → FileStatus
  | .noGrammar _ => .unsupported
  | .malformedText _ => .undecodable
  | _ => .unreadable

/-- The status of an outcome. -/
def FileOutcome.status : FileOutcome → FileStatus
  | .checked v => v.status
  | .failed _ f => f.status

end LicenseAudit
