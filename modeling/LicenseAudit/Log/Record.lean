import LicenseAudit.Text.Basic

/-!
# Log records

A record is a message with a severity. The library says what it would log by computing lists of
records; which of them are shown or kept is decided where they are written.
-/

namespace LicenseAudit

/-- A severity: the larger, the graver. -/
abbrev Level := Int

namespace Level

def trace : Level := 5
def debug : Level := 10
def info : Level := 20
def warning : Level := 30
def error : Level := 40
def critical : Level := 50

/-- The name of a severity; one without a name is shown by its number. -/
def name (l : Level) : Text :=
  if l = critical then "CRITICAL"
  else if l = error then "ERROR"
  else if l = warning then "WARNING"
  else if l = info then "INFO"
  else if l = debug then "DEBUG"
  else if l = trace then "TRACE"
  else if l = 0 then "NOTSET"
  else "Level " ++ Text.ofInt l

end Level

/-- One logged message. -/
structure LogRecord where
  level : Level
  message : Text
  deriving DecidableEq, Repr

end LicenseAudit
