import LicenseAudit.Failure
import LicenseAudit.Log.Record
import LicenseAudit.Report.Style
import LicenseAudit.Text.Lines
import LicenseAudit.Tree.Walk

/-!
# Sessions

A session is what a run sees and leaves behind: the file tree with the working directory, the
current year, the records logged, and what was written to the terminal. A `Run` works in a
session and may fail; what it did before it failed stays done.

Every record goes to the session's list. From the level of the terminal on it is also shown there
in color, and written to the log file when there is one. A terminal that shows records below `INFO`
should also be told where in the program each of them was logged; these places are left out
(`LogRecord.shown`).
-/

namespace LicenseAudit

open Text

/-- What a run sees and leaves behind. -/
structure Session where
  tree : FileTree
  workingDirectory : Location := []
  currentYear : Int
  /-- What is written as the time of a record in the log file. -/
  timeStamp : Text
  /-- All records, in order. -/
  records : Array LogRecord := #[]
  /-- The level from which on records are shown; without one nothing is shown. -/
  threshold : Option Level := none
  /-- Where shown records are written to as well. -/
  logFile : Option Location := none
  /-- What was written to the standard output, piece by piece. -/
  output : Array Text := #[]

/-- A piece of work in a session. -/
abbrev Run := ExceptT Failure (StateM Session)

/-! ## Records -/

/-- The style of a level on the terminal. -/
def Level.style (l : Level) : Style :=
  if l ≥ Level.critical then .brightRed
  else if l ≥ Level.error then .red
  else if l ≥ Level.warning then .yellow
  else if l ≥ Level.info then .green
  else if l ≥ Level.debug then .gray
  else if l ≥ Level.trace then .blue
  else .dimRed

namespace LogRecord

/-- The record on the terminal, in the form that is right from the threshold `INFO` on. Below it
the file, the line and the function that logged the record should stand in brackets behind the
level. They are places in a program's text and not part of what a session knows, so they are left
out and the short form is shown at every threshold. -/
def shown (r : LogRecord) : Text :=
  r.level.style.paint ('[' :: r.level.name ++ "] " ++ r.message)

/-- The record in a log file. -/
def fileLine (stamp : Text) (r : LogRecord) : Text :=
  stamp ++ ' ' :: r.level.name ++ ": " ++ r.message ++ ['\n']

end LogRecord

namespace Session

/-- The session after a record that is shown. -/
def display (s : Session) (r : LogRecord) : Session :=
  { s with
    output := s.output.push (r.shown ++ ['\n'])
    tree :=
      match s.logFile with
      | some loc => s.tree.append loc (Utf8.encode (r.fileLine s.timeStamp))
      | none => s.tree }

/-- The session after a record. -/
def log (s : Session) (r : LogRecord) : Session :=
  let s := { s with records := s.records.push r }
  match s.threshold with
  | some level => if r.level ≥ level then s.display r else s
  | none => s

end Session

namespace Run

/-- Stops with a failure. -/
def fail {α : Type} (f : Failure) : Run α := throw f

/-- Logs records in order. -/
def logAll (rs : List LogRecord) : Run Unit := modify fun s => rs.foldl Session.log s

/-- Logs a message. -/
def log (level : Level) (message : Text) : Run Unit := logAll [⟨level, message⟩]

/-- Writes to the standard output. -/
def write (s : Text) : Run Unit := modify fun t => { t with output := t.output.push s }

/-- The result of looking at the tree. -/
def look {α : Type} (f : FileTree → Location → α) : Run α := do
  let s ← get
  return f s.tree s.workingDirectory

/-! ## Files -/

/-- What a path names. A path that holds the character that ends a path names nothing; to ask for
one that is too long is a failure. -/
def find? (p : Path) : Run (Option Node) := do
  if p.holdsNull then return none
  match ← look fun t cwd => t.locate cwd p with
  | .error .nameTooLong => fail (.file .nameTooLong p)
  | .error _ => return none
  | .ok loc => look fun t _ => t.get? loc

/-- Whether a path names something. -/
def has (p : Path) : Run Bool := do return (← find? p).isSome

/-- Whether a path names a file. -/
def isFile (p : Path) : Run Bool := do return (← find? p).any fun n => !n.isDirectory

/-- Whether a path names a directory. -/
def isDirectory (p : Path) : Run Bool := do return (← find? p).any Node.isDirectory

/-- Stops when a path holds the character that ends a path. -/
def checkPath (p : Path) : Run Unit := if p.holdsNull then fail .nullInPath else return ()

/-- The bytes of a file. -/
def readBytes (p : Path) : Run Bytes := do
  checkPath p
  match ← look fun t cwd => t.read cwd p with
  | .ok content => return content
  | .error fault => fail (.file fault p)

/-- The text of a file as it is. -/
def readText (p : Path) : Run Text := do
  match Utf8.decode (← readBytes p) with
  | .ok s => return s
  | .error m => fail (.malformedText m)

/-- The text of a file with line feeds for all line ends. -/
def readLines (p : Path) : Run Text := do return unifyNewlines (← readText p)

/-- Writes a file. -/
def writeBytes (p : Path) (content : Bytes) : Run Unit := do
  checkPath p
  match ← look fun t cwd => t.write cwd p content with
  | .ok tree => modify fun s => { s with tree }
  | .error fault => fail (.file fault p)

/-- Writes a file as UTF-8. -/
def writeText (p : Path) (s : Text) : Run Unit := writeBytes p (Utf8.encode s)

/-- Makes a directory and those above it, as far as they are not there. -/
def makeDirectories (p : Path) : Run Unit := do
  checkPath p
  match ← look fun t cwd => t.ensureDirectories cwd p with
  | .ok tree => modify fun s => { s with tree }
  | .error (fault, at_) => fail (.file fault at_)

end Run

end LicenseAudit
