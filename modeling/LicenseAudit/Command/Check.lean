import LicenseAudit.Command.Task
import LicenseAudit.Report.Status
import LicenseAudit.Settings.Load

/-!
# The check command

`check` puts the settings of the run together, checks the standalone license and all headers
below a path, and reports file by file. Its exit code says the gravest thing there is to say:
a file that could not be checked, a template that is missing, a file that needs fixing.
-/

namespace LicenseAudit

open Text

/-- The words of a check, understood. -/
structure CheckCall where
  path : Path
  overrides : Overrides
  /-- A settings file named on the command line. -/
  settings : Option Path
  /-- Whether no settings file is looked for in the root. -/
  noDiscovery : Bool
  summary : Bool
  deriving DecidableEq, Repr

/-! ## Reporting -/

/-- The span of a block. -/
def Block.span (b : Block) : Text := ofInt b.startLine ++ '~' :: ofInt b.endLine

/-- The spans of blocks. -/
def spans (blocks : List Block) : Text := joinWith ", " (blocks.map Block.span)

/-- What is said about the lines of a file. -/
def Verdict.detail (v : Verdict) : Text :=
  match v.finding with
  | .matched b => "(lines " ++ b.span ++ ")"
  | .needsFix [] | .fixed [] _ => []
  | .needsFix blocks => "(found lines " ++ spans blocks ++ ")"
  | .fixed blocks _ => "(replacing lines " ++ spans blocks ++ ")"

/-- The status of a file as it is written. -/
def FileStatus.label (s : FileStatus) (t : Terminal) : Text := t.label s.style s.text

/-- The status of the standalone license as it is written. -/
def StandaloneStatus.label (s : StandaloneStatus) (t : Terminal) : Text := t.label s.style s.text

/-- The line about a checked file. -/
def Verdict.line (v : Verdict) (t : Terminal) : Text :=
  trimRight (v.status.label t ++ ": " ++ v.path.toText ++ ' ' :: v.detail)

/-- The line about a file that could not be checked. -/
def failureLine (t : Terminal) (e : Path × Failure) : Text :=
  e.2.status.label t ++ ": " ++ e.1.toText ++ " (" ++ e.2.message ++ ")"

/-- The line about the standalone license. -/
def StandaloneOutcome.line (o : StandaloneOutcome) (t : Terminal) (root : Path) : Text :=
  o.status.label t ++ ": " ++ (o.path.getD root).toText

/-- Whether the standalone license is worth a line. -/
def StandaloneOutcome.isReported (o : StandaloneOutcome) (t : Terminal) : Bool :=
  o.status != .skipped && (!t.quiet || o.status != .matched)

/-- The lines of the report: checked files first, then the ones that could not be checked. -/
def AuditReport.lines (r : AuditReport) (t : Terminal) : List Text :=
  (r.verdicts.filter fun v => !(t.quiet && v.isMatched)).map (·.line t) ++
    r.failures.map (failureLine t)

/-- The lines that count the outcomes. -/
def AuditReport.summaryLines (r : AuditReport) (standalone : Option StandaloneOutcome)
    (t : Terminal) : List Text :=
  let counts := FileStatus.all.filterMap fun s =>
    let n := (r.outcomes.filter (·.status == s)).length
    if n = 0 then none else some ("  " ++ s.label t ++ ": " ++ ofInt n)
  let last :=
    match standalone with
    | some o => ["  standalone: " ++ o.status.label t]
    | none => []
  [[], t.styled Terminal.heading "Summary:"] ++ counts ++ last

/-- The exit code for a file that could not be checked. -/
def FileStatus.exitCode : FileStatus → ExitCode
  | .undecodable => .badEncoding
  | .unreadable => .inputOutput
  | _ => .unsupported

/-- The exit code of a check. -/
def checkExit (r : AuditReport) (standalone : Option StandaloneOutcome) : ExitCode :=
  match r.failures with
  | (_, f) :: _ => f.status.exitCode
  | [] =>
    if standalone.any (·.status == .noTemplate) then .noInput
    else if !r.needsFix.isEmpty || standalone.any (·.status.needsFix) then .wouldChange
    else .success

/-! ## Running -/

/-- How a check ends when its settings cannot be put together. -/
def settingsEnding (f : Failure) : Ending :=
  match f with
  | .settingsUnreadable .. | .settingsMalformed _ => .error .badSettings f.message
  | .file .. | .malformedText _ =>
    .error .inputOutput ("Cannot read year map: " ++ f.message)
  | _ => .broken f

/-- How a check ends when the standalone license cannot be read or written. -/
def standaloneEnding (f : Failure) : Ending :=
  match f with
  | .file .. => .error .inputOutput f.message
  | _ => .broken f

/-- How a check ends when the headers cannot be checked at all. -/
def auditEnding (f : Failure) : Ending :=
  match f with
  | .noTemplate _ | .noRoot _ | .file .missing _ => .error .noInput f.message
  | .file .. => .error .inputOutput f.message
  | _ => .broken f

namespace Run

/-- Opens a log file, which is made with the directories above it if need be. -/
def openLog (p : Path) : Run Unit := do
  makeDirectories p.parent
  checkPath p
  let s ← get
  let loc := p.resolve s.workingDirectory
  let absolute := Path.ofLocation loc
  match s.tree.writable s.workingDirectory absolute with
  | .error fault => fail (.file fault absolute)
  | .ok loc => set { s with tree := s.tree.append loc [], logFile := some loc }

/-- Checks the standalone license; a template that is missing is an outcome. -/
def standaloneOutcome (root template : Path) (fix : Bool) : Run StandaloneOutcome := do
  try checkStandalone root template fix
  catch f =>
    match f with
    | .noTemplate _ =>
      log .error f.message
      return ⟨.noTemplate, some template⟩
    | f => fail f

/-- The settings of a check. -/
def checkSettings (c : CheckCall) : Run Settings := do
  let top ← overridesDraft c.overrides
  resolveSettings c.path c.settings c.noDiscovery top

end Run

/-- What is asked of the audit by settings. -/
def Settings.auditOrder (s : Settings) : AuditOrder where
  template := s.headerLicense
  fix := s.fix
  excludes := s.excludes
  years := s.years
  useGitignore := s.useGitignore

namespace Task

/-- The standalone license of a check, unless the settings leave it out. -/
def checkStandalone (root : Path) (s : Settings) : Task (Option StandaloneOutcome) :=
  match s.standaloneLicense with
  | none => return none
  | some template => do
    let o ← attempt standaloneEnding (Run.standaloneOutcome root template s.fix)
    return some o

/-- Opens the log file of the settings. -/
def openLog (s : Settings) : Task Unit :=
  match s.logFile with
  | none => return ()
  | some p => ofRun (Run.openLog p)

/-- Writes the report of a check. -/
def report (t : Terminal) (c : CheckCall) (r : AuditReport)
    (standalone : Option StandaloneOutcome) : Task Unit := do
  match standalone with
  | some o => if o.isReported t then t.line (o.line t c.path)
  | none => pure ()
  t.lines (r.lines t)
  if c.summary then t.lines (r.summaryLines standalone t)

/-- Carries out a check. -/
def check (t : Terminal) (c : CheckCall) : Task Ending := do
  if !(← ofRun (Run.has c.path)) then
    finish (.error .noInput (Failure.noRoot c.path).message)
  let s ← attempt settingsEnding (Run.checkSettings c)
  openLog s
  let standalone ← checkStandalone c.path s
  let r ← attempt auditEnding (Run.audit c.path s.auditOrder)
  report t c r standalone
  return .exit (checkExit r standalone)

end Task

end LicenseAudit
