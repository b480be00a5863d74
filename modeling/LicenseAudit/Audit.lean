import LicenseAudit.Discovery
import LicenseAudit.Settings.YearMap
import LicenseAudit.Verdict

/-!
# Audits

The header check of all files below a root. Every file is checked on its own; one that cannot be
read, has no grammar, or cannot be written is reported and the audit goes on.
-/

namespace LicenseAudit

open Text

/-- What is asked of an audit. -/
structure AuditOrder where
  /-- The template of the header. -/
  template : Path
  fix : Bool
  /-- Patterns of files to leave out. -/
  excludes : List Text := []
  /-- First copyright years by path. -/
  years : YearMap := .empty
  useGitignore : Bool := true
  /-- The year of the run, when it is not the session's. -/
  currentYear : Option Int := none

/-- What became of one file. -/
inductive FileOutcome
  | checked (verdict : Verdict)
  | failed (path : Path) (cause : Failure)
  deriving DecidableEq, Repr

/-- What became of all files, in the order in which they were checked. -/
structure AuditReport where
  root : Path
  outcomes : List FileOutcome
  deriving DecidableEq, Repr

/-- The verdict on a file that was checked. -/
def FileOutcome.verdict? : FileOutcome → Option Verdict
  | .checked v => some v
  | .failed .. => none

/-- The path and the cause of a failure. -/
def FileOutcome.failure? : FileOutcome → Option (Path × Failure)
  | .checked _ => none
  | .failed p f => some (p, f)

namespace AuditReport

/-- The verdicts. -/
def verdicts (r : AuditReport) : List Verdict := r.outcomes.filterMap FileOutcome.verdict?

/-- The files that could not be checked. -/
def failures (r : AuditReport) : List (Path × Failure) :=
  r.outcomes.filterMap FileOutcome.failure?

/-- The files with a wrong header that stays. -/
def needsFix (r : AuditReport) : List Verdict := r.verdicts.filter Verdict.needsFix

/-- The files that were fixed. -/
def fixed (r : AuditReport) : List Verdict := r.verdicts.filter Verdict.isFixed

/-- Whether no file needs anything. -/
def isClean (r : AuditReport) : Bool := r.needsFix.isEmpty && r.failures.isEmpty

/-- The record that counts the outcomes. -/
def countRecord (r : AuditReport) : LogRecord :=
  ⟨.info, "checked " ++ ofInt r.outcomes.length ++ " file(s): " ++
    ofInt (r.verdicts.filter Verdict.isMatched).length ++ " matched, " ++
    ofInt r.needsFix.length ++ " need fix, " ++ ofInt r.fixed.length ++ " fixed, " ++
    ofInt r.failures.length ++ " failed"⟩

end AuditReport

/-- Whether a failure concerns one file only, so that an audit goes on after it. -/
def Failure.isLocal : Failure → Bool
  | .noGrammar _ | .malformedText _ | .file .. => true
  | _ => false

/-- What is logged about a file that could not be checked. -/
def Failure.auditRecord (f : Failure) (p : Path) : LogRecord :=
  match f with
  | .malformedText m => ⟨.error, "  encoding error in " ++ p.toText ++ ": " ++ m.message⟩
  | .file fault q => ⟨.error, "  cannot process " ++ p.toText ++ ": " ++ fault.message q⟩
  | f => ⟨.error, "  " ++ f.message⟩

namespace Run

/-- The text of a license template. -/
def readTemplate (p : Path) : Run Text := do
  if ← isFile p then readText p else fail (.noTemplate p)

/-- Checks the header of one file and writes the file when it was fixed. -/
def checkFile (order : Order) (p : Path) : Run Verdict := do
  let s ← readText p
  match lookupGrammar? builtinGrammars p.toText with
  | none => fail (.noGrammar p.toText)
  | some g =>
    logAll (checkRecords g p.toText order s)
    let v := checkWith g p order s
    match v.newText? with
    | none => return v
    | some new =>
      writeText p new
      log .info ("  \"" ++ p.toText ++ "\" license header fixed")
      return v

/-- Checks one file of an audit; its failure is an outcome. -/
def auditFile (order : Order) (p : Path) : Run FileOutcome := do
  log .info ("- processing " ++ p.toText ++ " ...")
  try
    let v ← checkFile order p
    pure (.checked v)
  catch f =>
    if f.isLocal then do
      logAll [f.auditRecord p]
      pure (.failed p f)
    else fail f

/-- Checks the files of an audit one after the other. -/
def auditFiles (orderOf : Path → Order) : List Path → Run (List FileOutcome)
  | [] => return []
  | p :: rest => do
    let outcome ← auditFile (orderOf p) p
    return outcome :: (← auditFiles orderOf rest)

/-- Checks the headers of all files below a root. -/
def audit (root : Path) (a : AuditOrder) : Run AuditReport := do
  log .info ("> validating \"" ++ root.toText ++ "\" for header license \"" ++
    a.template.toText ++ "\" ...")
  if !(← has root) then fail (.noRoot root)
  let license ← readTemplate a.template
  log .debug ("file license start years: " ++ a.years.shown)
  let base := if ← isDirectory root then root else root.parent
  let paths ← discover builtinGrammars root a.excludes a.useGitignore
  let session ← get
  let orderOf := fun p =>
    { license
      currentYear := a.currentYear.getD session.currentYear
      startYear := a.years.get? (relativeKey session.workingDirectory p base)
      fix := a.fix }
  let report : AuditReport := ⟨root, ← auditFiles orderOf paths⟩
  logAll [report.countRecord]
  return report

end Run

end LicenseAudit
