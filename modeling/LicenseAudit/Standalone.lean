import LicenseAudit.Digest
import LicenseAudit.Session

/-!
# The standalone license

A checked directory holds a license file of its own, whose bytes are those of a template. Without
one, or with another one, a fix copies the template to the first of the names that such a file
may have.
-/

namespace LicenseAudit

open Text

/-- What became of the standalone license. -/
inductive StandaloneStatus
  /-- The root is no directory. -/
  | skipped
  | matched
  | missing
  | mismatched
  | fixed
  | noTemplate
  deriving DecidableEq, Repr

/-- The outcome of the check, with the file that was found or written. -/
structure StandaloneOutcome where
  status : StandaloneStatus
  path : Option Path := none
  deriving DecidableEq, Repr

/-- Whether the license file is still missing or wrong. -/
def StandaloneStatus.needsFix : StandaloneStatus → Bool
  | .missing | .mismatched => true
  | _ => false

/-- The name that a license file is written to. -/
def standaloneName : Text := "LICENSE"

/-- The names of a license file, in the order in which they are looked for. -/
def standaloneNames : List Text := [standaloneName, "LICENSE.txt"]

namespace Run

/-- The digest of a file. -/
def fileDigest (p : Path) : Run Text := do return digest (← readBytes p)

/-- The first of some paths that is a file. -/
def firstFile : List Path → Run (Option Path)
  | [] => return none
  | p :: rest => do
    log .debug ("- checking " ++ p.toText ++ " ...")
    if ← isFile p then return some p else firstFile rest

/-- The license file of a directory. -/
def findStandalone (root : Path) : Run (Option Path) := firstFile (standaloneNames.map root.child)

/-- Copies a file; the copy is opened only after the whole file has been read. -/
def copyFile (source target : Path) : Run Unit := do writeBytes target (← readBytes source)

/-- Whether the license file that was found is the template. -/
def compareStandalone (found template : Path) : Run Bool := do
  log .info ("found \"" ++ found.toText ++ "\"")
  let actual ← fileDigest found
  let expected ← fileDigest template
  log .debug ("existing license file MD5 hash is: " ++ actual)
  log .debug ("expected license file MD5 hash is: " ++ expected)
  if actual = expected then
    log .info "license file matches"
    return true
  else
    log .info "license file does not match, should be fixed"
    return false

/-- Copies the template to a root that lacks a right license file. -/
def repairStandalone (root template : Path) (fix : Bool) (outcome : StandaloneOutcome) :
    Run StandaloneOutcome := do
  if fix then
    let target := root.child standaloneName
    copyFile template target
    log .info ("\"" ++ target.toText ++ "\" license file created")
    return ⟨.fixed, some target⟩
  else return outcome

/-- Checks the standalone license of a root, and puts it right when asked to. -/
def checkStandalone (root template : Path) (fix : Bool) : Run StandaloneOutcome := do
  log .info ("> validating \"" ++ root.toText ++ "\" for standalone license \"" ++
    template.toText ++ "\" ...")
  if !(← isDirectory root) then
    log .warning ("\"" ++ root.toText ++ "\" is not a directory, skipped")
    return ⟨.skipped, none⟩
  if !(← isFile template) then fail (.noTemplate template)
  match ← findStandalone root with
  | none =>
    log .info "No standalone license file found, should be fixed."
    repairStandalone root template fix ⟨.missing, none⟩
  | some found =>
    if ← compareStandalone found template then return ⟨.matched, some found⟩
    else repairStandalone root template fix ⟨.mismatched, some found⟩

end Run

end LicenseAudit
