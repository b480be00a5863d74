import LicenseAudit.Grammar.Builtin
import LicenseAudit.Ignore.Pattern
import LicenseAudit.Session
import LicenseAudit.Settings.Value

/-!
# Discovery

Which files below a root are checked: those whose name belongs to a grammar and whose path from
the root no pattern ignores, in the order of their components. A root that is a file is checked
whatever it is called.
-/

namespace LicenseAudit

open Text

/-- The path from a root as patterns and year maps use it; a path that is not below the root or
that leads nowhere stays as it is. -/
def relativeKey (cwd : Location) (p root : Path) : Text :=
  let base := root.resolve cwd
  let loc := p.resolve cwd
  if p.holdsNull || root.holdsNull then p.toText
  else if base.isPrefixOf loc then (⟨[], loc.drop base.length⟩ : Path).toText else p.toText

/-- The files below a root that belong to a grammar. -/
def FileTree.candidates (t : FileTree) (cwd : Location) (table : List Grammar) (root : Path) :
    List Path :=
  match t.locate cwd root with
  | .error _ => []
  | .ok loc => (t.below loc).filterMap fun (parts, node) =>
    let p : Path := { root with parts := root.parts ++ parts }
    if node.isDirectory || (lookupGrammar? table p.name).isNone then none else some p

/-- Paths in the order of their components. -/
def sortPaths (ps : List Path) : List Path := ps.mergeSort Path.notAfter

/-! ## Ignore lists -/

/-- The name of the file that lists what to ignore. -/
def ignoreFileName : Text := ".gitignore"

/-- What is ignored whatever else is listed. -/
def alwaysIgnored : List Text := [".git/"]

/-- The patterns that an ignore file lists: its lines without blanks at their ends, but not the
blank ones and comments. -/
def ignoreFilePatterns (s : Text) : List Text :=
  ((splitAtBreaks s).map trimRight).filter fun line =>
    !line.isEmpty && !startsWith ['#'] (trimLeft line)

/-- How a message shows texts in brackets. -/
def shownTexts (ss : List Text) : Text := (Value.list (ss.map .text)).shown

namespace Run

/-- The patterns of a root's ignore file; without a file there are none. -/
def ignoreFile (root : Path) : Run (List Text) := do
  let p := root.child ignoreFileName
  checkPath p
  match ← look fun t cwd => t.read cwd p with
  | .error .missing => return []
  | .error fault =>
    log .error ("Cannot read ignore patterns from '" ++ p.toText ++ "': " ++ fault.message p)
    return []
  | .ok content =>
    match Utf8.decode content with
    | .error m => fail (.malformedText m)
    | .ok s =>
      let patterns := ignoreFilePatterns (unifyNewlines s)
      log .debug ("Loaded " ++ ofInt patterns.length ++ " pattern(s) from " ++ p.toText)
      return patterns

/-- What is ignored below a root: by its ignore file, always, and by the excludes, in this
order. -/
def ignoreList (root : Path) (excludes : List Text) (useGitignore : Bool) :
    Run (List IgnorePattern) := do
  let listed ← if useGitignore then ignoreFile root else pure []
  let patterns := listed ++ alwaysIgnored ++ splitExcludes excludes
  log .debug ("ignore patterns: " ++ shownTexts patterns)
  match readPatterns patterns with
  | .ok patterns => return patterns
  | .error f => fail f

/-! ## Files -/

/-- The files below a root that belong to a grammar. -/
def candidates (table : List Grammar) (root : Path) : Run (List Path) :=
  look fun t cwd => t.candidates cwd table root

/-- The files to check below a root. -/
def discover (table : List Grammar) (root : Path) (excludes : List Text) (useGitignore : Bool) :
    Run (List Path) := do
  if ← isFile root then return [root]
  if !(← isDirectory root) then
    log .warning ("No such file or directory: " ++ root.toText)
    return []
  log .info "finding files ..."
  let patterns ← ignoreList root excludes useGitignore
  let paths ← candidates table root
  let cwd := (← get).workingDirectory
  let isIgnored := fun p => ignores patterns (relativeKey cwd p root)
  logAll ((paths.filter isIgnored).map fun p => ⟨.trace, "ignored: " ++ p.toText⟩)
  let found := sortPaths (paths.filter fun p => !isIgnored p)
  log .info ("found " ++ ofInt found.length ++ " files")
  return found

end Run

end LicenseAudit
