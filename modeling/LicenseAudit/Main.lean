import LicenseAudit.Command.Line
import Std.Time.Format

/-!
# The program

The command line on the files of the system. What the words can reach is read into a tree, the
command runs on the tree, and the files that it changed are written back.
-/

namespace LicenseAudit

namespace Main

/-- The written form of a location. -/
def written (loc : Location) : String := String.ofList (Path.ofLocation loc).toText

/-- The entry of the system at a location. -/
def entryAt (loc : Location) : IO.FS.DirEntry where
  root := written loc.dropLast
  fileName := String.ofList (loc.getLastD [])

/-- Whether a file that can be read can be written too. -/
def accessAt (loc : Location) : IO Access := do
  try
    discard (IO.FS.Handle.mk (entryAt loc).path .readWrite)
    return .full
  catch _ => return .readOnly

/-- The file at a location of the system. -/
def readFile (loc : Location) : IO Node := do
  try
    let content ← IO.FS.readBinFile (entryAt loc).path
    return .file content.toList (← accessAt loc)
  catch _ => return .file [] .sealed

/-- What stands at a location of the system. -/
def readNode (loc : Location) : IO (Option Node) := do
  let p := (entryAt loc).path
  if ← p.isDir then return some .directory
  if ← p.pathExists then return some (← readFile loc)
  return none

/-- The tree with a node at a location, whose parents are there. -/
def putNode (t : FileTree) (loc : Location) : Node → FileTree
  | .directory => t.makeDirectory loc.dropLast (loc.getLastD [])
  | .file content access => (t.put loc content).setAccess loc access

/-- The tree with the directories that lead from a location along some names. -/
def putParents (t : FileTree) (loc : Location) : List Text → FileTree
  | [] => t
  | name :: rest => putParents (t.makeDirectory loc name) (loc ++ [name]) rest

/-- The tree with what stands at a location, without what is below it. -/
def loadEntry (t : FileTree) (loc : Location) : IO FileTree := do
  match ← readNode loc with
  | some node => return putNode t loc node
  | none => return t

/-- The names in a directory; one that cannot be listed has none. -/
def namesIn (loc : Location) : IO (List Text) := do
  try
    let entries ← (entryAt loc).path.readDir
    return entries.toList.map fun e => e.fileName.toList
  catch _ => return []

/-- Whether a file is read that no word names: one that belongs to a grammar or has a name that
the program looks for. -/
def isLookedFor (name : Text) : Bool :=
  (lookupGrammar? builtinGrammars name).isSome ||
    ([ignoreFileName, settingsFileName, projectFileName] ++ standaloneNames).contains name

/-- Whether a directory is only linked from its place. -/
def isLink (loc : Location) : IO Bool := do
  return (← (entryAt loc).path.symlinkMetadata).type == .symlink

/-- The tree with all that is below a directory, linked directories apart. The content of files
that nothing looks for is left out. -/
partial def loadBelow (t : FileTree) (loc : Location) : IO FileTree := do
  (← namesIn loc).foldlM (fun t name => do
    let child := loc ++ [name]
    if ← (entryAt child).path.isDir then
      if ← isLink child then return t
      loadBelow (putNode t child .directory) child
    else if isLookedFor name then loadEntry t child
    else if (t.get? child).isSome then return t
    else return putNode t child (.file [] .full)) t

/-- The tree with a path of the system: a file with what is beside it, a directory with all that
is below it. -/
def loadAround (t : FileTree) (loc : Location) : IO FileTree := do
  match ← readNode loc with
  | none => return t
  | some .directory => loadBelow (putParents t [] loc) loc
  | some (.file content access) =>
    let parent := loc.dropLast
    let t ← (← namesIn parent).foldlM
      (fun t name => if isLookedFor name then loadEntry t (parent ++ [name]) else return t)
      (putParents t [] parent)
    return putNode t loc (.file content access)

/-- The tree with several paths of the system. -/
def loadPaths (t : FileTree) (cwd : Location) (ps : List Path) : IO FileTree :=
  ps.foldlM (fun t p => loadAround t (p.resolve cwd)) t

/-- The paths that a word may name: the word, and what follows its equals sign. -/
def pathsIn (word : Text) : List Path := (word :: (splitAttached word).2.toList).map Path.ofText

/-- The settings files that a path may stand for: itself, and those in or beside it. -/
def settingsFilesAt (p : Path) : List Path :=
  p :: [p, p.parent].flatMap fun d => [d.child settingsFileName, d.child projectFileName]

/-- The paths that a settings file may name: its texts, taken from its directory. -/
def pathsInSettings (t : FileTree) (cwd : Location) (p : Path) : List Path :=
  let table? := do
    let content ← (t.read cwd p).toOption
    let s ← (Utf8.decode content).toOption
    settingsTable? p (← (Toml.parse (Text.unifyNewlines s)).toOption)
  let base := (Path.ofLocation (p.resolve cwd)).parent
  (table?.getD []).filterMap fun e => (Table.textItem? e.2).map fun s => base / Path.ofText s

/-- The tree of what a command line can reach: the paths that words name, the default templates,
and the paths that settings files name. -/
def loadTree (cwd : Location) (words : List Text) : IO FileTree := do
  let ps := words.flatMap pathsIn ++ [defaultHeaderLicense, defaultStandaloneLicense]
  let t ← loadPaths (putParents FileTree.empty [] cwd) cwd ps
  loadPaths t cwd ((ps.flatMap settingsFilesAt).flatMap (pathsInSettings t cwd))

/-- Writes what is in one tree and not in the other. -/
def writeChanges (before after : FileTree) : IO Unit :=
  after.entries.forM fun (loc, node) => do
    if before.get? loc ≠ some node then
      match node with
      | .directory => IO.FS.createDirAll (entryAt loc).path
      | .file content _ => IO.FS.writeBinFile (entryAt loc).path ⟨content.toArray⟩

/-- The session that a command line starts in. -/
def openSession (words : List Text) : IO Session := do
  let now ← Std.Time.PlainDateTime.now
  let cwd := (Path.ofText (← IO.currentDir).toString.toList).resolve []
  return {
    tree := ← loadTree cwd words
    workingDirectory := cwd
    currentYear := now.date.year
    timeStamp := (now.format "uuuu-MM-dd HH:mm:ss,SSS").toList }

end Main

end LicenseAudit

open LicenseAudit in
/-- Carries out a command line on the files of the system. -/
def main (words : List String) : IO UInt32 := do
  let words := words.map String.toList
  let environment ← IO.getEnv "LICENSETOOL_LOG_LEVEL"
  let before ← Main.openSession words
  let (ending, after) := runCommandLine words (environment.map String.toList) before
  Main.writeChanges before.tree after.tree
  IO.print (String.ofList after.output.toList.flatten)
  IO.eprint (String.ofList ending.errorOutput)
  match ending with
  | .broken f => IO.eprintln (String.ofList f.message)
  | _ => return ending.code.toUInt32
  return ending.code.toUInt32
