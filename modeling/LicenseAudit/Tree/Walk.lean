import LicenseAudit.Failure
import LicenseAudit.Tree.Basic

/-!
# Paths in a tree

A path leads from a working directory to a location; every component but the last must be a
directory on the way, and names and paths have a greatest length. `read` and `write` say what
becomes of a file, or why it cannot be used.
-/

namespace LicenseAudit

/-- The location that a component leads to: two dots go back, nothing or a dot stays. -/
def Location.step (loc : Location) (part : Text) : Location :=
  if part = [] ∨ part = ['.'] then loc
  else if part = ['.', '.'] then loc.dropLast
  else loc ++ [part]

namespace FileTree

/-- How many bytes the name of an entry may have. -/
def nameLimit : Nat := 255

/-- How many bytes a written path may not reach. -/
def pathLimit : Nat := 4096

/-- The location that components lead to. The last one need not exist. -/
def walk (t : FileTree) (loc : Location) : List Text → Except FileFault Location
  | [] => .ok loc
  | part :: rest =>
    match t.get? loc with
    | none => .error .missing
    | some (.file ..) => .error .notDirectory
    | some .directory =>
      if Utf8.size part > nameLimit then .error .nameTooLong
      else t.walk (loc.step part) rest

/-- The location that a written path leads to, given its components. -/
def walkWritten (t : FileTree) (loc : Location) (s : Text) (parts : List Text) :
    Except FileFault Location :=
  if Utf8.size s ≥ pathLimit then .error .nameTooLong else t.walk loc parts

/-- Where a path starts, seen from a working directory. -/
def startOf (cwd : Location) (p : Path) : Location := if p.isAbsolute then [] else cwd

/-- The location of a path. -/
def locate (t : FileTree) (cwd : Location) (p : Path) : Except FileFault Location :=
  t.walkWritten (startOf cwd p) p.toText p.parts

/-- What a path names. -/
def find? (t : FileTree) (cwd : Location) (p : Path) : Option Node :=
  match t.locate cwd p with
  | .ok loc => t.get? loc
  | .error _ => none

/-- Whether a path names a file. -/
def isFile (t : FileTree) (cwd : Location) (p : Path) : Bool :=
  match t.find? cwd p with
  | some (.file ..) => true
  | _ => false

/-- Whether a path names a directory. -/
def isDirectory (t : FileTree) (cwd : Location) (p : Path) : Bool :=
  match t.find? cwd p with
  | some .directory => true
  | _ => false

/-- What a written path names. Unlike in a path that was read, a slash or a dot at the end asks for
a directory, and the empty text names nothing. -/
def findWritten? (t : FileTree) (cwd : Location) (s : Text) : Option Node :=
  if s.isEmpty then none
  else
    match t.walkWritten (startOf cwd (Path.ofText s)) s (Text.splitOnChar '/' s) with
    | .ok loc => t.get? loc
    | .error _ => none

/-! ## Files -/

/-- The content of a file. -/
def read (t : FileTree) (cwd : Location) (p : Path) : Except FileFault Bytes := do
  let loc ← t.locate cwd p
  match t.get? loc with
  | none => .error .missing
  | some .directory => .error .isDirectory
  | some (.file _ .sealed) => .error .denied
  | some (.file content _) => .ok content

/-- The location of a file that can be written, whether it exists or not. -/
def writable (t : FileTree) (cwd : Location) (p : Path) : Except FileFault Location := do
  let loc ← t.locate cwd p
  match t.get? loc with
  | none => .ok loc
  | some .directory => .error .isDirectory
  | some (.file _ .full) => .ok loc
  | some (.file ..) => .error .denied

/-- The tree with this content at a location, where a file can be. -/
def put (t : FileTree) (loc : Location) (content : Bytes) : FileTree :=
  match loc.getLast? with
  | none => t
  | some name => t.putFile loc.dropLast name content

/-- Putting content at a location changes nothing elsewhere. -/
theorem get?_put_of_ne {t : FileTree} {loc l : Location} {content : Bytes} (h : l ≠ loc) :
    (t.put loc content).get? l = t.get? l := by
  rw [put]
  split
  · rfl
  · next name hlast =>
    obtain ⟨parent, rfl⟩ := List.getLast?_eq_some_iff.1 hlast
    rw [List.dropLast_concat]
    unfold putFile
    split
    · rfl
    · rw [get?_replaceFile, if_neg h]
    · split
      · rw [get?_addEntry, if_neg h]
      · rfl

/-- The tree with another content of a file, which is made if need be. -/
def write (t : FileTree) (cwd : Location) (p : Path) (content : Bytes) :
    Except FileFault FileTree := do
  let loc ← t.writable cwd p
  return t.put loc content

/-- The content at a location, empty where there is no file. -/
def contentAt (t : FileTree) (loc : Location) : Bytes :=
  match t.get? loc with
  | some (.file content _) => content
  | _ => []

/-- The tree with more content at the end of the file at a location. -/
def append (t : FileTree) (loc : Location) (content : Bytes) : FileTree :=
  t.put loc (t.contentAt loc ++ content)

/-! ## Directories -/

/-- The tree with one more directory. -/
def makeDirectoryAt (t : FileTree) (cwd : Location) (p : Path) : Except FileFault FileTree := do
  let loc ← t.locate cwd p
  match t.get? loc, loc.getLast? with
  | none, some name => .ok (t.makeDirectory loc.dropLast name)
  | none, none => .error .missing
  | some _, _ => .error .occupied

/-- The tree with the directory of a path; one that is there is fine. -/
def ensureDirectory (t : FileTree) (cwd : Location) (p : Path) : Except FileFault FileTree :=
  match t.makeDirectoryAt cwd p with
  | .ok t' => .ok t'
  | .error fault => if t.isDirectory cwd p then .ok t else .error fault

/-- The tree with the directory of a path and all directories above it. `reversed` are the
components, the last one first. A failure comes with the path of the directory at fault. -/
def ensureDirectoriesFrom (t : FileTree) (cwd : Location) (root : Text) :
    List Text → Except (FileFault × Path) FileTree
  | [] => (t.ensureDirectory cwd ⟨root, []⟩).mapError (·, ⟨root, []⟩)
  | name :: above =>
    let p : Path := ⟨root, (name :: above).reverse⟩
    match t.ensureDirectory cwd p with
    | .error .missing => do
      let t ← t.ensureDirectoriesFrom cwd root above
      (t.ensureDirectory cwd p).mapError (·, p)
    | .error fault => .error (fault, p)
    | .ok t => .ok t

/-- The tree with the directory of a path and all directories above it. -/
def ensureDirectories (t : FileTree) (cwd : Location) (p : Path) :
    Except (FileFault × Path) FileTree :=
  t.ensureDirectoriesFrom cwd p.root p.parts.reverse

/-- The entries below a location, each with the components that lead to it. -/
def below (t : FileTree) (loc : Location) : List (List Text × Node) :=
  t.entries.filterMap fun e =>
    if loc.isPrefixOf e.1 && e.1 != loc then some (e.1.drop loc.length, e.2) else none

end FileTree

namespace Path

/-- The location that a path means when no link is followed and nothing need exist. -/
def resolve (cwd : Location) (p : Path) : Location :=
  p.parts.foldl Location.step (FileTree.startOf cwd p)

/-- The path of a location. -/
def ofLocation (loc : Location) : Path := ⟨['/'], loc⟩

end Path

end LicenseAudit
