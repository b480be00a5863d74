import LicenseAudit.Text.Basic

/-!
# Paths

A path is a root, empty for a relative path, and its components. Reading a path drops empty
components and single dots, so that a path has one written form; `..` is kept, since what it
leads to depends on the tree.
-/

namespace LicenseAudit

/-- A path in normal form. -/
structure Path where
  /-- Empty for a relative path, else one slash or the two that are kept apart from one. -/
  root : Text
  /-- The components, none of them empty or a single dot when the path was read. -/
  parts : List Text
  deriving DecidableEq, Repr, Inhabited

namespace Path

/-- The root that a written path starts with. -/
def rootOf (s : Text) : Text :=
  match s with
  | '/' :: '/' :: '/' :: _ => ['/']
  | '/' :: '/' :: _ => ['/', '/']
  | '/' :: _ => ['/']
  | _ => []

/-- The path that a text writes. -/
def ofText (s : Text) : Path :=
  ⟨rootOf s, (Text.splitOnChar '/' s).filter fun part => part != [] && part != ['.']⟩

/-- The written form; the empty path is a single dot. -/
def toText (p : Path) : Text :=
  let s := p.root ++ Text.joinWith ['/'] p.parts
  if s.isEmpty then ['.'] else s

/-- The last component, empty when there is none. -/
def name (p : Path) : Text := p.parts.getLastD []

/-- The path without its last component. -/
def parent (p : Path) : Path := { p with parts := p.parts.dropLast }

/-- Whether the path starts at the root of the tree. -/
def isAbsolute (p : Path) : Bool := !p.root.isEmpty

/-- The path `q` taken from `p`: an absolute `q` stands for itself. -/
def join (p q : Path) : Path := if q.isAbsolute then q else { p with parts := p.parts ++ q.parts }

instance : Div Path := ⟨join⟩

/-- Whether the path holds the character that ends a path for the system. -/
def holdsNull (p : Path) : Bool := p.parts.any fun part => part.contains '\x00'

/-- The path of one more component. -/
def child (p : Path) (name : Text) : Path := { p with parts := p.parts ++ [name] }

theorem name_child (p : Path) (n : Text) : (p.child n).name = n := by
  simp [child, name]

theorem parent_child (p : Path) (n : Text) : (p.child n).parent = p := by
  simp [child, parent]

/-- The components with the root in front: paths are put in order by them. -/
def sortKey (p : Path) : List Text := if p.isAbsolute then p.root :: p.parts else p.parts

/-- Whether components come before others or are the same: the first that differ decide. -/
def partsNotAfter : List Text → List Text → Bool
  | [], _ => true
  | _ :: _, [] => false
  | a :: as, b :: bs => if a = b then partsNotAfter as bs else Text.precedes a b

/-- Whether a path comes before another one or is the same. -/
def notAfter (p q : Path) : Bool := partsNotAfter p.sortKey q.sortKey

end Path

end LicenseAudit
