import LicenseAudit.Toml.Value

/-!
# Settings files

The table that a TOML document holds. A document is read into lines, which are pairs and headers;
`Document.addLine` adds one line after the other. A header closes the open tables that it does not
lie below, and what a closed table holds goes to the table around it. What cannot be added to the
document itself makes it malformed; a conflict inside a table is told apart.

The lines before a fault still count: a conflict among them comes first.
-/

namespace LicenseAudit

open Text

namespace Toml

/-! ## Lines -/

/-- The header of a table, or of one more table of a list. -/
structure Header where
  isList : Bool
  path : List Text
  deriving DecidableEq, Repr

/-- A line that is not blank and no comment. -/
inductive Line
  | pair (path : List Text) (v : Value)
  | header (h : Header)

/-- The rest of a line, which holds at most a comment, and the line end. -/
def endLine (s : Text) : Except Fault Text := do
  match ← skipComment (skipGap s) with
  | [] => return []
  | '\n' :: rest => return rest
  | rest => .error (.unexpected rest)

/-- A pair on a line of its own. -/
def pairLine (s : Text) : Except Fault (WithRest Line) := do
  let (path, rest) ← keyOfPair s
  let (v, rest) ← value rest
  return (.pair path v, ← endLine rest)

/-- The start of a header up to its key. -/
def headerStart (s : Text) : Except Fault (WithRest Header) :=
  match s with
  | '[' :: '[' :: rest => mapResult (⟨true, ·⟩) (key rest)
  | '[' :: rest => mapResult (⟨false, ·⟩) (key rest)
  | _ => .error .malformed

/-- The rest of a header's line. Of the two brackets that close the header of a list, the second
one is taken for granted. -/
def headerEnd (isList : Bool) (s : Text) : Except Fault Text :=
  match s with
  | ']' :: rest => endLine (if isList then rest.drop 1 else rest)
  | _ => .error .malformed

/-- The lines of a text, of which there are at most so many, up to the first fault. A header whose
key can be read counts as a line. -/
def lines : Nat → Text → List Line × Option Fault
  | 0, _ => ([], some .malformed)
  | count + 1, s =>
    match skipGap s with
    | [] => ([], none)
    | '\n' :: rest => lines count rest
    | '#' :: rest =>
      match endLine ('#' :: rest) with
      | .ok rest => lines count rest
      | .error f => ([], some f)
    | '[' :: rest =>
      match headerStart ('[' :: rest) with
      | .error f => ([], some f)
      | .ok (h, rest) =>
        match headerEnd h.isList rest with
        | .ok rest =>
          let (more, fault) := lines count rest
          (.header h :: more, fault)
        | .error f => ([.header h], some f)
    | s =>
      match pairLine s with
      | .ok (line, rest) =>
        let (more, fault) := lines count rest
        (line :: more, fault)
      | .error f => ([], some f)

/-! ## Open tables -/

/-- A table whose lines are being read. -/
structure OpenTable where
  header : Header
  /-- The part of the header's path below the table around this one. -/
  below : List Text
  /-- The earlier tables, when this is one of a list. -/
  earlier : List Body := []
  body : Body := []

namespace OpenTable

/-- The entry that leads along the parts of a path. -/
def alongPath (e : Entry) : List Text → Option (Text × Entry)
  | [] => none
  | [key] => some (key, e)
  | key :: parts => (alongPath e parts).map fun e => (key, .table .implied [e])

/-- What the table is, as an entry of the table around it. -/
def keyed? (t : OpenTable) : Option (Text × Entry) :=
  alongPath (if t.header.isList then .tables (t.earlier ++ [t.body]) else .table .header t.body)
    t.below

/-- The entries of an open table with one more. -/
def add (b : Body) (e : Text × Entry) : Except Fault Body := (b.addOpen e).mapError .conflict

/-- The table with what a table below it, which is closed, holds. -/
def take (t : OpenTable) : Option (Text × Entry) → Except Fault OpenTable
  | none => .ok t
  | some e => do return { t with body := ← add t.body e }

/-- Fails when the pieces of tables do not fit together. -/
def check (t : OpenTable) : Except Fault Unit := t.body.check.mapError .conflict

/-- Whether the next table of a list goes on the same list. -/
def isContinuedBy (t : OpenTable) (h : Header) : Bool :=
  h.isList && t.header == h && t.below.length == 1

/-- Whether a table stays open at a header: the header lies below it, or goes on its list. -/
def staysOpen (t : OpenTable) (h : Header) : Bool :=
  (t.header.path.isPrefixOf h.path && t.header.path != h.path) || t.isContinuedBy h

end OpenTable

/-! ## Documents -/

/-- A document in reading: what belongs to no open table, and the open tables, the innermost one
first. -/
structure Document where
  root : Body := []
  opened : List OpenTable := []

namespace Document

/-- The entries of a document with one more; one that cannot be added makes it malformed. -/
def addRoot (root : Body) (e : Text × Entry) : Except Fault Body :=
  (root.add e).mapError fun _ => .malformed

/-- The document with tables closed up to one that stays open. `closed` is what the table closed
last holds. -/
def closeTables (stays : OpenTable → Bool) (root : Body) (closed : Option (Text × Entry)) :
    List OpenTable → Except Fault Document
  | [] =>
    match closed with
    | none => .ok { root }
    | some e => do return { root := ← addRoot root e }
  | t :: rest => do
    let t ← t.take closed
    if stays t then return ⟨root, t :: rest⟩
    else
      t.check
      closeTables stays root t.keyed? rest

/-- The document with a header carried out. -/
def openTable (d : Document) (h : Header) : Except Fault Document := do
  let d ← closeTables (·.staysOpen h) d.root none d.opened
  match d.opened with
  | [] => return { d with opened := [{ header := h, below := h.path }] }
  | t :: rest =>
    if t.isContinuedBy h then
      t.check
      return { d with opened := { t with earlier := t.earlier ++ [t.body], body := [] } :: rest }
    else
      let below := h.path.drop t.header.path.length
      return { d with opened := { header := h, below } :: t :: rest }

/-- The document with one more line. -/
def addLine (d : Document) : Line → Except Fault Document
  | .header h => d.openTable h
  | .pair path v =>
    match d.opened with
    | t :: rest => do
      let body ← addPair OpenTable.add t.body path v
      return { d with opened := { t with body } :: rest }
    | [] => do return { d with root := ← addPair addRoot d.root path v }

/-- The entries of a document whose lines have all been read. -/
def close (d : Document) : Except Fault Body := do
  return (← closeTables (fun _ => false) d.root none d.opened).root

end Document

/-- Reads a document: its table. -/
def parse (s : Text) : Except Fault Table := do
  let (ls, fault) := lines (s.length + 1) s
  let d ← ls.foldlM Document.addLine {}
  match fault with
  | some f => .error f
  | none => (← d.close).toTable.mapError .conflict

end Toml

end LicenseAudit
