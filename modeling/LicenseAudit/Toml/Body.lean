import LicenseAudit.Settings.Value
import LicenseAudit.Toml.Fault

/-!
# Tables in reading

A table of a settings file may be written in several places, and what may be added to it depends
on how it came about. So the body of a table in reading is a list of entries in which a key may
come several times: each time after the first it stands for a further piece of the same table.

`Body.add` adds an entry, and refuses what would redefine something. `check` says whether pieces
fit together at every depth. `Entry.toValue` puts pieces together; it is stricter than `check` in
one respect, since a piece of a table does not go with a list of tables.
-/

namespace LicenseAudit

open Text

namespace Toml

/-- How a table came about. -/
inductive Origin
  /-- A header named it on the way to a table below it. -/
  | implied
  /-- A header opened it. -/
  | header
  /-- A dotted key named it. -/
  | dotted
  deriving DecidableEq, Repr

/-- What a key stands for. -/
inductive Entry
  | value (v : Value)
  /-- A table, or a piece of one. -/
  | table (origin : Origin) (body : List (Text × Entry))
  /-- A list of tables, each opened by its own header. -/
  | tables (items : List (List (Text × Entry)))

/-- The entries of a table in reading. -/
abbrev Body := List (Text × Entry)

namespace Body

/-- What a key stands for at its last place. -/
def last? (b : Body) (key : Text) : Option Entry := b.reverse.lookup key

/-- The pieces of the table that a key stands for. -/
def pieces (b : Body) (key : Text) : List Body :=
  b.filterMap fun e =>
    match e with
    | (k, .table _ body) => if k = key then some body else none
    | _ => none

/-- Whether a table is written in several pieces. -/
def isScattered (b : Body) (key : Text) : Bool := 2 ≤ (b.pieces key).length

/-- The keys, each where it comes first. -/
def keys (b : Body) : List Text := (b.map Prod.fst).eraseDups

/-- The key of the last entry that is a table. -/
def newest? (b : Body) : Option Text :=
  (b.reverse.find? fun e =>
    match e with
    | (_, .table ..) => true
    | _ => false).map (·.1)

/-- The entries, the last one first, with another entry at the last place of a key. -/
def replaceFirst (key : Text) (e : Entry) : Body → Body
  | [] => []
  | (k, old) :: rest => if k = key then (k, e) :: rest else (k, old) :: replaceFirst key e rest

/-- The entries with another entry at the last place of a key. -/
def replaceLast (b : Body) (key : Text) (e : Entry) : Body := (replaceFirst key e b.reverse).reverse

/-! ## Putting pieces together -/

/-- The entries with one more of another piece of the same table. -/
def joinEntry (b : Body) (e : Text × Entry) : Except Conflict Body :=
  match b.last? e.1, e.2 with
  | none, _ => .ok (b ++ [e])
  | some (.table ..), .table .. => .ok (b ++ [e])
  | some (.tables items), .tables more => .ok (b.replaceLast e.1 (.tables (items ++ more)))
  | some _, _ => .error (.taken e.1)

/-- The pieces of a table put together. -/
def join (pieces : List Body) : Except Conflict Body := pieces.flatten.foldlM joinEntry []

/-- Fails when the pieces of a key cannot be put together. -/
def checkJoin (b : Body) (key : Text) : Except Conflict Unit :=
  if b.isScattered key then do discard (join (b.pieces key)) else .ok ()

end Body

/-! ## What may be added -/

/-- What becomes of an entry for a key that is there already. -/
inductive Ruling
  | refused (c : Conflict)
  /-- It is a further piece of the table. With `checked`, the pieces have to fit together. -/
  | piece (checked : Bool)
  /-- The two are one piece. -/
  | merged (body more : Body)
  /-- A list of tables goes on. -/
  | extended (items : List Body)

/-- How two tables of one key go together, given their origins. A header opens a table once, and
does not open one that dotted keys made; a dotted key adds nothing to a table that a header
opened. `adjacent` says whether no other table came between. -/
def tableRuling (key : Text) (adjacent : Bool) (first : Origin × Body) (second : Origin × Body) :
    Ruling :=
  match first.1, second.1 with
  | .header, .header => .refused (.taken key)
  | .header, .dotted => .refused .redefined
  | .header, .implied => .piece false
  | .dotted, .header => .refused .redefined
  | .implied, .header => .piece true
  | .implied, .implied => if adjacent then .merged first.2 second.2 else .piece true
  | _, _ => .piece true

/-- What becomes of an entry for a key that stands for something already. -/
def ruling (key : Text) (adjacent : Bool) : Entry → Entry → Ruling
  | .table o body, .table o' more => tableRuling key adjacent (o, body) (o', more)
  | .tables items, .tables more => .extended (items ++ more)
  | _, _ => .refused (.taken key)

/-- Whether an entry stands for a table that headers made. -/
def Entry.isHeaderTable : Entry → Bool
  | .table .dotted _ => false
  | .table .. => true
  | _ => false

/-- Whether a key stands for a list of tables at its last place. -/
def Body.holdsTables (b : Body) (key : Text) : Bool :=
  match b.last? key with
  | some (.tables _) => true
  | _ => false

mutual

/-- The entries with one more. With `checked`, the pieces of a table have to fit together at every
depth. The number bounds the depth that is looked at. -/
def addEntry : Nat → Bool → Body → Text × Entry → Except Conflict Body
  | 0, _, b, e => .ok (b ++ [e])
  | depth + 1, checked, b, e =>
    match b.last? e.1 with
    | none => .ok (b ++ [e])
    | some current => do
      b.checkJoin e.1
      match ruling e.1 (b.newest? == some e.1) current e.2 with
      | .refused c => .error c
      | .extended items => .ok (b.replaceLast e.1 (.tables items))
      | .merged body more => do
        let body ← more.foldlM (fun body e => do
          let body ← addEntry depth true body e
          body.checkJoin e.1
          return body) body
        return b.replaceLast e.1 (.table .implied body)
      | .piece false => return b ++ [e]
      | .piece true => do
        let b := b ++ [e]
        if checked then checkPieces depth (b.pieces e.1)
        return b

/-- Fails when pieces of a table do not fit together. A table that headers made is not held
against a list of tables. -/
def checkPieces : Nat → List Body → Except Conflict Unit
  | 0, _ => .ok ()
  | depth + 1, pieces => do
    let b ← pieces.flatten.foldlM (fun (b : Body) e =>
      if e.2.isHeaderTable && b.holdsTables e.1 then .ok b else addEntry depth false b e) []
    b.keys.forM fun key =>
      if b.isScattered key then checkPieces depth (b.pieces key) else .ok ()

end

/-- A bound on the steps down from a table: a header and a key below it have at most a hundred
parts each, and a part takes at most two steps. -/
def deepest : Nat := 500

namespace Body

/-- The entries with one more. -/
def add (b : Body) (e : Text × Entry) : Except Conflict Body := addEntry deepest true b e

/-- The entries of an open table with one more; whether its pieces fit together at every depth is
checked when the table is closed, but for dotted keys. -/
def addOpen (b : Body) (e : Text × Entry) : Except Conflict Body := do
  let isDotted :=
    match e.2 with
    | .table .dotted _ => true
    | _ => false
  let b ← addEntry deepest isDotted b e
  b.checkJoin e.1
  return b

/-- Fails when the pieces of some table do not fit together. -/
def check (b : Body) : Except Conflict Unit :=
  b.keys.forM fun key =>
    if b.isScattered key then checkPieces deepest (b.pieces key) else .ok ()

end Body

/-- The entry of a key, given its parts: with dots in it, it stands for a table. -/
def keyedPair? (v : Value) : List Text → Option (Text × Entry)
  | [] => none
  | [key] => some (key, .value v)
  | key :: parts => (keyedPair? v parts).map fun e => (key, .table .dotted [e])

/-! ## The table that is meant -/

mutual

/-- The value of an entry. The number bounds the depth that is looked at. -/
def Entry.toValue : Nat → Entry → Except Conflict Value
  | 0, _ => .ok .empty
  | _ + 1, .value v => .ok v
  | depth + 1, .table _ b => return .table (← toTable depth b)
  | depth + 1, .tables items =>
    return .list (← items.mapM fun b => do return .table (← toTable depth b))

/-- The table of entries. -/
def toTable : Nat → Body → Except Conflict Table
  | 0, _ => .ok []
  | depth + 1, b =>
    b.keys.mapM fun key =>
      if b.isScattered key then do
        return (key, .table (← toTable depth (← Body.join (b.pieces key))))
      else
        match b.last? key with
        | some e => do return (key, ← e.toValue depth)
        | none => .ok (key, .empty)

end

/-- The table that entries make. -/
def Body.toTable (b : Body) : Except Conflict Table := Toml.toTable deepest b

end Toml

end LicenseAudit
