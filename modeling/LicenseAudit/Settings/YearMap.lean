import LicenseAudit.License.Notice
import LicenseAudit.Log.Record
import LicenseAudit.Settings.Value

/-!
# Year maps

A year map gives the first copyright year of single files, by their paths. It is written as
entries `path:year` or as a table of the settings; an entry that is not one is left out and
logged. A path occurs once, at the place where it came first, with the year that came last.
-/

namespace LicenseAudit

open Text

/-! ## Lists of pairs -/

theorem lookup_map_value {α β : Type} [BEq α] [LawfulBEq α] (f : α × β → β) (l : List (α × β))
    (a : α) : (l.map fun e => (e.1, f e)).lookup a = (l.lookup a).map fun b => f (a, b) := by
  induction l with
  | nil => rfl
  | cons e l ih =>
    rw [List.map_cons, List.lookup_cons, List.lookup_cons, ih]
    cases h : a == e.1
    · rfl
    · rw [eq_of_beq h]
      rfl

/-- Leaving out pairs with other keys does not change what is found. -/
theorem lookup_filter_key {α β : Type} [BEq α] [LawfulBEq α] {p : α → Bool} {a : α}
    (h : p a = true) (l : List (α × β)) : (l.filter fun e => p e.1).lookup a = l.lookup a := by
  induction l with
  | nil => rfl
  | cons e l ih =>
    rw [List.lookup_cons]
    cases ha : a == e.1
    · cases hp : p e.1
      · rw [List.filter_cons_of_neg (by simp [hp]), ih]
      · rw [List.filter_cons_of_pos (by simp [hp]), List.lookup_cons, ha, ih]
    · rw [eq_of_beq ha] at h
      rw [List.filter_cons_of_pos (by simp [h]), List.lookup_cons, ha]

/-! ## Year maps -/

/-- First copyright years by path. -/
structure YearMap where
  entries : List (Text × Int)
  nodup : (entries.map Prod.fst).Nodup
  deriving DecidableEq, Repr

namespace YearMap

/-- The map without entries. -/
def empty : YearMap := ⟨[], by simp⟩

instance : Inhabited YearMap := ⟨empty⟩

/-- The map of one entry. -/
def single (path : Text) (year : Int) : YearMap := ⟨[(path, year)], by simp⟩

/-- The year of a path. -/
def get? (m : YearMap) (path : Text) : Option Int := m.entries.lookup path

/-- The entries of `m` with the years of `n` where it has them, and the further entries of `n`. -/
def overlay (m n : YearMap) : YearMap where
  entries := m.entries.map (fun e => (e.1, (n.get? e.1).getD e.2)) ++
    n.entries.filter fun e => decide (e.1 ∉ m.entries.map Prod.fst)
  nodup := by
    have hm : (m.entries.map fun e => (e.1, (n.get? e.1).getD e.2)).map Prod.fst =
        m.entries.map Prod.fst := by simp [Function.comp_def]
    rw [List.map_append, hm, List.nodup_append]
    refine ⟨m.nodup, (List.filter_sublist.map Prod.fst).nodup n.nodup, ?_⟩
    intro a ha b hb hab
    obtain ⟨e, he, rfl⟩ := List.mem_map.1 hb
    have := (List.mem_filter.1 he).2
    simp only [decide_eq_true_eq] at this
    exact this (hab ▸ ha)

/-- The years of the upper map count. -/
theorem get?_overlay (m n : YearMap) (path : Text) :
    (m.overlay n).get? path = (n.get? path).or (m.get? path) := by
  simp only [get?, overlay, List.lookup_append, lookup_map_value]
  rcases hm : m.entries.lookup path with _ | year
  · have hnew : path ∉ m.entries.map Prod.fst := by
      intro hpath
      obtain ⟨e, he, rfl⟩ := List.mem_map.1 hpath
      simpa using List.lookup_eq_none_iff.1 hm e he
    rw [lookup_filter_key (p := fun p => decide (p ∉ m.entries.map Prod.fst)) (by simpa using hnew),
      Option.map_none, Option.none_or, Option.or_none]
  · rcases n.entries.lookup path <;> simp

/-- The map with another year for a path. -/
def insert (m : YearMap) (path : Text) (year : Int) : YearMap := m.overlay (single path year)

/-- How a message shows the map. -/
def shown (m : YearMap) : Text :=
  (Value.table (m.entries.map fun e => (e.1, .integer e.2))).shown

end YearMap

/-! ## Paths and years -/

/-- The text after all leading `./`. -/
def dropDotSlashes : Text → Text
  | '.' :: '/' :: s => dropDotSlashes s
  | s => s

/-- The path that an entry means: trimmed, with slashes for backslashes, without leading `./`. -/
def entryPath (s : Text) : Text :=
  dropDotSlashes ((trim s).map fun c => if c = '\\' then '/' else c)

/-- A text that is a year but for blanks around it. -/
def yearOfText? (s : Text) : Option Int :=
  match leadingYear? (trim s) with
  | some (year, []) => some year
  | _ => none

/-- A value that is a year: an integer from 1000 to 2999 or a text that writes one. -/
def Value.year? : Value → Option Int
  | .integer n => if 1000 ≤ n ∧ n ≤ 2999 then some n else none
  | .text s => yearOfText? s
  | _ => none

/-! ## Entries in text form -/

/-- What a written entry is. -/
inductive YearEntry
  | blank
  | valid (path : Text) (year : Int)
  /-- Not of the form `path:year`; the trimmed entry. -/
  | malformed (entry : Text)
  /-- The year is none; the trimmed entry. -/
  | badYear (entry : Text)
  deriving DecidableEq, Repr

namespace YearEntry

/-- Reads an entry. -/
def ofText (s : Text) : YearEntry :=
  let entry := trim s
  if entry.isEmpty then .blank
  else match splitOnChar ':' entry with
    | [path, year] =>
      match yearOfText? year with
      | some year => .valid (entryPath path) year
      | none => .badYear entry
    | _ => .malformed entry

/-- The map with the entry, if it is valid. -/
def addTo (m : YearMap) : YearEntry → YearMap
  | .valid path year => m.insert path year
  | _ => m

/-- What is logged about an entry that is left out. -/
def record? : YearEntry → Option LogRecord
  | .malformed entry =>
    some ⟨.warning, "Ignoring year entry " ++ quoted entry ++ " (expected 'path:year')"⟩
  | .badYear entry => some ⟨.warning, "Ignoring year entry " ++ quoted entry ++ " (invalid year)"⟩
  | _ => none

end YearEntry

namespace YearMap

/-- The map of written entries. -/
def ofEntries (entries : List Text) : YearMap :=
  (entries.map YearEntry.ofText).foldl YearEntry.addTo empty

/-- What is logged while written entries are read. -/
def entryRecords (entries : List Text) : List LogRecord :=
  entries.filterMap fun entry => (YearEntry.ofText entry).record?

/-! ## Entries in a table -/

/-- The map of a table, without the entries whose values are no years. -/
def ofTable (t : Table) : YearMap :=
  t.foldl (fun m e =>
    match e.2.year? with
    | some year => m.insert (entryPath e.1) year
    | none => m) empty

/-- What is logged while a table is read. -/
def tableRecords (t : Table) : List LogRecord :=
  t.filterMap fun e =>
    if e.2.year?.isSome then none
    else some ⟨.warning, "Ignoring [years] entry " ++ quoted e.1 ++ " = " ++ e.2.shown ++
      " (invalid year)"⟩

end YearMap

end LicenseAudit
