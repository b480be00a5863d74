import LicenseAudit.Path
import LicenseAudit.Text.Utf8

/-!
# File trees

A tree of directories and files without links. Every entry has a location, the list of names that
leads to it from the root of the tree; no location occurs twice, what is not the root lies in a
directory, and every entry has a name that a path can hold as a component (`isName`). These facts
are part of the type, so every operation keeps them.

`get?` is the view of a tree: `get?_putFile`, `get?_makeDirectory` and `get?_remove` say what the
operations do to it.
-/

namespace LicenseAudit

/-- The names that lead from the root of the tree to an entry. -/
abbrev Location := List Text

/-- Whether an entry can have a name: one that is not empty, does not stand for the directory itself
or the one above it, and holds neither a slash nor the character that ends a path. -/
def isName (s : Text) : Bool :=
  s != [] && s != ['.'] && s != ['.', '.'] && !s.contains '/' && !s.contains '\x00'

/-- What may be done with a file. -/
inductive Access
  | full
  /-- It cannot be opened for writing. -/
  | readOnly
  /-- It cannot be opened at all. -/
  | sealed
  deriving DecidableEq, Repr

/-- What stands at a location. -/
inductive Node
  | directory
  | file (content : Bytes) (access : Access)
  deriving DecidableEq, Repr

/-- Whether something is a directory. -/
def Node.isDirectory : Node → Bool
  | .directory => true
  | .file .. => false

/-! ## Lists of pairs with distinct keys -/

theorem mem_of_lookup {α β : Type} [BEq α] [LawfulBEq α] {l : List (α × β)} {a : α} {b : β}
    (h : l.lookup a = some b) : (a, b) ∈ l := by
  induction l with
  | nil => simp at h
  | cons e l ih =>
    obtain ⟨x, y⟩ := e
    rw [List.lookup_cons] at h
    split at h
    · next hx =>
      have hx : a = x := by simpa using hx
      simp_all
    · exact List.mem_cons_of_mem _ (ih h)

theorem lookup_of_mem {α β : Type} [BEq α] [LawfulBEq α] {l : List (α × β)} {a : α} {b : β}
    (hl : (l.map Prod.fst).Nodup) (h : (a, b) ∈ l) : l.lookup a = some b := by
  induction l with
  | nil => simp at h
  | cons e l ih =>
    obtain ⟨x, y⟩ := e
    rw [List.map_cons, List.nodup_cons] at hl
    rw [List.lookup_cons]
    rcases List.mem_cons.1 h with he | hm
    · cases he; simp
    · have hne : (a == x) = false := by
        rw [beq_eq_false_iff_ne]
        rintro rfl
        exact hl.1 (List.mem_map.2 ⟨_, hm, rfl⟩)
      rw [hne]
      exact ih hl.2 hm

theorem lookup_eq_none_iff_not_mem {α β : Type} [BEq α] [LawfulBEq α] {l : List (α × β)} {a : α} :
    l.lookup a = none ↔ a ∉ l.map Prod.fst := by
  induction l with
  | nil => simp
  | cons e l ih =>
    obtain ⟨x, y⟩ := e
    rw [List.lookup_cons, List.map_cons, List.mem_cons]
    cases h : a == x
    · have : a ≠ x := by simpa using h
      simp [this, ih]
    · have : a = x := by simpa using h
      simp [this]

/-! ## Trees -/

/-- A tree of directories and files. -/
structure FileTree where
  entries : List (Location × Node)
  nodup : (entries.map Prod.fst).Nodup
  rooted : ([], .directory) ∈ entries
  closed : ∀ loc name, loc ++ [name] ∈ entries.map Prod.fst → (loc, .directory) ∈ entries
  named : ∀ loc ∈ entries.map Prod.fst, ∀ name ∈ loc, isName name = true

namespace FileTree

/-- The tree of the root alone. -/
def empty : FileTree where
  entries := [([], .directory)]
  nodup := by simp
  rooted := by simp
  closed := by simp
  named := by simp

instance : Inhabited FileTree := ⟨empty⟩

/-- What stands at a location. -/
def get? (t : FileTree) (loc : Location) : Option Node := t.entries.lookup loc

theorem get?_eq_some_iff (t : FileTree) {loc : Location} {n : Node} :
    t.get? loc = some n ↔ (loc, n) ∈ t.entries :=
  ⟨mem_of_lookup, lookup_of_mem t.nodup⟩

theorem get?_nil (t : FileTree) : t.get? [] = some .directory :=
  t.get?_eq_some_iff.2 t.rooted

/-- What is not the root lies in a directory. -/
theorem get?_parent (t : FileTree) {loc : Location} {name : Text} {n : Node}
    (h : t.get? (loc ++ [name]) = some n) : t.get? loc = some .directory :=
  t.get?_eq_some_iff.2 (t.closed loc name
    (List.mem_map.2 ⟨_, t.get?_eq_some_iff.1 h, rfl⟩))

/-- Every component of a location where something stands is a name. -/
theorem isName_of_get? (t : FileTree) {loc : Location} {n : Node} (h : t.get? loc = some n) :
    ∀ name ∈ loc, isName name = true :=
  t.named loc (List.mem_map.2 ⟨_, t.get?_eq_some_iff.1 h, rfl⟩)

/-- The tree with another file where a file stands. -/
def replaceFile (t : FileTree) (loc : Location) (content : Bytes) (access : Access)
    (h : t.get? loc ≠ some .directory) : FileTree where
  entries := t.entries.map fun e => if e.1 = loc then (loc, .file content access) else e
  nodup := by
    have : (t.entries.map fun e => if e.1 = loc then (loc, Node.file content access) else e).map
        Prod.fst = t.entries.map Prod.fst := by
      rw [List.map_map]
      apply List.map_congr_left
      intro e _
      by_cases he : e.1 = loc <;> simp [he]
    rw [this]
    exact t.nodup
  rooted := by
    refine List.mem_map.2 ⟨_, t.rooted, ?_⟩
    rw [if_neg]
    rintro rfl
    exact h t.get?_nil
  closed := by
    intro l name hl
    rw [List.map_map] at hl
    have hl : l ++ [name] ∈ t.entries.map Prod.fst := by
      obtain ⟨e, he, hx⟩ := List.mem_map.1 hl
      refine List.mem_map.2 ⟨e, he, ?_⟩
      by_cases hloc : e.1 = loc
      · simpa [hloc] using hx
      · simpa [hloc] using hx
    have hd := t.closed l name hl
    refine List.mem_map.2 ⟨_, hd, ?_⟩
    rw [if_neg]
    rintro rfl
    exact h (t.get?_eq_some_iff.2 hd)
  named := by
    intro l hl
    rw [List.map_map] at hl
    obtain ⟨e, he, rfl⟩ := List.mem_map.1 hl
    have hkey : (Prod.fst ∘ fun e : Location × Node =>
        if e.1 = loc then (loc, Node.file content access) else e) e = e.1 := by
      by_cases hloc : e.1 = loc <;> simp [hloc]
    rw [hkey]
    exact t.named e.1 (List.mem_map.2 ⟨e, he, rfl⟩)

/-- The tree with one more entry in a directory. -/
def addEntry (t : FileTree) (parent : Location) (name : Text) (n : Node)
    (hp : t.get? parent = some .directory) (hn : t.get? (parent ++ [name]) = none)
    (hname : isName name = true) : FileTree where
  entries := t.entries ++ [(parent ++ [name], n)]
  nodup := by
    rw [List.map_append, List.nodup_append]
    refine ⟨t.nodup, by simp, ?_⟩
    intro a ha b hb hab
    simp only [List.map_cons, List.map_nil, List.mem_singleton] at hb
    subst hab hb
    exact lookup_eq_none_iff_not_mem.1 hn ha
  rooted := List.mem_append_left _ t.rooted
  closed := by
    intro l m hl
    rw [List.map_append, List.mem_append] at hl
    rcases hl with hl | hl
    · exact List.mem_append_left _ (t.closed l m hl)
    · simp only [List.map_cons, List.map_nil, List.mem_singleton] at hl
      have := List.append_inj_left' hl rfl
      subst this
      exact List.mem_append_left _ (t.get?_eq_some_iff.1 hp)
  named := by
    intro l hl part hpart
    rw [List.map_append, List.mem_append] at hl
    rcases hl with hl | hl
    · exact t.named l hl part hpart
    · simp only [List.map_cons, List.map_nil, List.mem_singleton] at hl
      subst hl
      rcases List.mem_append.1 hpart with hpart | hpart
      · exact t.named parent (List.mem_map.2 ⟨_, t.get?_eq_some_iff.1 hp, rfl⟩) part hpart
      · rwa [List.mem_singleton.1 hpart]

/-- The tree with a file of this content in a directory. A file that stands there keeps its
access; where the parent is no directory, the place is one or can have no name, nothing changes. -/
def putFile (t : FileTree) (parent : Location) (name : Text) (content : Bytes) : FileTree :=
  match h : t.get? (parent ++ [name]) with
  | some .directory => t
  | some (.file _ access) => t.replaceFile (parent ++ [name]) content access (by simp [h])
  | none =>
    if hp : t.get? parent = some .directory ∧ isName name = true then
      t.addEntry parent name (.file content .full) hp.1 h hp.2
    else t

/-- The tree with other access to a file. -/
def setAccess (t : FileTree) (loc : Location) (access : Access) : FileTree :=
  match h : t.get? loc with
  | some (.file content _) => t.replaceFile loc content access (by simp [h])
  | _ => t

/-- The tree with a directory in a directory, unless something stands there. -/
def makeDirectory (t : FileTree) (parent : Location) (name : Text) : FileTree :=
  if hp : t.get? parent = some .directory ∧ isName name = true then
    match h : t.get? (parent ++ [name]) with
    | some _ => t
    | none => t.addEntry parent name .directory hp.1 h hp.2
  else t

/-- The tree without an entry and all that is below it; the root stays. -/
def remove (t : FileTree) (parent : Location) (name : Text) : FileTree where
  entries := t.entries.filter fun e => !(parent ++ [name]).isPrefixOf e.1
  nodup := (List.filter_sublist.map Prod.fst).nodup t.nodup
  rooted := List.mem_filter.2 ⟨t.rooted, by cases parent <;> simp⟩
  closed := by
    intro l m hl
    obtain ⟨e, he, hx⟩ := List.mem_map.1 hl
    obtain ⟨he, hpre⟩ := List.mem_filter.1 he
    have hd := t.closed l m (List.mem_map.2 ⟨e, he, hx⟩)
    refine List.mem_filter.2 ⟨hd, ?_⟩
    simp only [Bool.not_eq_true', Bool.eq_false_iff, ne_eq, List.isPrefixOf_iff_prefix] at hpre ⊢
    intro hpl
    exact hpre (hx ▸ hpl.trans (List.prefix_append _ _))
  named := by
    intro l hl
    obtain ⟨e, he, rfl⟩ := List.mem_map.1 hl
    exact t.named e.1 (List.mem_map.2 ⟨e, (List.mem_filter.1 he).1, rfl⟩)

/-! ## The view after an operation -/

theorem get?_replaceFile (t : FileTree) {loc : Location} {content : Bytes} {access : Access}
    (h : t.get? loc ≠ some .directory) (l : Location) :
    (t.replaceFile loc content access h).get? l =
      if l = loc then (t.get? loc).map fun _ => .file content access else t.get? l := by
  simp only [get?, replaceFile]
  generalize t.entries = es
  induction es with
  | nil => simp
  | cons e es ih =>
    obtain ⟨x, y⟩ := e
    by_cases hx : x = loc
    · subst hx
      by_cases hl : l = x
      · subst hl; simp
      · simp only [List.map_cons, ↓reduceIte, List.lookup_cons, ih]
        have : (l == x) = false := by simpa using hl
        simp [this, hl]
    · by_cases hl : l = loc
      · subst hl
        have : (l == x) = false := by simpa using fun h => hx h.symm
        simp only [List.map_cons, hx, ↓reduceIte, List.lookup_cons, this, ih]
      · simp only [List.map_cons, hx, ↓reduceIte, List.lookup_cons, ih, hl]

theorem get?_addEntry (t : FileTree) {parent : Location} {name : Text} {n : Node}
    (hp : t.get? parent = some .directory) (hn : t.get? (parent ++ [name]) = none)
    (hname : isName name = true) (l : Location) :
    (t.addEntry parent name n hp hn hname).get? l =
      if l = parent ++ [name] then some n else t.get? l := by
  simp only [get?, addEntry, List.lookup_append]
  by_cases hl : l = parent ++ [name]
  · subst hl
    have : List.lookup (parent ++ [name]) t.entries = none := hn
    simp [this]
  · have : (l == parent ++ [name]) = false := by simpa using hl
    simp [List.lookup_cons, this, hl]

/-- Putting a file changes one location, and only where a file is or can be. -/
theorem get?_putFile (t : FileTree) {parent : Location} {name : Text} {content : Bytes}
    (hp : t.get? parent = some .directory) (hname : isName name = true)
    (hn : t.get? (parent ++ [name]) ≠ some .directory) (l : Location) :
    (t.putFile parent name content).get? l =
      if l = parent ++ [name] then
        some (.file content (match t.get? (parent ++ [name]) with
          | some (.file _ access) => access
          | _ => .full))
      else t.get? l := by
  unfold putFile
  split
  · next h => exact absurd h hn
  · next old access h => rw [get?_replaceFile, h]; rfl
  · next h => rw [dif_pos ⟨hp, hname⟩, get?_addEntry, h]

/-- Making a directory changes one location, and only where nothing is. -/
theorem get?_makeDirectory (t : FileTree) {parent : Location} {name : Text}
    (hp : t.get? parent = some .directory) (hname : isName name = true) (l : Location) :
    (t.makeDirectory parent name).get? l =
      if l = parent ++ [name] then (t.get? l).or (some .directory) else t.get? l := by
  unfold makeDirectory
  rw [dif_pos ⟨hp, hname⟩]
  split
  · next n h => split <;> simp_all
  · next h => rw [get?_addEntry]; split <;> simp_all

/-- Removing an entry removes what is at and below its location and nothing else. -/
theorem get?_remove (t : FileTree) {parent : Location} {name : Text} (l : Location) :
    (t.remove parent name).get? l =
      if (parent ++ [name]).isPrefixOf l then none else t.get? l := by
  simp only [get?, remove]
  induction t.entries with
  | nil => simp
  | cons e es ih =>
    obtain ⟨x, y⟩ := e
    cases hx : (parent ++ [name]).isPrefixOf x
    · rw [List.filter_cons_of_pos (by simp [hx]), List.lookup_cons, ih, List.lookup_cons]
      cases hl : l == x
      · rfl
      · have : l = x := by simpa using hl
        simp [this, hx]
    · rw [List.filter_cons_of_neg (by simp [hx]), ih, List.lookup_cons]
      cases hl : l == x
      · rfl
      · have : l = x := by simpa using hl
        simp [this, hx]

end FileTree

end LicenseAudit
