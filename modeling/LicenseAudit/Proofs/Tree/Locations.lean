import LicenseAudit.Discovery
import LicenseAudit.Proofs.Text.Lines
import Mathlib.Data.List.Nodup

/-!
# Locations of paths

A tree has no links, so the location that a path leads to is the one that its components spell
(`FileTree.locate_eq_ok`), and names below a directory are spelled out behind its location
(`Path.resolve_below`). What a path leads to depends on which entries are files and which are
directories, and not on what the files hold (`FileTree.SameShape`): where a file is written again,
everything else is found and read as before.

The normal paths are those that reading gives (`Path.normal_ofText`); a normal path is the path that
its written form reads as (`Path.Normal.ofText_toText`).
-/

namespace LicenseAudit

open Text

/-! ## Names -/

section Names

variable {name : Text}

theorem isName_iff : isName name = true ↔
    name ≠ [] ∧ name ≠ ['.'] ∧ name ≠ ['.', '.'] ∧ '/' ∉ name ∧ '\x00' ∉ name := by
  simp [isName, and_assoc]

theorem Location.step_of_isName (loc : Location) (h : isName name = true) :
    loc.step name = loc ++ [name] := by
  obtain ⟨hempty, hdot, hdots, -⟩ := isName_iff.1 h
  simp [Location.step, hempty, hdot, hdots]

/-- Names lead from a location to the one that they spell behind it. -/
theorem Location.foldl_step_names (loc : Location) {names : List Text}
    (h : ∀ name ∈ names, isName name = true) : names.foldl Location.step loc = loc ++ names := by
  induction names generalizing loc with
  | nil => simp
  | cons name names ih =>
    rw [List.foldl_cons, step_of_isName loc (h name (List.mem_cons_self ..)),
      ih _ fun n hn => h n (List.mem_cons_of_mem _ hn), List.append_assoc, List.singleton_append]

end Names

namespace Path

/-- The path of names below another path. -/
def below (root : Path) (names : List Text) : Path := { root with parts := root.parts ++ names }

variable {root : Path} {names : List Text} {cwd : Location}

/-- Names below a path are spelled out behind its location. -/
theorem resolve_below (h : ∀ name ∈ names, isName name = true) :
    (root.below names).resolve cwd = root.resolve cwd ++ names := by
  rw [resolve, below, List.foldl_append, Location.foldl_step_names _ h]
  rfl

theorem resolve_child {name : Text} (h : isName name = true) :
    (root.child name).resolve cwd = root.resolve cwd ++ [name] := by
  have hnames : ∀ n ∈ [name], isName n = true := by simpa using h
  exact resolve_below hnames

theorem holdsNull_below (hroot : root.holdsNull = false)
    (h : ∀ name ∈ names, isName name = true) : (root.below names).holdsNull = false := by
  rw [holdsNull, below, List.any_append, Bool.or_eq_false_iff]
  refine ⟨hroot, List.any_eq_false.2 fun name hname => ?_⟩
  simpa using (isName_iff.1 (h name hname)).2.2.2.2

theorem holdsNull_child {name : Text} (hroot : root.holdsNull = false) (h : isName name = true) :
    (root.child name).holdsNull = false := by
  have hnames : ∀ n ∈ [name], isName n = true := by simpa using h
  exact holdsNull_below hroot hnames

/-- A path that a text writes holds no character that the text does not hold. -/
theorem holdsNull_ofText {s : Text} (h : '\x00' ∉ s) : (ofText s).holdsNull = false := by
  refine List.any_eq_false.2 fun part hpart => ?_
  rw [List.contains_iff_mem]
  exact fun hnull => h (mem_of_mem_splitOnChar '/' (List.mem_of_mem_filter hpart) hnull)

end Path

/-- Seen from a root, a path below it is its names with slashes between them. -/
theorem relativeKey_below {root : Path} {names : List Text} (cwd : Location)
    (hroot : root.holdsNull = false) (hne : names ≠ []) (h : ∀ name ∈ names, isName name = true) :
    relativeKey cwd (root.below names) root = joinWith ['/'] names := by
  have hkey : joinWith ['/'] names ≠ [] :=
    joinWith_ne_nil hne fun name hname => (isName_iff.1 (h name hname)).1
  simp [relativeKey, Path.holdsNull_below hroot h, hroot, Path.resolve_below h, Path.toText,
    List.isEmpty_iff, hkey]

namespace FileTree

variable {t t' : FileTree} {cwd loc : Location} {p : Path}

/-! ## Where a path leads -/

theorem walk_eq_ok {parts : List Text} {found : Location} (h : t.walk loc parts = .ok found) :
    found = parts.foldl Location.step loc := by
  induction parts generalizing loc with
  | nil => simpa [walk, eq_comm] using h
  | cons part rest ih =>
    rw [walk] at h
    split at h
    · simp at h
    · simp at h
    · split at h
      · simp at h
      · exact ih h

/-- Without links a path leads where its components spell. -/
theorem locate_eq_ok (h : t.locate cwd p = .ok loc) : loc = p.resolve cwd := by
  rw [locate, walkWritten] at h
  split at h
  · simp at h
  · exact walk_eq_ok h

/-- What stands where components lead, stands behind an entry. -/
theorem exists_get?_of_walk {parts : List Text} {found : Location} {n : Node}
    (h : t.walk loc parts = .ok found) (hn : t.get? found = some n) : ∃ m, t.get? loc = some m := by
  cases parts with
  | nil =>
    cases h
    exact ⟨n, hn⟩
  | cons part rest =>
    rw [walk] at h
    split at h
    · simp at h
    · simp at h
    · next hdir => exact ⟨_, hdir⟩

/-- Components that lead to an entry hold no character that ends a path. -/
theorem not_mem_of_walk {parts : List Text} {found : Location} {n : Node}
    (h : t.walk loc parts = .ok found) (hn : t.get? found = some n) :
    ∀ part ∈ parts, '\x00' ∉ part := by
  induction parts generalizing loc with
  | nil => simp
  | cons part rest ih =>
    rw [walk] at h
    split at h
    · simp at h
    · simp at h
    split at h
    · simp at h
    refine List.forall_mem_cons.2 ⟨fun hnull => ?_, ih h⟩
    obtain ⟨m, hm⟩ := exists_get?_of_walk h hn
    -- Such a component is no name, so it spells one more component that is no name either.
    have hstep : loc.step part = loc ++ [part] := by
      have hempty : part ≠ [] := by rintro rfl; simp at hnull
      have hdot : part ≠ ['.'] := by rintro rfl; simp at hnull
      have hdots : part ≠ ['.', '.'] := by rintro rfl; simp at hnull
      simp [Location.step, hempty, hdot, hdots]
    rw [hstep] at hm
    exact (isName_iff.1 (t.isName_of_get? hm part (by simp))).2.2.2.2 hnull

/-- A path names what stands where it leads. -/
theorem find?_eq_some_iff {n : Node} : t.find? cwd p = some n ↔
    t.locate cwd p = .ok (p.resolve cwd) ∧ t.get? (p.resolve cwd) = some n := by
  rw [find?]
  rcases hl : t.locate cwd p with fault | loc
  · simp
  · simp [locate_eq_ok hl]

theorem isDirectory_iff : t.isDirectory cwd p = true ↔ t.find? cwd p = some .directory := by
  rw [isDirectory]
  split <;> simp_all

theorem isFile_iff :
    t.isFile cwd p = true ↔ ∃ content access, t.find? cwd p = some (.file content access) := by
  rw [isFile]
  split <;> simp_all

/-- A path that names something holds no character that ends a path. -/
theorem holdsNull_of_find? {n : Node} (h : t.find? cwd p = some n) : p.holdsNull = false := by
  rw [find?] at h
  split at h
  · next loc hl =>
    rw [locate, walkWritten] at hl
    split at hl
    · simp at hl
    · exact List.any_eq_false.2 fun part hpart => by simpa using not_mem_of_walk hl h part hpart
  · simp at h

theorem holdsNull_of_isDirectory (h : t.isDirectory cwd p = true) : p.holdsNull = false :=
  holdsNull_of_find? (isDirectory_iff.1 h)

theorem holdsNull_of_isFile (h : t.isFile cwd p = true) : p.holdsNull = false := by
  obtain ⟨content, access, hfind⟩ := isFile_iff.1 h
  exact holdsNull_of_find? hfind

/-! ## Entries below a location -/

theorem mem_below_iff {names : List Text} {n : Node} :
    (names, n) ∈ t.below loc ↔ names ≠ [] ∧ t.get? (loc ++ names) = some n := by
  simp only [below, List.mem_filterMap, get?_eq_some_iff]
  constructor
  · rintro ⟨⟨l, m⟩, hmem, h⟩
    split at h
    · next hl =>
      simp only [Bool.and_eq_true, List.isPrefixOf_iff_prefix, bne_iff_ne, ne_eq] at hl
      obtain ⟨⟨rest, rfl⟩, hne⟩ := hl
      simp only [List.drop_left, Option.some.injEq, Prod.mk.injEq] at h
      obtain ⟨rfl, rfl⟩ := h
      exact ⟨by simpa using hne, hmem⟩
    · simp at h
  · rintro ⟨hne, hmem⟩
    exact ⟨_, hmem, by simp [hne]⟩

/-- No entry below a location is listed twice. -/
theorem nodup_below : ((t.below loc).map Prod.fst).Nodup := by
  have hfst : (t.below loc).map Prod.fst = (t.entries.map Prod.fst).filterMap fun l =>
      if loc.isPrefixOf l && l != loc then some (l.drop loc.length) else none := by
    rw [below, List.map_filterMap, List.filterMap_map]
    congr 1
    funext e
    simp only [Function.comp_apply]
    split <;> rfl
  rw [hfst]
  refine List.Nodup.filterMap (fun l l' names h h' => ?_) t.nodup
  simp only [Option.mem_def, Option.ite_none_right_eq_some, Bool.and_eq_true,
    List.isPrefixOf_iff_prefix, Option.some.injEq] at h h'
  obtain ⟨⟨⟨rest, rfl⟩, -⟩, h⟩ := h
  obtain ⟨⟨⟨rest', rfl⟩, -⟩, h'⟩ := h'
  rw [List.drop_left] at h h'
  rw [h, h']

/-! ## Trees of one shape -/

/-- Two trees have files at the same locations and directories at the same locations. -/
def SameShape (t t' : FileTree) : Prop :=
  ∀ loc, (t'.get? loc).map Node.isDirectory = (t.get? loc).map Node.isDirectory

theorem SameShape.walk_eq (h : t.SameShape t') (loc : Location) (parts : List Text) :
    t'.walk loc parts = t.walk loc parts := by
  induction parts generalizing loc with
  | nil => rfl
  | cons part rest ih =>
    have hloc := h loc
    rw [walk, walk]
    generalize t.get? loc = n at hloc
    generalize t'.get? loc = n' at hloc
    rcases n with _ | _ | _ <;> rcases n' with _ | _ | _ <;> simp_all [Node.isDirectory]

/-- In trees of one shape paths lead to the same places. -/
theorem SameShape.locate_eq (h : t.SameShape t') (cwd : Location) (p : Path) :
    t'.locate cwd p = t.locate cwd p := by
  rw [locate, locate, walkWritten, walkWritten, h.walk_eq]

/-- Where the entry that a path leads to is the same, reading the path gives the same. -/
theorem SameShape.read_eq (h : t.SameShape t')
    (hp : t'.get? (p.resolve cwd) = t.get? (p.resolve cwd)) : t'.read cwd p = t.read cwd p := by
  rw [read, read, h.locate_eq]
  rcases hl : t.locate cwd p with fault | loc
  · rfl
  · rw [← locate_eq_ok hl] at hp
    simp only [bind, Except.bind, hp]

/-- Where the entry that a path leads to is the same, the path can be written or not as before. -/
theorem SameShape.writable_eq (h : t.SameShape t')
    (hp : t'.get? (p.resolve cwd) = t.get? (p.resolve cwd)) :
    t'.writable cwd p = t.writable cwd p := by
  rw [writable, writable, h.locate_eq]
  rcases hl : t.locate cwd p with fault | loc
  · rfl
  · rw [← locate_eq_ok hl] at hp
    simp only [bind, Except.bind, hp]

/-! ## Files written again -/

/-- What a path reads is the content of the file that it names, which must not be sealed. -/
theorem read_eq_ok_iff {content : Bytes} : t.read cwd p = .ok content ↔
    ∃ access, access ≠ .sealed ∧ t.find? cwd p = some (.file content access) := by
  rw [read, find?]
  rcases hl : t.locate cwd p with fault | loc
  · simp [bind, Except.bind]
  · simp only [bind, Except.bind]
    split <;> simp_all

theorem read_eq_ok {content : Bytes} (h : t.read cwd p = .ok content) :
    ∃ access, t.get? (p.resolve cwd) = some (.file content access) := by
  obtain ⟨access, -, hfind⟩ := read_eq_ok_iff.1 h
  exact ⟨access, (find?_eq_some_iff.1 hfind).2⟩

/-- What can be read is a file. -/
theorem isFile_of_read {content : Bytes} (h : t.read cwd p = .ok content) :
    t.isFile cwd p = true := by
  obtain ⟨access, -, hfind⟩ := read_eq_ok_iff.1 h
  exact isFile_iff.2 ⟨content, access, hfind⟩

/-- What can be written is where the path leads, and there is nothing or a file that may be
written. -/
theorem writable_eq_ok_iff : t.writable cwd p = .ok loc ↔ t.locate cwd p = .ok loc ∧
    (t.get? loc = none ∨ ∃ content, t.get? loc = some (.file content .full)) := by
  rw [writable]
  rcases hl : t.locate cwd p with fault | found
  · simp [bind, Except.bind]
  · simp only [bind, Except.bind, Except.ok.injEq]
    constructor
    · intro h
      split at h <;> simp_all
    · rintro ⟨rfl, h | ⟨content, h⟩⟩ <;> simp [h]

theorem writable_eq_ok (h : t.writable cwd p = .ok loc) : loc = p.resolve cwd :=
  locate_eq_ok (writable_eq_ok_iff.1 h).1

variable {old new : Bytes} {access : Access}

theorem write_eq_ok_iff : t.write cwd p new = .ok t' ↔
    t.writable cwd p = .ok (p.resolve cwd) ∧ t.put (p.resolve cwd) new = t' := by
  rw [write]
  rcases hw : t.writable cwd p with fault | loc
  · simp [bind, Except.bind]
  · simp [bind, Except.bind, pure, Except.pure, writable_eq_ok hw]

/-- Putting new content where a file stands changes this content and nothing else. -/
theorem get?_put (h : t.get? loc = some (.file old access)) (l : Location) :
    (t.put loc new).get? l = if l = loc then some (.file new access) else t.get? l := by
  rcases List.eq_nil_or_concat' loc with rfl | ⟨parent, name, rfl⟩
  · simp [get?_nil] at h
  · have hname := t.isName_of_get? h name (by simp)
    simp only [put, List.getLast?_concat, List.dropLast_concat]
    rw [get?_putFile t (t.get?_parent h) hname (by simp [h]), h]

/-! ## Files written in a directory -/

/-- Where directories stay, components lead where they led. -/
theorem walk_of_directories (h : ∀ l, t.get? l = some .directory → t'.get? l = some .directory)
    {parts : List Text} {found : Location} (hw : t.walk loc parts = .ok found) :
    t'.walk loc parts = .ok found := by
  induction parts generalizing loc with
  | nil => exact hw
  | cons part rest ih =>
    rw [walk] at hw ⊢
    split at hw
    · cases hw
    · cases hw
    · next hdir =>
      rw [h _ hdir]
      split at hw
      · cases hw
      · next hsize => exact (if_neg hsize).trans (ih hw)

/-- Where directories stay, a path that led somewhere names what stands there now. -/
theorem find?_of_directories (h : ∀ l, t.get? l = some .directory → t'.get? l = some .directory)
    (hl : t.locate cwd p = .ok loc) : t'.find? cwd p = t'.get? (p.resolve cwd) := by
  have hloc : t'.locate cwd p = .ok loc := by
    rw [locate, walkWritten] at hl ⊢
    split at hl
    · cases hl
    · next hsize => exact (if_neg hsize).trans (walk_of_directories h hl)
  rw [find?, hloc, ← locate_eq_ok hl]

section Child

variable {root : Path} {name : Text} (hdir : t.isDirectory cwd root = true)
  (hname : isName name = true) (h : t.write cwd (root.child name) new = .ok t')

include hdir hname h

/-- A file that is written in a directory holds what was written, and nothing else changes. -/
theorem get?_write_child (l : Location) : t'.get? l =
    if l = (root.child name).resolve cwd then some (.file new .full) else t.get? l := by
  have hparent := (find?_eq_some_iff.1 (isDirectory_iff.1 hdir)).2
  obtain ⟨hw, rfl⟩ := write_eq_ok_iff.1 h
  have hnode := (writable_eq_ok_iff.1 hw).2
  rw [Path.resolve_child hname] at hnode ⊢
  simp only [put, List.getLast?_concat, List.dropLast_concat]
  rcases hnode with hnode | ⟨old, hnode⟩ <;>
    rw [get?_putFile t hparent hname (by simp [hnode]), hnode]

theorem directory_write_child (l : Location) (hl : t.get? l = some .directory) :
    t'.get? l = some .directory := by
  have hnode := (writable_eq_ok_iff.1 (write_eq_ok_iff.1 h).1).2
  rw [get?_write_child hdir hname h, if_neg, hl]
  rintro rfl
  simp [hl] at hnode

theorem isDirectory_write_child : t'.isDirectory cwd root = true := by
  have hstays := directory_write_child hdir hname h
  obtain ⟨hloc, hparent⟩ := find?_eq_some_iff.1 (isDirectory_iff.1 hdir)
  rw [isDirectory_iff, find?_of_directories hstays hloc, hstays _ hparent]

/-- What was written is read. -/
theorem read_write_child : t'.read cwd (root.child name) = .ok new := by
  have hloc := (writable_eq_ok_iff.1 (write_eq_ok_iff.1 h).1).1
  refine read_eq_ok_iff.2 ⟨.full, by simp, ?_⟩
  rw [find?_of_directories (directory_write_child hdir hname h) hloc,
    get?_write_child hdir hname h, if_pos rfl]

/-- What stands elsewhere is read as before. -/
theorem read_write_child_of_ne (hne : p.resolve cwd ≠ (root.child name).resolve cwd)
    (hread : t.read cwd p = .ok old) : t'.read cwd p = .ok old := by
  obtain ⟨access, haccess, hfind⟩ := read_eq_ok_iff.1 hread
  obtain ⟨hloc, hfile⟩ := find?_eq_some_iff.1 hfind
  refine read_eq_ok_iff.2 ⟨access, haccess, ?_⟩
  rw [find?_of_directories (directory_write_child hdir hname h) hloc,
    get?_write_child hdir hname h, if_neg hne, hfile]

end Child

end FileTree

/-! ## Normal paths -/

/-- A path is what reading gives: its components hold no slash and are neither empty nor a dot. -/
structure Path.Normal (p : Path) : Prop where
  root : p.root = [] ∨ p.root = ['/'] ∨ p.root = ['/', '/']
  parts : ∀ part ∈ p.parts, part ≠ [] ∧ part ≠ ['.'] ∧ '/' ∉ part

namespace Path

theorem normal_ofText (s : Text) : (ofText s).Normal where
  root := by
    rw [ofText]
    dsimp only
    fun_cases rootOf s <;> simp
  parts part h := by
    simp only [ofText, List.mem_filter, Bool.and_eq_true, bne_iff_ne, ne_eq] at h
    exact ⟨h.2.1, h.2.2, not_mem_of_mem_splitOnChar '/' h.1⟩

theorem Normal.below {root : Path} {names : List Text} (hroot : root.Normal)
    (h : ∀ name ∈ names, isName name = true) : (root.below names).Normal where
  root := hroot.root
  parts part hpart := by
    rcases List.mem_append.1 hpart with hpart | hpart
    · exact hroot.parts part hpart
    · obtain ⟨hempty, hdot, -, hslash, -⟩ := isName_iff.1 (h part hpart)
      exact ⟨hempty, hdot, hslash⟩

/-- The components of a normal path are cut out of it again. -/
theorem Normal.filter_splitOnChar {p : Path} (h : p.Normal) :
    ((splitOnChar '/' (joinWith ['/'] p.parts)).filter fun part => part != [] && part != ['.']) =
      p.parts := by
  rcases hparts : p.parts with _ | ⟨first, rest⟩
  · rfl
  · rw [← hparts, splitOnChar_joinWith '/' (by simp [hparts]) fun part hp => (h.parts part hp).2.2,
      List.filter_eq_self]
    intro part hp
    simp [(h.parts part hp).1, (h.parts part hp).2.1]

theorem Normal.joinWith_ne_slash_cons {p : Path} (h : p.Normal) (s : Text) :
    joinWith ['/'] p.parts ≠ '/' :: s := by
  intro hs
  rcases hparts : p.parts with _ | ⟨first, rest⟩
  · simp [hparts, joinWith] at hs
  · obtain ⟨hempty, -, hslash⟩ := h.parts first (by simp [hparts])
    obtain ⟨c, first, rfl⟩ := List.exists_cons_of_ne_nil hempty
    have hc : c = '/' := by
      rw [hparts] at hs
      cases rest <;> simp_all [joinWith]
    simp [hc] at hslash

/-- A normal path is the path that its written form reads as. -/
theorem Normal.ofText_toText {p : Path} (h : p.Normal) : ofText p.toText = p := by
  have hcut := h.filter_splitOnChar
  have hhead := h.joinWith_ne_slash_cons
  obtain ⟨root, parts⟩ := p
  obtain hroot | hroot | hroot := h.root <;> dsimp only at hroot hcut hhead <;> subst hroot
  · by_cases hempty : joinWith ['/'] parts = []
    · have hparts : parts = [] := by simpa [hempty, splitOnChar] using hcut.symm
      subst hparts
      rfl
    · have hroot : rootOf (joinWith ['/'] parts) = [] := by
        rw [rootOf] <;> exact fun r => hhead _
      simp only [toText, List.nil_append, List.isEmpty_iff, hempty, ↓reduceIte, ofText, hroot, hcut]
  · have hroot : rootOf ('/' :: joinWith ['/'] parts) = ['/'] := by
      rw [rootOf] <;> exact fun r => hhead _
    simp [toText, ofText, hroot, splitOnChar, hcut]
  · have hroot : rootOf ('/' :: '/' :: joinWith ['/'] parts) = ['/', '/'] := by
      rw [rootOf]
      exact fun r => hhead _
    simp [toText, ofText, hroot, splitOnChar, hcut]

end Path

end LicenseAudit
