import LicenseAudit.Document
import LicenseAudit.Proofs.Audit.Outcome
import LicenseAudit.Proofs.Settings.Loading
import LicenseAudit.Proofs.Settings.YearEntries
import Mathlib.Data.List.Induction

/-!
# Three ways to write a year map

Years of paths are written in the lines of a file, between commas, or in a table of the settings.
`Lists` says which texts are entries of given pairs of paths and years, and `Tabulates` the same of
the entries of a table; anything that is no entry may stand between.

Whatever way is taken, the map is that of the pairs, in which a path has the year that comes last
(`YearMap.LastYears`, `Run.yearMap_of_lists`).
-/

namespace LicenseAudit

open Text

/-! ## The years of pairs -/

namespace YearMap

variable (m : YearMap) (path q : Text) (year : Int) (pairs : List (Text × Int))

theorem get?_insert :
    (m.insert path year).get? q = if q = path then some year else m.get? q := by
  rw [insert, get?_overlay]
  by_cases h : q = path
  · simp [get?, single, h]
  · have hbeq : (q == path) = false := beq_eq_false_iff_ne.2 h
    simp [get?, single, h, hbeq, List.lookup_cons]

/-- A path that is new comes last. -/
theorem paths_insert : (m.insert path year).entries.map Prod.fst =
    m.entries.map Prod.fst ++ if path ∈ m.entries.map Prod.fst then [] else [path] := by
  have hm : (m.entries.map fun e => (e.1, ((single path year).get? e.1).getD e.2)).map Prod.fst =
      m.entries.map Prod.fst := by
    simp [Function.comp_def]
  rw [insert, overlay, List.map_append, hm]
  by_cases h : path ∈ m.entries.map Prod.fst
  · simp only [single, h, if_true, List.filter_cons, not_true_eq_false, decide_false,
      Bool.false_eq_true, if_false, List.filter_nil, List.map_nil]
  · simp only [single, h, if_false, List.filter_cons, not_false_eq_true, decide_true, if_true,
      List.filter_nil, List.map_cons, List.map_nil]

/-- The map with pairs entered one after the other. -/
def enter (m : YearMap) (pairs : List (Text × Int)) : YearMap :=
  pairs.foldl (fun m p => m.insert p.1 p.2) m

/-- The map has the paths of some pairs, each where it comes first, with the year that comes last
for it. -/
structure LastYears (pairs : List (Text × Int)) (m : YearMap) : Prop where
  paths : m.entries.map Prod.fst = (pairs.map Prod.fst).eraseDups
  year : ∀ path, m.get? path = pairs.reverse.lookup path

theorem lastYears_enter : LastYears pairs (empty.enter pairs) := by
  induction pairs using List.reverseRecOn with
  | nil => exact ⟨rfl, fun _ => rfl⟩
  | append_singleton pairs p ih =>
    have hlast : empty.enter (pairs ++ [p]) = (empty.enter pairs).insert p.1 p.2 := by
      simp only [enter, List.foldl_append, List.foldl_cons, List.foldl_nil]
    rw [hlast]
    refine ⟨?_, fun path => ?_⟩
    · have hmem : p.1 ∈ (empty.enter pairs).entries.map Prod.fst ↔ p.1 ∈ pairs.map Prod.fst := by
        rw [ih.paths, List.mem_eraseDups]
      rw [paths_insert, ih.paths, List.map_append, List.map_singleton, List.eraseDups_append,
        ← ih.paths]
      by_cases h : p.1 ∈ pairs.map Prod.fst
      · rw [if_pos (hmem.2 h)]
        simp [List.removeAll, h]
      · rw [if_neg fun hm => h (hmem.1 hm)]
        simp [List.removeAll, List.eraseDups_cons, h]
    · rw [get?_insert, ih.year, List.reverse_append, List.reverse_singleton, List.singleton_append,
        List.lookup_cons]
      by_cases h : path = p.1
      · simp [h]
      · simp [h, beq_eq_false_iff_ne.2 h]

end YearMap

/-! ## Lists and tables of pairs -/

/-- The texts are entries of the pairs, in their order, with junk between them. -/
inductive Lists : List (Text × Int) → List Text → Prop
  | nil : Lists [] []
  | entry {path p y : Text} {year : Int} {pairs : List (Text × Int)} {entries : List Text}
      (hp : WritesPath path p) (hy : WritesYear year y) (h : Lists pairs entries) :
      Lists ((path, year) :: pairs) ((p ++ ':' :: y) :: entries)
  | junk {s : Text} {pairs : List (Text × Int)} {entries : List Text} (hs : IsJunk s)
      (h : Lists pairs entries) : Lists pairs (s :: entries)

/-- The entries of the table are the pairs, in their order, with others between them whose values
are no years. -/
inductive Tabulates : List (Text × Int) → Table → Prop
  | nil : Tabulates [] []
  | entry {path key : Text} {v : Value} {year : Int} {pairs : List (Text × Int)} {t : Table}
      (hk : WritesPath path key) (hv : v.WritesYear year) (h : Tabulates pairs t) :
      Tabulates ((path, year) :: pairs) ((key, v) :: t)
  | junk {key : Text} {v : Value} {pairs : List (Text × Int)} {t : Table}
      (hv : ∀ year, ¬ v.WritesYear year) (h : Tabulates pairs t) : Tabulates pairs ((key, v) :: t)

/-- A pair as an entry with nothing around its parts. -/
def plainEntry (p : Text × Int) : Text := p.1 ++ ':' :: ofInt p.2

section Plain

variable {pairs : List (Text × Int)} (hyears : ∀ p ∈ pairs, 1000 ≤ p.2 ∧ p.2 ≤ 2999)

include hyears

theorem lists_plainEntry : Lists pairs (pairs.map plainEntry) := by
  induction pairs with
  | nil => exact .nil
  | cons p pairs ih =>
    obtain ⟨h₁, h₂⟩ := hyears p (List.mem_cons_self ..)
    exact .entry (writesPath_self p.1) (writesYear_ofInt h₁ h₂)
      (ih fun q hq => hyears q (List.mem_cons_of_mem _ hq))

theorem tabulates_integer : Tabulates pairs (pairs.map fun p => (p.1, .integer p.2)) := by
  induction pairs with
  | nil => exact .nil
  | cons p pairs ih =>
    obtain ⟨h₁, h₂⟩ := hyears p (List.mem_cons_self ..)
    exact .entry (writesPath_self p.1) (.integer h₁ h₂)
      (ih fun q hq => hyears q (List.mem_cons_of_mem _ hq))

end Plain

/-- A plain entry is one piece between commas and one line. -/
theorem IsYearPath.whole_plainEntry {p : Text × Int} (h : IsYearPath p.1) (h₁ : 1000 ≤ p.2)
    (h₂ : p.2 ≤ 2999) : ',' ∉ plainEntry p ∧ ∀ c ∈ plainEntry p, isBreak c = false := by
  have hyear := yearNumeral_ofInt h₁ h₂
  constructor
  · simp [plainEntry, h.comma, hyear.not_mem (show digitValue? ',' = none by decide)]
  · intro c hc
    rcases List.mem_append.1 hc with hc | hc
    · exact h.unbroken c hc
    rcases List.mem_cons.1 hc with rfl | hc
    · rfl
    by_contra hb
    have hblank := isBlank_of_isBreak (Bool.not_eq_false _ ▸ hb)
    exact hyear.not_mem (digitValue?_of_blank hblank) hc

namespace YearMap

variable {pairs : List (Text × Int)}

theorem ofEntries_of_lists {entries : List Text} (hpairs : ∀ p ∈ pairs, IsYearPath p.1)
    (h : Lists pairs entries) : ofEntries entries = empty.enter pairs := by
  rw [ofEntries]
  -- the induction needs every map that the entries before may have left
  generalize empty = m
  induction h generalizing m with
  | nil => rfl
  | entry hp hy _ ih =>
    have hpath := hpairs _ (List.mem_cons_self ..)
    have hcolon : ':' ∉ _ := hp.not_mem_colon hpath
    have hvalid := YearEntry.ofText_eq_valid_iff.2
      ⟨_, _, rfl, hcolon, hy.not_mem_colon, hp.entryPath_eq hpath, hy⟩
    rw [List.map_cons, hvalid]
    exact ih (fun p hmem => hpairs p (List.mem_cons_of_mem _ hmem)) _
  | junk hs _ ih =>
    rw [List.map_cons, List.foldl_cons, YearEntry.addTo_of_isJunk hs]
    exact ih hpairs m

/-- An entry whose value is no year changes nothing, whatever else is in the table. -/
theorem ofTable_eq_ofTable_filter (t : Table) :
    ofTable t = ofTable (t.filter fun e => e.2.year?.isSome) := by
  rw [ofTable, ofTable]
  generalize empty = m
  induction t generalizing m with
  | nil => rfl
  | cons e t ih =>
    rcases hv : e.2.year? with _ | year
    · rw [List.filter_cons_of_neg (by simp [hv]), List.foldl_cons, hv]
      exact ih m
    · rw [List.filter_cons_of_pos (by simp [hv]), List.foldl_cons, List.foldl_cons, hv]
      exact ih _

theorem ofTable_of_tabulates {t : Table} (hpairs : ∀ p ∈ pairs, IsYearPath p.1)
    (h : Tabulates pairs t) : ofTable t = empty.enter pairs := by
  rw [ofTable]
  generalize empty = m
  induction h generalizing m with
  | nil => rfl
  | entry hk hv _ ih =>
    have hpath := hpairs _ (List.mem_cons_self ..)
    rw [List.foldl_cons, Value.year?_eq_some_iff.2 hv, hk.entryPath_eq hpath]
    exact ih (fun p hmem => hpairs p (List.mem_cons_of_mem _ hmem)) _
  | junk hv _ ih =>
    have hnone := Option.eq_none_iff_forall_ne_some.2 fun year hy =>
      hv year (Value.year?_eq_some_iff.1 hy)
    rw [List.foldl_cons, hnone]
    exact ih hpairs m

/-- Empty entries at the end change nothing. -/
theorem ofEntries_append_replicate (entries : List Text) (k : Nat) :
    ofEntries (entries ++ List.replicate k []) = ofEntries entries := by
  rw [ofEntries, ofEntries, List.map_append, List.foldl_append, List.map_replicate]
  generalize (entries.map YearEntry.ofText).foldl YearEntry.addTo empty = m
  induction k with
  | zero => rfl
  | succ k ih => exact ih

/-! ## Loading -/

/-- The lines of a file come back from between its line ends as the same map. -/
theorem ofEntries_splitAtBreaks (ending : LineEnding) {lines : List Text}
    (h : ∀ line ∈ lines, ∀ c ∈ line, isBreak c = false) :
    ofEntries (splitAtBreaks (unifyNewlines (joinWith ending.text lines))) = ofEntries lines := by
  have hreturn : ∀ line ∈ lines, '\r' ∉ line := fun line hline hc =>
    absurd (h line hline _ hc) (by decide)
  have hending : ∀ s, unifyNewlines (ending.text ++ s) = '\n' :: unifyNewlines s := fun s => by
    cases ending <;> simp [LineEnding.text, unifyNewlines]
  obtain ⟨k, hk⟩ := exists_splitAtBreaks_joinWith h
  rw [unifyNewlines_joinWith hending hreturn]
  exact (ofEntries_append_replicate _ k).symm.trans (congrArg ofEntries hk.symm)

theorem ofEntries_splitOnChar {entries : List Text} (h : ∀ entry ∈ entries, ',' ∉ entry) :
    ofEntries (splitOnChar ',' (joinWith [','] entries)) = ofEntries entries := by
  rcases entries with _ | ⟨entry, rest⟩
  · rfl
  · rw [splitOnChar_joinWith ',' (by simp) h]

end YearMap

namespace Run

/-- The text is loaded as this map, and nothing but records comes of it. -/
def LoadsYears (s : Session) (written : Text) (m : YearMap) : Prop :=
  ∃ s', (yearMap written).perform s = (.ok m, s') ∧ s.Keeps s'

variable {s : Session} {written content : Text}

theorem loadsYears_of_file (hl : s.logFile = none)
    (h : s.tree.text? s.workingDirectory (Path.ofText written) = .ok content) :
    LoadsYears s written (.ofEntries (splitAtBreaks (unifyNewlines content))) := by
  obtain ⟨bytes, hread, -⟩ := FileTree.text?_eq_ok_iff.1 h
  have hfile := FileTree.isFile_of_read hread
  have hnull := FileTree.holdsNull_of_isFile hfile
  have hgiven : ((yearMap written).perform s).1 =
      .ok (.ofEntries (splitAtBreaks (unifyNewlines content))) := by
    let shown : Text := "Reading file start years from " ++ (Path.ofText written).toText
    have hkeeps := s.keeps_log ⟨.debug, shown⟩
    rw [yearMap, perform_look_bind, hfile, if_pos rfl]
    simp only [pure_bind]
    rw [perform_log_bind, readLines]
    simp only [bind_assoc, pure_bind]
    rw [perform_bind, perform_readText hnull, hkeeps.tree hl, hkeeps.workingDirectory, h]
    rfl
  exact ⟨_, perform_eq_of_fst hgiven, (looks_yearMap written).keeps rfl⟩

theorem loadsYears_of_not_file
    (h : s.tree.isFile s.workingDirectory (Path.ofText written) = false) :
    LoadsYears s written (.ofEntries (splitOnChar ',' written)) := by
  have hgiven : ((yearMap written).perform s).1 = .ok (.ofEntries (splitOnChar ',' written)) := by
    rw [yearMap, perform_look_bind, h]
    rfl
  exact ⟨_, perform_eq_of_fst hgiven, (looks_yearMap written).keeps rfl⟩

/-- **The three ways to write a year map agree.** Pairs of paths and years come to one map, in
which a path has the year that comes last for it. This map is loaded from every file whose lines
list the pairs, from every text that lists them between commas and names no file, and from every
table of them: blanks around the parts of an entry, `./` in front of its path, and texts or values
between them that are no entries change nothing. Written plainly, without any of these, the pairs
are such lines, such a text and such a table. -/
theorem yearMap_of_lists {pairs : List (Text × Int)} (hpaths : ∀ p ∈ pairs, IsYearPath p.1)
    (hyears : ∀ p ∈ pairs, 1000 ≤ p.2 ∧ p.2 ≤ 2999) :
    ∃ m, YearMap.LastYears pairs m ∧
      (∀ (s : Session) (written : Text) (ending : LineEnding) (lines : List Text),
        Lists pairs lines → (∀ line ∈ lines, ∀ c ∈ line, isBreak c = false) → s.logFile = none →
        s.tree.text? s.workingDirectory (Path.ofText written) = .ok (joinWith ending.text lines) →
        LoadsYears s written m) ∧
      (∀ (s : Session) (entries : List Text),
        Lists pairs entries → (∀ entry ∈ entries, ',' ∉ entry) →
        s.tree.isFile s.workingDirectory (Path.ofText (joinWith [','] entries)) = false →
        LoadsYears s (joinWith [','] entries) m) ∧
      (∀ t, Tabulates pairs t → YearMap.ofTable t = m) ∧
      Lists pairs (pairs.map plainEntry) ∧
      (∀ entry ∈ pairs.map plainEntry, ',' ∉ entry ∧ ∀ c ∈ entry, isBreak c = false) ∧
      Tabulates pairs (pairs.map fun p => (p.1, .integer p.2)) := by
  have hplain : ∀ entry ∈ pairs.map plainEntry, ',' ∉ entry ∧ ∀ c ∈ entry, isBreak c = false := by
    intro entry hentry
    obtain ⟨p, hp, rfl⟩ := List.mem_map.1 hentry
    exact (hpaths p hp).whole_plainEntry (hyears p hp).1 (hyears p hp).2
  refine ⟨_, YearMap.lastYears_enter pairs, fun s written ending lines hlists hbreak hl htext => ?_,
    fun s entries hlists hcomma hfile => ?_, fun t => YearMap.ofTable_of_tabulates hpaths,
    lists_plainEntry hyears, hplain, tabulates_integer hyears⟩
  · have hloads := loadsYears_of_file hl htext
    rwa [YearMap.ofEntries_splitAtBreaks ending hbreak, YearMap.ofEntries_of_lists hpaths hlists]
      at hloads
  · have hloads := loadsYears_of_not_file hfile
    rwa [YearMap.ofEntries_splitOnChar hcomma, YearMap.ofEntries_of_lists hpaths hlists] at hloads

/-- Two paths, one of them with two years. -/
def datedPairs : List (Text × Int) := [("a.py", 2017), ("b/c.js", 2019), ("a.py", 2020)]

/-- A session with a file of year entries. -/
def datedSession : Session where
  tree := FileTree.empty.putFile [] "years.txt"
    (Utf8.encode "./a.py : 2017\r\nb/c.js\r\nb/c.js:2019\r\n a.py:2020\r\n")
  currentYear := 2024
  timeStamp := []

/-- The lines of the file: an entry with `./` and blanks, a path without a year, two more entries,
and nothing behind the last line end. -/
def datedLines : List Text := ["./a.py : 2017", "b/c.js", "b/c.js:2019", " a.py:2020", ""]

/-- The later year of `a.py` is loaded from the file, from between commas and from a table. -/
theorem yearMap_of_lists_later : ∃ m : YearMap,
    m.get? "a.py" = some 2020 ∧ m.get? "b/c.js" = some 2019 ∧
    LoadsYears datedSession "years.txt" m ∧
    LoadsYears datedSession "a.py:2017,b/c.js:2019,a.py:2020" m ∧
    YearMap.ofTable [("./a.py", .text " 2017"), ("x", .truth true), ("b/c.js", .integer 2019),
      ("a.py", .integer 2020)] = m := by
  have hpaths : ∀ p ∈ datedPairs, IsYearPath p.1 := by
    intro p hp
    have hpath : p.1 = ['a', '.', 'p', 'y'] ∨ p.1 = ['b', '/', 'c', '.', 'j', 's'] := by
      revert p
      decide
    rcases hpath with h | h <;> rw [h] <;>
      exact ⟨by decide, by simp, by decide, by decide, by decide, by simp [isBreak]⟩
  have hyears : ∀ p ∈ datedPairs, 1000 ≤ p.2 ∧ p.2 ≤ 2999 := by decide
  obtain ⟨m, hm, hfile, hinline, htable, hplain, hwhole, -⟩ := yearMap_of_lists hpaths hyears
  have hlines : Lists datedPairs datedLines :=
    .entry ⟨1, [], [' '], rfl, rfl, rfl⟩
      ⟨[' '], ofInt 2017, [], rfl, rfl, yearNumeral_ofInt (by decide) (by decide), by decide⟩ <|
    .junk (.parts (by decide)) <|
    .entry (writesPath_self _) (writesYear_ofInt (by decide) (by decide)) <|
    .entry ⟨0, [' '], [], rfl, rfl, rfl⟩ (writesYear_ofInt (by decide) (by decide)) <|
    .junk (.blank rfl) .nil
  have hrows : Tabulates datedPairs [("./a.py", .text " 2017"), ("x", .truth true),
      ("b/c.js", .integer 2019), ("a.py", .integer 2020)] :=
    .entry ⟨1, [], [], rfl, rfl, rfl⟩ (.text ⟨[' '], ofInt 2017, [], rfl, rfl,
      yearNumeral_ofInt (by decide) (by decide), by decide⟩) <|
    .junk (fun _ h => by cases h) <|
    .entry (writesPath_self _) (.integer (by decide) (by decide)) <|
    .entry (writesPath_self _) (.integer (by decide) (by decide)) .nil
  refine ⟨m, ?_, ?_, ?_, ?_, htable _ hrows⟩
  · rw [hm.year]
    rfl
  · rw [hm.year]
    rfl
  · exact hfile datedSession "years.txt" .crlf datedLines hlines (by simp [datedLines, isBreak]) rfl
      (eq_ok_of_toOption (by decide +kernel))
  · have hjoin : joinWith [','] (datedPairs.map plainEntry) =
        ("a.py:2017,b/c.js:2019,a.py:2020" : Text) := by decide +kernel
    have hloads := hinline datedSession _ hplain (fun entry h => (hwhole entry h).1)
      (by decide +kernel)
    rwa [hjoin] at hloads

end Run

end LicenseAudit
