import LicenseAudit.Grammar.Builtin
import Mathlib.Data.List.Find
import Mathlib.Data.List.Pairwise

/-!
# Which grammar a name selects

A name ends with a dot and a text without one just when this text stands behind its last dot: it is
the extension of the name (`endsWith_dot_iff`), and a name has no more than one. So where the keys
of a table hold no dot and no two of its grammars share one (`Unambiguous`), a name selects one of
them at most (`Unambiguous.eq_of_selects`), by its extension or, where it has none, as a whole. Then
it does not matter in which order the table is searched.

The built-in table is of this kind (`unambiguous_builtinGrammars`).
-/

namespace LicenseAudit

open Text

/-! ## Extensions -/

/-- What stands behind the last dot of a name. -/
def extension? : Text → Option Text
  | [] => none
  | c :: s => (extension? s).or (if c = '.' then some s else none)

theorem extension?_eq_none_iff {name : Text} : extension? name = none ↔ '.' ∉ name := by
  induction name with
  | nil => simp [extension?]
  | cons c s ih =>
    rw [extension?, Option.or_eq_none_iff, ih, List.mem_cons, not_or, and_comm]
    refine and_congr_left fun _ => ?_
    split <;> simp_all [eq_comm]

theorem extension?_eq_some_iff {name ext : Text} :
    extension? name = some ext ↔ '.' ∉ ext ∧ ∃ front, name = front ++ '.' :: ext := by
  induction name with
  | nil => simp [extension?]
  | cons c s ih =>
    rw [extension?, Option.or_eq_some_iff, ih, extension?_eq_none_iff]
    constructor
    · rintro (⟨hext, front, rfl⟩ | ⟨hs, h⟩)
      · exact ⟨hext, c :: front, rfl⟩
      · split at h
        · next hc =>
          cases h
          exact ⟨hs, [], by rw [hc]; rfl⟩
        · cases h
    · rintro ⟨hext, _ | ⟨d, front⟩, h⟩
      · obtain ⟨rfl, rfl⟩ := List.cons.inj h
        exact .inr ⟨hext, if_pos rfl⟩
      · exact .inl ⟨hext, front, (List.cons.inj h).2⟩

/-- A name ends with a dot and a text without one just when this text is its extension. -/
theorem endsWith_dot_iff {name ext : Text} (h : '.' ∉ ext) :
    endsWith ('.' :: ext) name = true ↔ extension? name = some ext := by
  rw [endsWith_iff, extension?_eq_some_iff]
  simp [h]

/-! ## Tables -/

/-- Two grammars share no extension and no whole name. -/
def Grammar.Apart (g g' : Grammar) : Prop :=
  (∀ ext ∈ g.extensions, ext ∉ g'.extensions) ∧ ∀ name ∈ g.filenames, name ∉ g'.filenames

instance : DecidableRel Grammar.Apart := fun g g' =>
  inferInstanceAs (Decidable
    ((∀ ext ∈ g.extensions, ext ∉ g'.extensions) ∧ ∀ name ∈ g.filenames, name ∉ g'.filenames))

instance : Std.Symm Grammar.Apart where
  symm _ _ h := ⟨fun ext he he' => h.1 ext he' he, fun name hn hn' => h.2 name hn' hn⟩

/-- The keys of a table hold no dot, and no two of its grammars share one. -/
structure Unambiguous (table : List Grammar) : Prop where
  dotless : ∀ g ∈ table, ∀ key ∈ g.extensions ++ g.filenames, '.' ∉ key
  apart : table.Pairwise Grammar.Apart

namespace Unambiguous

variable {table : List Grammar} {g g' : Grammar} {name : Text}

/-- A grammar is selected by the extension of a name or by the name as a whole. -/
theorem selects_iff (h : Unambiguous table) (hg : g ∈ table) : g.selects name = true ↔
    (∃ ext ∈ g.extensions, extension? name = some ext) ∨ name ∈ g.filenames := by
  have hext : ∀ ext ∈ g.extensions,
      (endsWith ('.' :: ext) name = true ↔ extension? name = some ext) := fun ext he =>
    endsWith_dot_iff (h.dotless g hg ext (List.mem_append_left _ he))
  rw [Grammar.selects, Bool.or_eq_true, List.any_eq_true, List.contains_iff_mem]
  exact or_congr_left (exists_congr fun ext => and_congr_right fun he => hext ext he)

/-- A whole name has no extension. -/
theorem extension?_of_mem_filenames (h : Unambiguous table) (hg : g ∈ table)
    (hn : name ∈ g.filenames) : extension? name = none :=
  extension?_eq_none_iff.2 (h.dotless g hg name (List.mem_append_right _ hn))

/-- A name selects one grammar of the table at most. -/
theorem eq_of_selects (h : Unambiguous table) (hg : g ∈ table) (hg' : g' ∈ table)
    (hs : g.selects name = true) (hs' : g'.selects name = true) : g = g' := by
  by_contra hne
  have hapart := h.apart.forall hg hg' hne
  rcases (h.selects_iff hg).1 hs with ⟨ext, he, hext⟩ | hn <;>
    rcases (h.selects_iff hg').1 hs' with ⟨ext', he', hext'⟩ | hn'
  · rw [hext, Option.some.injEq] at hext'
    exact hapart.1 ext he (hext' ▸ he')
  · simp [h.extension?_of_mem_filenames hg' hn'] at hext
  · simp [h.extension?_of_mem_filenames hg hn] at hext'
  · exact hapart.2 name hn hn'

end Unambiguous

theorem unambiguous_builtinGrammars : Unambiguous builtinGrammars where
  dotless := by decide +kernel
  apart := by decide +kernel

/-- **The built-in table is unambiguous.** No path matches two of its grammars, so that a path is
looked up to the same grammar in whatever order they are tried; and this depends on the last
component of the path in lower case only. -/
theorem lookupGrammar?_builtinGrammars (path : Text) :
    (∀ g ∈ builtinGrammars, ∀ g' ∈ builtinGrammars,
      g.matchesName path = true → g'.matchesName path = true → g = g') ∧
    (∀ table, table.Perm builtinGrammars →
      lookupGrammar? table path = lookupGrammar? builtinGrammars path) ∧
    ∀ path', (Path.ofText path').name.lower = (Path.ofText path).name.lower →
      lookupGrammar? builtinGrammars path' = lookupGrammar? builtinGrammars path := by
  have hone : ∀ g ∈ builtinGrammars, ∀ g' ∈ builtinGrammars,
      g.matchesName path = true → g'.matchesName path = true → g = g' := fun g hg g' hg' hs hs' =>
    unambiguous_builtinGrammars.eq_of_selects hg hg' hs hs'
  refine ⟨hone, fun table hperm => ?_, fun path' hname => ?_⟩
  · refine (List.find?_eq_find?_of_perm hperm.symm ?_).symm
    rintro g ⟨hg, hs⟩ g' ⟨hg', hs'⟩
    exact hone g hg g' hg' hs hs'
  · rw [lookupGrammar?, lookupGrammar?]
    refine List.find?_congr fun g _ => ?_
    rw [Grammar.matchesName, Grammar.matchesName, hname]

theorem lookupGrammar?_builtinGrammars_make :
    lookupGrammar? builtinGrammars.reverse "lib/a.d/MakeFile" =
      some (hashGrammar "make" [] ["makefile", "dockerfile"]) ∧
    lookupGrammar? builtinGrammars "MAKEFILE" =
      some (hashGrammar "make" [] ["makefile", "dockerfile"]) := by
  have hname : (Path.ofText "MAKEFILE").name.lower =
      (Path.ofText "lib/a.d/MakeFile").name.lower := by
    decide +kernel
  obtain ⟨-, hperm, hsame⟩ := lookupGrammar?_builtinGrammars "lib/a.d/MakeFile"
  rw [hperm _ (List.reverse_perm _), hsame _ hname]
  decide +kernel

end LicenseAudit
