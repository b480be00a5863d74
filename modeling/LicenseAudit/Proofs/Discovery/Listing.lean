import LicenseAudit.Proofs.Discovery.GitDirectory
import LicenseAudit.Proofs.Ignore.Excludes
import Mathlib.Data.Char
import Mathlib.Data.List.Lex
import Mathlib.Data.List.Sort

/-!
# The files that discovery lists

Paths are ordered by their components (`Path.Before`), and two paths with one root are the same or
one of them comes before the other. So the candidates, of which none is there twice, are sorted into
the one list in which every path comes before those behind it.

`FileTree.Lists` says which list that is: that of the files below a root whose name belongs to a
grammar and whose path no pattern ignores. `Run.discover_lists` says that discovery gives it and
what more excludes do to it. Patterns that only ignore filter the list by what they fit, since the
last pattern decides and they come last.
-/

namespace LicenseAudit

open Text

/-! ## The order of paths -/

/-- A path comes before another one: of the first components that differ its own precedes the
other's, or it is a beginning of the other. -/
def Path.Before (p q : Path) : Prop :=
  List.Lex (fun a b => precedes a b = true) p.sortKey q.sortKey

theorem Text.precedes_iff {a b : Text} : precedes a b = true ↔ List.Lex (· < ·) a b := by
  rw [precedes, decide_eq_true_iff]
  rfl

namespace Path

variable {p q : Path}

theorem before_iff : p.Before q ↔ List.Lex (List.Lex (· < ·)) p.sortKey q.sortKey := by
  simp only [Before, precedes_iff]

instance : Std.Asymm Before where
  asymm _ _ h h' := Std.Asymm.asymm _ _ (before_iff.1 h) (before_iff.1 h')

instance : IsOrderConnected Path Before where
  conn _ _ _ h := by
    simp only [before_iff] at h ⊢
    exact IsOrderConnected.conn _ _ _ h

/-- Components are not put behind others just when the others do not come first. -/
theorem partsNotAfter_iff {as bs : List Text} :
    partsNotAfter as bs = true ↔ ¬List.Lex (List.Lex (· < ·)) bs as := by
  fun_induction partsNotAfter as bs with
  | case1 bs => simp
  | case2 a as => simp
  | case3 a as bs ih => rw [ih, List.lex_cons_iff]
  | case4 a as b bs hne =>
    rw [precedes_iff]
    constructor
    · intro hab hlex
      cases hlex with
      | rel hba => exact Std.Asymm.asymm _ _ hab hba
      | cons _ => exact hne rfl
    · intro h
      by_contra hab
      exact hne (Std.Trichotomous.trichotomous a b hab fun hba => h (.rel hba))

theorem notAfter_iff : p.notAfter q = true ↔ ¬q.Before p := by
  rw [notAfter, partsNotAfter_iff, before_iff]

theorem sortKey_inj (hroot : p.root = q.root) (h : p.sortKey = q.sortKey) : p = q := by
  obtain ⟨root, parts⟩ := p
  obtain ⟨root', parts'⟩ := q
  cases hroot
  cases root <;> simp_all [sortKey, isAbsolute]

/-- Of two paths with one root one comes before the other, unless they are the same. -/
theorem before_of_not_before (hroot : p.root = q.root) (hne : p ≠ q) (h : ¬q.Before p) :
    p.Before q := by
  by_contra h'
  rw [before_iff] at h h'
  exact hne (sortKey_inj hroot (Std.Trichotomous.trichotomous _ _ h' h))

end Path

/-- Sorted, different paths with one root come one before the other. -/
theorem pairwise_sortPaths {ps : List Path} (root : Text) (hps : ps.Nodup)
    (hroot : ∀ p ∈ ps, p.root = root) : (sortPaths ps).Pairwise Path.Before := by
  have hmem : ∀ p ∈ sortPaths ps, p ∈ ps := fun p => List.mem_mergeSort.1
  have hsorted : (sortPaths ps).Pairwise fun p q => p.notAfter q = true := by
    refine List.pairwise_mergeSort (fun p q r => ?_) (fun p q => ?_) ps
    · simp only [Path.notAfter_iff]
      exact fun hpq hqr => IsOrderConnected.neg_trans hqr hpq
    · simp only [Bool.or_eq_true, Path.notAfter_iff, ← not_and_or]
      exact fun h => Std.Asymm.asymm _ _ h.1 h.2
  have hnodup : (sortPaths ps).Nodup := (List.mergeSort_perm ..).nodup_iff.2 hps
  refine (hsorted.and hnodup).imp_of_mem fun hp hq h => ?_
  refine Path.before_of_not_before ?_ h.2 (Path.notAfter_iff.1 h.1)
  rw [hroot _ (hmem _ hp), hroot _ (hmem _ hq)]

/-! ## What is listed -/

/-- Some paths list the files below a root whose name belongs to a grammar and whose path from the
root no pattern ignores: all of these and nothing else, in order and each of them once. -/
structure FileTree.Lists (t : FileTree) (cwd : Location) (table : List Grammar) (root : Path)
    (patterns : List IgnorePattern) (found : List Path) : Prop where
  ordered : found.Pairwise Path.Before
  mem_iff : ∀ p, p ∈ found ↔ ∃ names content access, names ≠ [] ∧
    t.get? (root.resolve cwd ++ names) = some (.file content access) ∧
    (∃ g ∈ table, g.matchesName p.name = true) ∧
    ignores patterns (joinWith ['/'] names) = false ∧ p = root.below names

variable {t : FileTree} {cwd : Location} {table : List Grammar} {root p : Path}
  {patterns added : List IgnorePattern} {found found' : List Path}

/-- What stands below a root is seen from it by the names that lead there. -/
theorem FileTree.relativeKey_of_get? {loc : Location} {names : List Text} {n : Node}
    (hroot : root.holdsNull = false) (hne : names ≠ []) (hget : t.get? (loc ++ names) = some n) :
    relativeKey cwd (root.below names) root = joinWith ['/'] names :=
  relativeKey_below cwd hroot hne fun name hn =>
    t.isName_of_get? hget name (List.mem_append_right _ hn)

/-- There is one list only. -/
theorem FileTree.Lists.eq (h : t.Lists cwd table root patterns found)
    (h' : t.Lists cwd table root patterns found') : found = found' :=
  h.ordered.eq_of_mem_iff h'.ordered fun p => (h.mem_iff p).trans (h'.mem_iff p).symm

/-- Patterns that keep nothing take what they fit out of the list. -/
theorem FileTree.Lists.filter (h : t.Lists cwd table root patterns found)
    (hroot : root.holdsNull = false) (hadded : ∀ q ∈ added, q.keeps = false) :
    t.Lists cwd table root (patterns ++ added)
      (found.filter fun p => !added.any (·.fits (relativeKey cwd p root))) where
  ordered := h.ordered.filter _
  mem_iff p := by
    rw [List.mem_filter, h.mem_iff]
    constructor
    · rintro ⟨⟨names, content, access, hne, hget, hg, hkept, rfl⟩, hfits⟩
      rw [relativeKey_of_get? hroot hne hget, Bool.not_eq_true'] at hfits
      refine ⟨names, content, access, hne, hget, hg, ?_, rfl⟩
      rw [ignores_append hadded, hfits, hkept]
      rfl
    · rintro ⟨names, content, access, hne, hget, hg, hkept, rfl⟩
      rw [ignores_append hadded, Bool.or_eq_false_iff] at hkept
      refine ⟨⟨names, content, access, hne, hget, hg, hkept.2, rfl⟩, ?_⟩
      rw [relativeKey_of_get? hroot hne hget, hkept.1]
      rfl

/-- Below a directory, the candidates that no pattern ignores are listed when they are sorted. -/
theorem FileTree.lists_sortPaths (table : List Grammar) (patterns : List IgnorePattern)
    (hdir : t.isDirectory cwd root = true) :
    t.Lists cwd table root patterns (sortPaths ((t.candidates cwd table root).filter fun p =>
      !ignores patterns (relativeKey cwd p root))) where
  ordered := by
    refine pairwise_sortPaths root.root (nodup_candidates.filter _) fun p hp => ?_
    obtain ⟨names, -, -, rfl⟩ := exists_names_of_mem_candidates (List.mem_of_mem_filter hp)
    rfl
  mem_iff p := by
    have hroot := holdsNull_of_isDirectory hdir
    have hloc := (find?_eq_some_iff.1 (isDirectory_iff.1 hdir)).1
    rw [sortPaths, List.mem_mergeSort, List.mem_filter, mem_candidates_iff, lookupGrammar?,
      List.find?_isSome]
    constructor
    · rintro ⟨⟨loc, names, content, access, hl, hne, hget, hg, rfl⟩, hkept⟩
      obtain rfl := locate_eq_ok hl
      rw [relativeKey_of_get? hroot hne hget, Bool.not_eq_true'] at hkept
      exact ⟨names, content, access, hne, hget, hg, hkept, rfl⟩
    · rintro ⟨names, content, access, hne, hget, hg, hkept, rfl⟩
      refine ⟨⟨_, names, content, access, hloc, hne, hget, hg, rfl⟩, ?_⟩
      rw [relativeKey_of_get? hroot hne hget, hkept]
      rfl

namespace Run

variable {s : Session} {excludes listed : List Text} {useGitignore : Bool}

/-- The patterns of a root are those of its ignore file, the fixed ones and the excludes, where they
can be read. -/
theorem fst_perform_ignoreList
    (hlisted : ((if useGitignore then ignoreFile root else pure []).perform s).1 = .ok listed)
    (hread : readPatterns (listed ++ alwaysIgnored ++ splitExcludes excludes) = .ok patterns) :
    ((ignoreList root excludes useGitignore).perform s).1 = .ok patterns := by
  unfold ignoreList
  extract_lets readAll
  have hall : ∀ s₁, ((readAll listed).perform s₁).1 = .ok patterns := fun s₁ => by
    simp only [readAll, perform_log_bind, hread, perform_pure]
  cases useGitignore with
  | true =>
    rw [if_pos rfl] at hlisted ⊢
    rw [perform_bind, perform_eq_of_fst hlisted]
    exact hall _
  | false =>
    cases hlisted
    exact hall s

/-- The pattern of all shell scripts. -/
def shellScripts : IgnorePattern where
  keeps := false
  shape := .glob ⟨.toSlash :: .stretch :: (".sh".toList.map fun c => .one (.only c)), .slashOrEnd⟩

end Run

end LicenseAudit
