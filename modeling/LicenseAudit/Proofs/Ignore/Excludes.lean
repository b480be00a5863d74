import LicenseAudit.Proofs.Ignore.LastPattern
import LicenseAudit.Proofs.Text.Lines

/-!
# Excludes

Values list what each of them lists, one after the other, so it makes no difference whether they
are packed into one value (`splitExcludes_joinWith`).

A pattern that no exclamation mark turns round can only ignore. At the end of a list such patterns
add what one of them fits to what the list ignores, whatever the list takes back, since nothing
follows that could turn them round (`ignores_append`).
-/

namespace LicenseAudit

open Text

variable {texts texts' : List Text} {patterns front back : List IgnorePattern}

/-! ## Values -/

theorem splitExcludes_append (values values' : List Text) :
    splitExcludes (values ++ values') = splitExcludes values ++ splitExcludes values' := by
  simp [splitExcludes]

/-- Packed into one, values list what they list apart. -/
theorem splitExcludes_joinWith (values : List Text) :
    splitExcludes [joinWith [';'] values] = splitExcludes values := by
  by_cases hne : values = []
  · subst hne
    simp [splitExcludes, joinWith, splitOnChar, trim_nil]
  · simp only [splitExcludes, List.flatMap_singleton, splitOnChar_joinWith_eq_flatMap _ hne,
      List.map_flatMap]

/-! ## Patterns -/

theorem readPatterns_append (hfront : readPatterns texts = .ok front)
    (hback : readPatterns texts' = .ok back) :
    readPatterns (texts ++ texts') = .ok (front ++ back) := by
  induction texts generalizing front with
  | nil =>
    cases hfront
    exact hback
  | cons e texts ih =>
    obtain ⟨first, rest, hfirst, hrest, rfl⟩ := readPatterns_cons_eq_ok hfront
    simp [readPatterns, hfirst, ih hrest, bind, Except.bind, pure, Except.pure]

/-- Where no text starts with an exclamation mark, no pattern keeps what it fits. -/
theorem keeps_eq_false_of_readPatterns (hread : readPatterns texts = .ok patterns)
    (h : ∀ e ∈ texts, startsWith ['!'] e = false) : ∀ q ∈ patterns, q.keeps = false := by
  induction texts generalizing patterns with
  | nil =>
    cases hread
    simp
  | cons e texts ih =>
    obtain ⟨first, rest, hfirst, hrest, rfl⟩ := readPatterns_cons_eq_ok hread
    intro q hq
    rcases List.mem_append.1 hq with hq | hq
    · rw [Option.mem_toList] at hq
      rw [Option.mem_def.1 hq] at hfirst
      by_contra hkeeps
      have hmark := startsWith_of_keeps hfirst (by simpa using hkeeps)
      simp [h e (List.mem_cons_self ..)] at hmark
    · exact ih hrest (fun e' he' => h e' (List.mem_cons_of_mem _ he')) q hq

/-- Patterns that keep nothing add what one of them fits. -/
theorem ignores_append (h : ∀ q ∈ back, q.keeps = false) (path : Text) :
    ignores (front ++ back) path = (back.any (·.fits path) || ignores front path) := by
  rcases hlast : back.reverse.find? (·.fits path) with _ | q
  · have hnone : back.any (·.fits path) = false := by simpa using hlast
    simp [ignores, List.find?_append, hlast, hnone]
  · have hq : q ∈ back := List.mem_reverse.1 (List.mem_of_find?_eq_some hlast)
    have hfits : q.fits path = true := by simpa using List.find?_some hlast
    have hany : back.any (·.fits path) = true := List.any_eq_true.2 ⟨q, hq, hfits⟩
    simp [ignores, List.find?_append, hlast, hany, h q hq]

end LicenseAudit
