import LicenseAudit.Discovery
import Mathlib.Data.List.Infix

/-!
# Which pattern decides

A glob is followed through a text by the ends that may be left, each of them kept once. That is as
good as taking the pieces off one after the other (`Leaves`): `Glob.fits_iff`.

In a list of patterns the last one that fits decides, so the patterns behind a place matter first.
`LastFit` is the last of some written patterns that fits a path; where a pattern ignores a path that
is not ignored in the end, the last fit among the patterns behind it turned it round
(`exists_lastFit_of_not_ignores`).
-/

namespace LicenseAudit

open Text

/-! ## Taking pieces off -/

/-- Pieces can be taken off a text so that the other text is left. -/
inductive Leaves : List Piece → Text → Text → Prop
  | nil (s : Text) : Leaves [] s s
  | cons {piece : Piece} {pieces : List Piece} {s m r : Text} (hm : m ∈ piece.rests s)
    (hr : Leaves pieces m r) : Leaves (piece :: pieces) s r

section Ends

variable {p : Char → Bool} {s r whole : Text} {piece : Piece} {pieces : List Piece}

theorem suffix_of_mem_endsWhile (h : r ∈ endsWhile p s) : r <:+ s := by
  induction s with
  | nil => simp_all [endsWhile]
  | cons c s ih =>
    rcases List.mem_cons.1 h with rfl | h
    · exact List.suffix_rfl
    · split at h
      · exact (ih h).trans (List.suffix_cons c s)
      · simp at h

theorem suffix_of_mem_endsAfterSome (h : r ∈ endsAfterSome p s) : r <:+ s := by
  cases s with
  | nil => simp [endsAfterSome] at h
  | cons c s =>
    rw [endsAfterSome] at h
    split at h
    · exact (suffix_of_mem_endsWhile h).trans (List.suffix_cons c s)
    · simp at h

theorem eq_cons_of_afterSlash? (h : afterSlash? s = some r) : s = '/' :: r := by
  unfold afterSlash? at h
  split at h
  · cases h; rfl
  · simp at h

/-- What a piece leaves is an end of the text. -/
theorem suffix_of_mem_rests (h : r ∈ piece.rests s) : r <:+ s := by
  unfold Piece.rests at h
  split at h
  · split at h
    · rw [List.mem_singleton.1 h]
      exact List.suffix_cons ..
    · simp at h
  · simp at h
  · exact suffix_of_mem_endsWhile h
  · exact suffix_of_mem_endsAfterSome h
  · rcases List.mem_cons.1 h with rfl | h
    · exact List.suffix_rfl
    · obtain ⟨t, ht, hr⟩ := List.mem_filterMap.1 h
      rw [eq_cons_of_afterSlash? hr] at ht
      exact (List.suffix_cons '/' r).trans (suffix_of_mem_endsAfterSome ht)
  · rcases List.mem_cons.1 h with rfl | h
    · exact List.suffix_rfl
    · split at h
      · next t ht =>
        rw [eq_cons_of_afterSlash? ht]
        exact (suffix_of_mem_endsAfterSome h).trans (List.suffix_cons '/' t)
      · simp at h

/-- Where related elements are equal, dropping related ones drops none. -/
theorem mem_eraseDupsBy {α : Type} {same : α → α → Bool} {l : List α} {a : α}
    (h : ∀ x ∈ l, ∀ y ∈ l, same x y = true → x = y) : a ∈ l.eraseDupsBy same ↔ a ∈ l := by
  induction hn : l.length using Nat.strongRecOn generalizing l with
  | ind n ih =>
    cases l with
    | nil => simp
    | cons x l =>
      subst hn
      rw [List.eraseDupsBy_cons, List.mem_cons, List.mem_cons,
        ih _ (Nat.lt_succ_of_le (List.length_filter_le ..))
          (fun y hy z hz => h y (List.mem_cons_of_mem _ (List.mem_of_mem_filter hy)) z
            (List.mem_cons_of_mem _ (List.mem_of_mem_filter hz))) rfl,
        List.mem_filter]
      constructor
      · rintro (rfl | ⟨ha, -⟩)
        · exact .inl rfl
        · exact .inr ha
      · rintro (rfl | ha)
        · exact .inl rfl
        · by_cases hsame : same a x = true
          · exact .inl (h a (List.mem_cons_of_mem _ ha) x (List.mem_cons_self ..) hsame)
          · exact .inr ⟨ha, by simpa using hsame⟩

/-- Of the ends of one text none is lost when each is kept once. -/
theorem mem_distinctEnds {ends : List Text} (h : ∀ t ∈ ends, t <:+ whole) :
    r ∈ distinctEnds ends ↔ r ∈ ends := by
  have hsame : ∀ x ∈ ends.map fun s => (s.length, s), ∀ y ∈ ends.map fun s => (s.length, s),
      (x.1 == y.1) = true → x = y := by
    intro x hx y hy hxy
    obtain ⟨s, hs, rfl⟩ := List.mem_map.1 hx
    obtain ⟨t, ht, rfl⟩ := List.mem_map.1 hy
    have hlen : s.length = t.length := by simpa using hxy
    rw [(List.suffix_of_suffix_length_le (h s hs) (h t ht) hlen.le).eq_of_length hlen]
  simp only [distinctEnds, List.mem_map, mem_eraseDupsBy hsame]
  simp

/-- Following the ends that are left is as good as taking the pieces off. -/
theorem mem_restsOf_iff {starts : List Text} (h : ∀ t ∈ starts, t <:+ whole) :
    r ∈ restsOf pieces starts ↔ ∃ s ∈ starts, Leaves pieces s r := by
  induction pieces generalizing starts with
  | nil =>
    constructor
    · exact fun hr => ⟨r, hr, .nil r⟩
    · rintro ⟨s, hs, ⟨⟩⟩
      exact hs
  | cons piece pieces ih =>
    have hends : ∀ t ∈ starts.flatMap piece.rests, t <:+ whole := by
      intro t ht
      obtain ⟨s, hs, ht⟩ := List.mem_flatMap.1 ht
      exact (suffix_of_mem_rests ht).trans (h s hs)
    change r ∈ restsOf pieces (distinctEnds (starts.flatMap piece.rests)) ↔ _
    rw [ih fun t ht => hends t ((mem_distinctEnds hends).1 ht)]
    simp only [mem_distinctEnds hends, List.mem_flatMap]
    constructor
    · rintro ⟨m, ⟨s, hs, hm⟩, hr⟩
      exact ⟨s, hs, .cons hm hr⟩
    · rintro ⟨s, hs, hr⟩
      cases hr with
      | cons hm hr => exact ⟨_, ⟨s, hs, hm⟩, hr⟩

/-- A glob fits a text when its pieces can be taken off it so that its ending is left. -/
theorem Glob.fits_iff {g : Glob} :
    g.fits s = true ↔ ∃ r, Leaves g.pieces s r ∧ g.ending.fits r = true := by
  have hstart : ∀ t ∈ [s], t <:+ s := by simp
  simp [Glob.fits, List.any_eq_true, mem_restsOf_iff hstart]

end Ends

/-! ## The last pattern that fits -/

/-- Of some written patterns, `e` is the last one that fits a path; it reads as `q`. -/
structure LastFit (texts : List Text) (path e : Text) (q : IgnorePattern) : Prop where
  reads : IgnorePattern.ofText? e = .ok (some q)
  fits : q.fits path = true
  last : ∃ before after, texts = before ++ e :: after ∧
    ∀ e' ∈ after, ∀ q', IgnorePattern.ofText? e' = .ok (some q') → q'.fits path = false

section Lists

variable {texts texts' : List Text} {patterns : List IgnorePattern} {path e : Text}
  {q : IgnorePattern}

theorem readPatterns_cons_eq_ok (h : readPatterns (e :: texts) = .ok patterns) :
    ∃ first rest, IgnorePattern.ofText? e = .ok first ∧ readPatterns texts = .ok rest ∧
      patterns = first.toList ++ rest := by
  rw [readPatterns] at h
  rcases hfirst : IgnorePattern.ofText? e with f | first
  · simp [hfirst, bind, Except.bind] at h
  · rcases hrest : readPatterns texts with f | rest
    · simp [hfirst, hrest, bind, Except.bind] at h
    · simp only [hfirst, hrest, bind, Except.bind, pure, Except.pure, Except.ok.injEq] at h
      exact ⟨first, rest, rfl, rfl, h.symm⟩

theorem readPatterns_append_eq_ok (h : readPatterns (texts ++ texts') = .ok patterns) :
    ∃ front back, readPatterns texts = .ok front ∧ readPatterns texts' = .ok back ∧
      patterns = front ++ back := by
  induction texts generalizing patterns with
  | nil => exact ⟨[], patterns, rfl, h, rfl⟩
  | cons e texts ih =>
    obtain ⟨first, rest, hfirst, hrest, rfl⟩ := readPatterns_cons_eq_ok h
    obtain ⟨front, back, hfront, hback, rfl⟩ := ih hrest
    refine ⟨first.toList ++ front, back, ?_, hback, by simp⟩
    simp [readPatterns, hfirst, hfront, bind, Except.bind, pure, Except.pure]

theorem mem_of_readPatterns (hread : readPatterns texts = .ok patterns) (he : e ∈ texts)
    (hq : IgnorePattern.ofText? e = .ok (some q)) : q ∈ patterns := by
  induction texts generalizing patterns with
  | nil => simp at he
  | cons e' texts ih =>
    obtain ⟨first, rest, hfirst, hrest, rfl⟩ := readPatterns_cons_eq_ok hread
    rcases List.mem_cons.1 he with rfl | he
    · rw [hq, Except.ok.injEq] at hfirst
      simp [← hfirst]
    · exact List.mem_append_right _ (ih hrest he)

/-- The last pattern that fits was written somewhere, and nothing written behind it fits. -/
theorem lastFit_of_find? (hread : readPatterns texts = .ok patterns)
    (h : patterns.reverse.find? (·.fits path) = some q) : ∃ e, LastFit texts path e q := by
  induction texts generalizing patterns with
  | nil => cases hread; simp at h
  | cons e texts ih =>
    obtain ⟨first, rest, hfirst, hrest, rfl⟩ := readPatterns_cons_eq_ok hread
    rw [List.reverse_append, List.find?_append] at h
    rcases hlater : rest.reverse.find? (·.fits path) with _ | later
    · rw [hlater, Option.none_or] at h
      obtain ⟨rfl, hfits⟩ : first = some q ∧ q.fits path = true := by
        cases first with
        | none => simp at h
        | some q' =>
          rcases hq' : q'.fits path with _ | _
          · simp [hq'] at h
          · obtain rfl : q' = q := by simpa [hq'] using h
            exact ⟨rfl, hq'⟩
      refine ⟨e, hfirst, hfits, [], texts, rfl, fun e' he' q' hq' => ?_⟩
      have hmem := List.mem_reverse.2 (mem_of_readPatterns hrest he' hq')
      simpa using List.find?_eq_none.1 hlater q' hmem
    · rw [hlater, Option.some_or] at h
      cases h
      obtain ⟨e', hreads, hfits, before, after, rfl, hafter⟩ := ih hrest hlater
      exact ⟨e', hreads, hfits, e :: before, after, rfl, hafter⟩

/-- Where a pattern that fits would ignore a path and the path is not ignored in the end, the last
fit behind the pattern keeps it. -/
theorem exists_lastFit_of_not_ignores {always : Text} {p : IgnorePattern}
    (hp : IgnorePattern.ofText? always = .ok (some p)) (hkeeps : p.keeps = false)
    (hfits : p.fits path = true)
    (hread : readPatterns (texts ++ [always] ++ texts') = .ok patterns)
    (h : ignores patterns path = false) : ∃ e q, LastFit texts' path e q ∧ q.keeps = true := by
  obtain ⟨front, back, hfront, hback, rfl⟩ := readPatterns_append_eq_ok hread
  obtain ⟨listed, own, -, hown, rfl⟩ := readPatterns_append_eq_ok hfront
  obtain rfl : own = [p] := by
    simpa [readPatterns, hp, bind, Except.bind, pure, Except.pure, eq_comm] using hown
  rcases hlast : back.reverse.find? (·.fits path) with _ | q
  · simp [ignores, List.find?_append, hlast, hfits, hkeeps] at h
  · obtain ⟨e, he⟩ := lastFit_of_find? hback hlast
    refine ⟨e, q, he, ?_⟩
    simpa [ignores, List.find?_append, hlast] using h

/-- A pattern that keeps what it fits starts with an exclamation mark. -/
theorem startsWith_of_keeps (h : IgnorePattern.ofText? e = .ok (some q)) (hkeeps : q.keeps = true) :
    startsWith ['!'] e = true := by
  unfold IgnorePattern.ofText? at h
  extract_lets line at h
  have hline : line = trimRight e := rfl
  clear_value line
  split at h
  · simp at h
  · split at h
    next keeps body hbody =>
    obtain rfl : keeps = true := by
      dsimp only at h
      split at h
      · split at h
        · simp at h
        · cases h; exact hkeeps
      · simp at h
      · simp at h
      · simp at h
    split at hbody
    · next rest _ =>
      obtain ⟨blanks, he, -⟩ := exists_eq_trimRight_append e
      exact startsWith_iff.2 ⟨rest ++ blanks, by rw [he, ← hline]; rfl⟩
    · simp at hbody

end Lists

end LicenseAudit
