import LicenseAudit.Proofs.License.Filled

/-!
# Phrases and years

`Phrase.Spelled p t` says that a text is a phrase written out: its words in any case, with blanks
between neighbours. A phrase occurs in a text exactly when some part of the text spells it
(`Phrase.occursIn_iff`). So what looks like a declaration looks like one within a longer text too
(`isLicenseLike_of_infix`), and no phrase reaches over a character that none is written with
(`isLicenseLike_append_cons`).

The braces of the macro are such characters. A license therefore looks like a declaration only when
it does so between its macros, where no years are filled in, and then every text that is the
license but for its years looks like one (`isLicenseLike_of_fitsTemplate`).
-/

namespace LicenseAudit

open Text

/-! ## Phrases written out -/

/-- The text is this word, whatever the case of its letters. -/
def SpellsWord (word t : Text) : Prop := List.Forall₂ (fun a c => isSameLetter a c = true) word t

theorem SpellsWord.exists_of_mem {word t : Text} (h : SpellsWord word t) {c : Char} (hc : c ∈ t) :
    ∃ a ∈ word, isSameLetter a c = true := by
  induction h with
  | nil => cases hc
  | cons ha _ ih =>
    rcases List.mem_cons.1 hc with rfl | hc
    · exact ⟨_, List.mem_cons_self .., ha⟩
    · obtain ⟨a, hmem, h⟩ := ih hc
      exact ⟨a, List.mem_cons_of_mem _ hmem, h⟩

/-- The text is the words of the phrase, with blanks between neighbours. -/
inductive Phrase.Spelled : Phrase → Text → Prop
  | nil : Spelled [] []
  | last {word t : Text} (hword : SpellsWord word t) : Spelled [word] t
  | more {word t gap s next : Text} {rest : Phrase} (hword : SpellsWord word t) (hgap : gap ≠ [])
      (hblank : gap.all isBlank = true) (hs : ∃ c r, s = c :: r ∧ isBlank c = false)
      (hrest : Spelled (next :: rest) s) : Spelled (word :: next :: rest) (t ++ gap ++ s)

theorem afterAnyCase?_eq_some_iff {word s r : Text} :
    afterAnyCase? word s = some r ↔ ∃ t, s = t ++ r ∧ SpellsWord word t := by
  induction word generalizing s with
  | nil =>
    rw [afterAnyCase?, Option.some.injEq]
    constructor
    · rintro rfl
      exact ⟨[], rfl, .nil⟩
    · rintro ⟨t, rfl, ht⟩
      rw [List.forall₂_nil_left_iff.1 ht, List.nil_append]
  | cons a word ih =>
    cases s with
    | nil => simp [afterAnyCase?, SpellsWord]
    | cons c s =>
      rw [afterAnyCase?]
      split
      · next h =>
        rw [ih]
        constructor
        · rintro ⟨t, rfl, ht⟩
          exact ⟨c :: t, rfl, .cons h ht⟩
        · rintro ⟨t, he, ht⟩
          obtain ⟨d, t, -, hrest, rfl⟩ := List.forall₂_cons_left_iff.1 ht
          exact ⟨t, (List.cons.inj he).2, hrest⟩
      · next h =>
        refine iff_of_false (by simp) ?_
        rintro ⟨t, he, ht⟩
        obtain ⟨d, t, hd, -, rfl⟩ := List.forall₂_cons_left_iff.1 ht
        exact h ((List.cons.inj he).1 ▸ hd)

theorem afterAnyCase?_append {word t : Text} (h : SpellsWord word t) (r : Text) :
    afterAnyCase? word (t ++ r) = some r :=
  afterAnyCase?_eq_some_iff.2 ⟨t, rfl, h⟩

namespace Phrase

variable {p : Phrase} {s t : Text}

theorem Spelled.ne_nil (h : p.Spelled t) (hp : p ≠ []) (hwords : ∀ word ∈ p, word ≠ []) :
    t ≠ [] := by
  cases h with
  | nil => exact absurd rfl hp
  | last hword =>
    rintro rfl
    exact hwords _ (List.mem_singleton_self _) (List.forall₂_nil_right_iff.1 hword)
  | more _ hgap => simp [hgap]

theorem opens_cons_cons_iff {word next : Text} {rest : Phrase} :
    opens (word :: next :: rest) s = true ↔ ∃ (t : Text) (c : Char) (r : Text),
      s = t ++ c :: r ∧ SpellsWord word t ∧ isBlank c = true ∧
        opens (next :: rest) (trimLeft r) = true := by
  rw [opens]
  · constructor
    · intro h
      split at h
      · next c r ha =>
        obtain ⟨t, rfl, ht⟩ := afterAnyCase?_eq_some_iff.1 ha
        exact ⟨t, c, r, rfl, ht, Bool.and_eq_true_iff.1 h⟩
      · cases h
    · rintro ⟨t, c, r, rfl, ht, hc, hr⟩
      rw [afterAnyCase?_append ht]
      simp [hc, hr]
  · simp

/-- A phrase opens a text when it is written out at its beginning. -/
theorem opens_iff (hwords : ∀ word ∈ p, word ≠ []) :
    p.opens s = true ↔ ∃ t, t <+: s ∧ p.Spelled t := by
  induction p generalizing s with
  | nil => exact iff_of_true rfl ⟨[], List.nil_prefix, .nil⟩
  | cons word rest ih =>
    cases rest with
    | nil =>
      rw [opens, Option.isSome_iff_exists]
      constructor
      · rintro ⟨r, hr⟩
        obtain ⟨t, rfl, ht⟩ := afterAnyCase?_eq_some_iff.1 hr
        exact ⟨t, List.prefix_append .., .last ht⟩
      · rintro ⟨t, ⟨r, rfl⟩, ht⟩
        cases ht with
        | last ht => exact ⟨r, afterAnyCase?_append ht r⟩
    | cons next rest =>
      have hnext : ∀ w ∈ next :: rest, w ≠ [] := fun w hw => hwords w (List.mem_cons_of_mem _ hw)
      rw [opens_cons_cons_iff]
      constructor
      · rintro ⟨t, c, r, rfl, ht, hc, hr⟩
        obtain ⟨s, ⟨r', hs⟩, hspelled⟩ := (ih hnext).1 hr
        obtain ⟨a, ha, hblank⟩ := exists_eq_append_trimLeft r
        obtain ⟨d, s, rfl⟩ := List.exists_cons_of_ne_nil
          (hspelled.ne_nil (List.cons_ne_nil next rest) hnext)
        refine ⟨t ++ (c :: a) ++ (d :: s), ⟨r', ?_⟩, .more ht (List.cons_ne_nil c a)
          (by simpa [hc] using hblank) ⟨d, s, rfl, trimLeft_head_not_blank hs.symm⟩ hspelled⟩
        rw [ha, ← hs]
        simp
      · rintro ⟨t, ⟨r, rfl⟩, ht⟩
        cases ht with
        | @more _ t gap s _ _ hword hgap hblank hs hrest =>
          obtain ⟨c, gap, rfl⟩ := List.exists_cons_of_ne_nil hgap
          obtain ⟨d, s, rfl, hd⟩ := hs
          rw [List.all_cons, Bool.and_eq_true] at hblank
          refine ⟨t, c, gap ++ (d :: s ++ r), by simp, hword, hblank.1, (ih hnext).2 ?_⟩
          have htrim : trimLeft (gap ++ (d :: s ++ r)) = d :: s ++ r := by
            rw [trimLeft, List.dropWhile_append_of_pos (by simpa using hblank.2)]
            exact trimLeft_of_head rfl hd
          rw [htrim]
          exact ⟨d :: s, List.prefix_append .., hrest⟩

/-- **A phrase occurs in a text when some part of the text spells it.** -/
theorem occursIn_iff (hwords : ∀ word ∈ p, word ≠ []) :
    p.occursIn s = true ↔ ∃ t, t <:+: s ∧ p.Spelled t := by
  induction s with
  | nil => simp [occursIn, opens_iff hwords]
  | cons c s ih =>
    rw [occursIn, Bool.or_eq_true, opens_iff hwords, ih, ← exists_or]
    simp only [List.infix_cons_iff, or_and_right]

/-- A character that the phrase is not written with does not occur where it is written out. -/
theorem Spelled.not_mem (h : p.Spelled t) {x : Char} (hx : isBlank x = false)
    (hp : ∀ word ∈ p, ∀ a ∈ word, isSameLetter a x = false) : x ∉ t := by
  have hspells : ∀ word ∈ p, ∀ t, SpellsWord word t → x ∉ t := by
    intro word hw t ht hmem
    obtain ⟨a, ha, hsame⟩ := ht.exists_of_mem hmem
    rw [hp word hw a ha] at hsame
    cases hsame
  induction h with
  | nil => simp
  | last hword => exact hspells _ (List.mem_singleton_self _) _ hword
  | @more word t gap s next rest hword _ hblank _ _ ih =>
    have hgap : x ∉ gap := by
      intro hmem
      rw [List.all_eq_true.1 hblank x hmem] at hx
      cases hx
    have hrest : x ∉ s := ih (fun w hw => hp w (List.mem_cons_of_mem _ hw))
      (fun w hw => hspells w (List.mem_cons_of_mem _ hw))
    simp [hspells word (List.mem_cons_self ..) t hword, hgap, hrest]

end Phrase

/-! ## What looks like a declaration -/

theorem ne_nil_of_mem_licensePhrases : ∀ p ∈ licensePhrases, ∀ word ∈ p, word ≠ [] := by
  decide

theorem isLicenseLike_iff {s : Text} :
    isLicenseLike s = true ↔ ∃ p ∈ licensePhrases, ∃ t, t <:+: s ∧ p.Spelled t := by
  rw [isLicenseLike, List.any_eq_true]
  constructor
  · rintro ⟨p, hp, hs⟩
    exact ⟨p, hp, (Phrase.occursIn_iff (ne_nil_of_mem_licensePhrases p hp)).1 hs⟩
  · rintro ⟨p, hp, hs⟩
    exact ⟨p, hp, (Phrase.occursIn_iff (ne_nil_of_mem_licensePhrases p hp)).2 hs⟩

/-- What looks like a declaration looks like one within a longer text. -/
theorem isLicenseLike_of_infix {s t : Text} (h : s <:+: t) (hs : isLicenseLike s = true) :
    isLicenseLike t = true := by
  obtain ⟨p, hp, u, hu, hspelled⟩ := isLicenseLike_iff.1 hs
  exact isLicenseLike_iff.2 ⟨p, hp, u, hu.trans h, hspelled⟩

/-- A character that no phrase is written with. -/
def isWall (x : Char) : Bool :=
  !isBlank x && licensePhrases.all fun p => p.all fun word => word.all fun a => !isSameLetter a x

theorem not_mem_of_isWall {x : Char} (hx : isWall x = true) {p : Phrase} (hp : p ∈ licensePhrases)
    {t : Text} (h : p.Spelled t) : x ∉ t := by
  simp only [isWall, Bool.and_eq_true, Bool.not_eq_true', List.all_eq_true] at hx
  exact h.not_mem hx.1 (hx.2 p hp)

/-- A part of a text that does not hold a character lies on one side of it. -/
theorem infix_of_infix_append_cons {t a b : Text} {x : Char} (h : t <:+: a ++ x :: b)
    (hx : x ∉ t) : t <:+: a ∨ t <:+: b := by
  obtain ⟨p, q, h⟩ := h
  rcases List.append_eq_append_iff.1 h with ⟨m, ha, -⟩ | ⟨m, hm, hb⟩
  · exact .inl ⟨p, m, ha.symm⟩
  · cases m with
    | nil => exact .inl ⟨p, [], by simpa using hm⟩
    | cons y m =>
      obtain ⟨rfl, rfl⟩ := List.cons.inj hb
      rcases List.append_eq_append_iff.1 hm with ⟨k, -, ht⟩ | ⟨k, -, hk⟩
      · exact absurd (by simp [ht]) hx
      · cases k with
        | nil => exact absurd (by simp [← show x :: m = t from hk]) hx
        | cons z k =>
          obtain ⟨-, rfl⟩ := List.cons.inj hk
          exact .inr ⟨k, q, rfl⟩

/-- **No phrase reaches over a wall.** -/
theorem isLicenseLike_append_cons {a b : Text} {x : Char} (hx : isWall x = true) :
    isLicenseLike (a ++ x :: b) = true ↔ isLicenseLike a = true ∨ isLicenseLike b = true := by
  constructor
  · intro h
    obtain ⟨p, hp, t, ht, hspelled⟩ := isLicenseLike_iff.1 h
    rcases infix_of_infix_append_cons ht (not_mem_of_isWall hx hp hspelled) with ht | ht
    · exact .inl (isLicenseLike_iff.2 ⟨p, hp, t, ht, hspelled⟩)
    · exact .inr (isLicenseLike_iff.2 ⟨p, hp, t, ht, hspelled⟩)
  · rintro (h | h)
    · exact isLicenseLike_of_infix ⟨[], x :: b, rfl⟩ h
    · exact isLicenseLike_of_infix ⟨a ++ [x], [], by simp⟩ h

/-! ## Filled-in templates -/

/-- A text looks like a declaration only when it does so between its macros. -/
theorem exists_isLicenseLike_of_joinWith {parts : List Text}
    (h : isLicenseLike (joinWith yearsMacro parts) = true) :
    ∃ part ∈ parts, isLicenseLike part = true := by
  induction parts with
  | nil => exact absurd h (by decide)
  | cons part rest ih =>
    cases rest with
    | nil => exact ⟨part, List.mem_singleton_self _, h⟩
    | cons next rest =>
      have hbraces : joinWith yearsMacro (part :: next :: rest) =
          part ++ '{' :: ("years" ++ '}' :: joinWith yearsMacro (next :: rest)) := by
        rw [joinWith, List.append_assoc]
        rfl
      rw [hbraces, isLicenseLike_append_cons (by decide),
        isLicenseLike_append_cons (by decide)] at h
      rcases h with h | h | h
      · exact ⟨part, List.mem_cons_self .., h⟩
      · exact absurd h (by decide)
      · obtain ⟨q, hq, hlike⟩ := ih h
        exact ⟨q, List.mem_cons_of_mem _ hq, hlike⟩

theorem Filled.infix_of_mem {parts : List Text} {s : Text} {years : List Int}
    (h : Filled parts s years) : ∀ part ∈ parts, part <:+: s := by
  induction h with
  | nil => simp
  | last part => simp
  | @gap part next gap s rest read later _ _ ih =>
    intro q hq
    rcases List.mem_cons.1 hq with rfl | hq
    · exact ⟨[], gap ++ s, by simp⟩
    · exact (ih q hq).trans (List.suffix_append _ _).isInfix

/-- **What is a declaration but for its years is a declaration.** -/
theorem isLicenseLike_of_fitsTemplate {license s : Text} {years : List Int}
    (h : FitsTemplate license s years)
    (hl : isLicenseLike (normalizeLicense license) = true) : isLicenseLike s = true := by
  rw [← joinWith_splitOn yearsMacro (normalizeLicense license)] at hl
  obtain ⟨part, hpart, hlike⟩ := exists_isLicenseLike_of_joinWith hl
  exact isLicenseLike_of_infix (h.infix_of_mem part hpart) hlike

end LicenseAudit
