import LicenseAudit.Proofs.License.Recognition

/-!
# Year-faithful licenses

Two ways lead from a header back to the start year: the years after "Copyright", and the template.
They agree on a license that, filled in, names its first year after "Copyright" or none
(`YearFaithful`). The usual notice is such a license, whoever holds the copyright
(`yearFaithful_notice`).
-/

namespace LicenseAudit

open Text

/-- Filled in with any two years in order, the license names the first of them after "Copyright"
or none at all. -/
def YearFaithful (license : Text) : Prop :=
  ∀ first current : Int, 1000 ≤ first → first ≤ current → current ≤ 2999 →
    earliestCopyrightYear ((splitLines (expandYears license (some first) current)).map trim) = none ∨
      earliestCopyrightYear ((splitLines (expandYears license (some first) current)).map trim) =
        some first

/-! ## Years among words -/

section YearsAfter

variable {prev c : Char} {s rest : Text} {year : Int}

theorem yearsAfter_cons_of_ne (h : c ≠ '1' ∧ c ≠ '2') :
    yearsAfter prev (c :: s) = yearsAfter c s := by
  have hn : leadingYear? (c :: s) = none := by
    rw [leadingYear?.eq_def]
    split
    · next heq =>
      obtain ⟨rfl, -⟩ := List.cons.inj heq
      rw [if_neg (by simp [h])]
    · rfl
  rw [yearsAfter, hn]

/-- Within a word no year starts. -/
theorem yearsAfter_cons_of_isWordChar (h : isWordChar prev = true) :
    yearsAfter prev (c :: s) = yearsAfter c s := by
  rw [yearsAfter, h]
  split <;> rfl

theorem yearsAfter_eq_nil (h : ∀ c ∈ s, c ≠ '1' ∧ c ≠ '2') : yearsAfter prev s = [] := by
  induction s generalizing prev with
  | nil => rfl
  | cons c s ih =>
    rw [yearsAfter_cons_of_ne (h c (List.mem_cons_self ..))]
    apply ih
    intro d hd
    exact h d (List.mem_cons_of_mem _ hd)

theorem yearsAfter_append_of_isWordChar (rest : Text) (h : isWordChar prev = true)
    (hs : ∀ c ∈ s, isWordChar c = true) :
    ∃ last, isWordChar last = true ∧ yearsAfter prev (s ++ rest) = yearsAfter last rest := by
  induction s generalizing prev with
  | nil => exact ⟨prev, h, rfl⟩
  | cons c s ih =>
    rw [List.cons_append, yearsAfter_cons_of_isWordChar h]
    apply ih (hs c (List.mem_cons_self ..))
    intro d hd
    exact hs d (List.mem_cons_of_mem _ hd)

theorem isDigit_of_mem_ofInt (h₁ : 1000 ≤ year) (hc : c ∈ ofInt year) : c.isDigit = true := by
  obtain ⟨n, rfl⟩ := Int.eq_ofNat_of_zero_le (a := year) (by omega)
  exact isDigit_of_mem_toDigits hc

theorem isWordChar_of_isDigit (h : c.isDigit = true) : isWordChar c = true := by
  have h₉ : ('9' : Char).toNat = 57 := rfl
  have := (Char.isDigit_iff_toNat.1 h).2
  exact isWordChar_of_isAlphanum (by simp [Char.isAlphanum, h]) (by omega)

/-- A year that stands as a word is found. -/
theorem yearsAfter_ofInt (prev : Char) (rest : Text) (h₁ : 1000 ≤ year) (h₂ : year ≤ 2999)
    (hp : isWordChar prev = false) (hr : endsWordBefore rest = true) :
    ∃ last, isWordChar last = true ∧
      yearsAfter prev (ofInt year ++ rest) = year :: yearsAfter last rest := by
  have hy := leadingYear?_ofInt h₁ h₂ rest
  have hdigits : ∀ d ∈ ofInt year, isWordChar d = true :=
    fun d hd => isWordChar_of_isDigit (isDigit_of_mem_ofInt h₁ hd)
  obtain ⟨c, s, hc, -⟩ := exists_ofInt_eq_cons year
  rw [hc] at hy hdigits ⊢
  obtain ⟨last, hlast, h⟩ := yearsAfter_append_of_isWordChar rest
    (hdigits c (List.mem_cons_self ..)) fun d hd => hdigits d (List.mem_cons_of_mem _ hd)
  refine ⟨last, hlast, ?_⟩
  rw [List.cons_append] at hy ⊢
  rw [yearsAfter, hy, ← h]
  simp [hp, hr]

/-- The years of a range that stands among words are found. -/
theorem yearsAfter_yearRange (prev : Char) (start : Option Int) (current : Int) (rest : Text)
    (h₁ : 1000 ≤ start.getD current) (h₂ : start.getD current ≤ current) (h₃ : current ≤ 2999)
    (hp : isWordChar prev = false) (hr : endsWordBefore rest = true) :
    ∃ last, isWordChar last = true ∧ yearsAfter prev (yearRange start current ++ rest) =
      rangeYears start current ++ yearsAfter last rest := by
  simp only [yearRange, rangeYears]
  split
  · next h => exact yearsAfter_ofInt prev rest (h ▸ h₁) h₃ hp hr
  · have hlower : 1000 ≤ current := by omega
    have hupper : start.getD current ≤ 2999 := by omega
    obtain ⟨mid, hmid, hfirst⟩ :=
      yearsAfter_ofInt prev (", " ++ (ofInt current ++ rest)) h₁ hupper hp rfl
    obtain ⟨last, hlast, hsecond⟩ := yearsAfter_ofInt ' ' rest hlower h₃ rfl hr
    refine ⟨last, hlast, ?_⟩
    rw [List.append_assoc, List.append_assoc, hfirst]
    show _ :: yearsAfter mid (',' :: ' ' :: (ofInt current ++ rest)) = _
    rw [yearsAfter_cons_of_isWordChar hmid, yearsAfter_cons_of_ne (by decide), hsecond]
    rfl

end YearsAfter

/-! ## The usual notice -/

/-- The usual notice. -/
def notice (holder : Text) : Text := "Copyright (C) " ++ yearsMacro ++ ' ' :: holder

theorem yearsMacro_infix_notice (holder : Text) : yearsMacro <:+: notice holder :=
  ⟨"Copyright (C) ", ' ' :: holder, rfl⟩

section Notice

variable {holder : Text}

/-- The text of a holder that names no year itself. -/
structure IsHolder (holder : Text) : Prop where
  trimmed : trim holder = holder
  ne_nil : holder ≠ []
  plain : ∀ c ∈ holder, c ≠ '1' ∧ c ≠ '2' ∧ c ≠ '{' ∧ c ≠ '\n'

theorem not_infix_of_not_mem {s : Text} (h : '{' ∉ s) : ¬ yearsMacro <:+: s := fun hi =>
  h (hi.subset (by decide))

theorem expandYears_notice (h : IsHolder holder) (start : Option Int) (current : Int) :
    expandYears (notice holder) start current =
      "Copyright (C) " ++ yearRange start current ++ ' ' :: holder := by
  have hold := yearsMacro_ne_nil
  have hback : replaceAll yearsMacro (yearRange start current) holder = holder :=
    replaceAll_eq_self_of_absent hold (not_infix_of_not_mem fun hm => (h.plain _ hm).2.2.1 rfl)
  have hfront : replaceAll yearsMacro (yearRange start current) "Copyright (C)" = "Copyright (C)" :=
    replaceAll_eq_self_of_absent hold (not_infix_of_not_mem (by decide))
  have hplace : replaceAll yearsMacro (yearRange start current) yearsMacro =
      yearRange start current := by
    have h : replaceAll yearsMacro (yearRange start current) (yearsMacro ++ []) =
        yearRange start current ++ replaceAll yearsMacro (yearRange start current) [] :=
      replaceAll_append hold []
    rwa [replaceAll_nil hold, List.append_nil, List.append_nil] at h
  have hsplit : notice holder = "Copyright (C)" ++ ' ' :: (yearsMacro ++ ' ' :: holder) := rfl
  rw [expandYears, hsplit, replaceAll_append_cons hold (by decide),
    replaceAll_append_cons hold (by decide), hfront, hplace, hback]
  rfl

theorem lines_expandYears_notice (h : IsHolder holder) (start : Option Int) (current : Int) :
    (splitLines (expandYears (notice holder) start current)).map trim =
      ["Copyright (C) " ++ yearRange start current ++ ' ' :: holder] := by
  have hline : '\n' ∉ "Copyright (C) " ++ yearRange start current ++ ' ' :: holder := by
    have hy : '\n' ∉ yearRange start current := by
      intro hm
      have := isYearChar_of_mem_yearRange start current hm
      revert this
      decide
    have hh : '\n' ∉ holder := fun hm => (h.plain _ hm).2.2.2 rfl
    simp [hy, hh]
  have htrim := trim_append_of_trim (a := "Copyright") (b := holder) rfl h.trimmed (by decide)
    h.ne_nil (" (C) " ++ yearRange start current ++ [' '])
  rw [expandYears_notice h, splitLines_of_not_mem hline, List.map_singleton]
  simpa using htrim

/-- **The usual notice is year-faithful**: its years are read back, and nothing else is. -/
theorem yearFaithful_notice (h : IsHolder holder) : YearFaithful (notice holder) := by
  intro first current h₁ h₂ h₃
  refine .inr ?_
  obtain ⟨last, -, hyears⟩ :=
    yearsAfter_yearRange ' ' (some first) current (' ' :: holder) h₁ h₂ h₃ rfl rfl
  have hback : yearsAfter last (' ' :: holder) = [] := yearsAfter_eq_nil fun c hc => by
    rcases List.mem_cons.1 hc with rfl | hc
    · decide
    · exact ⟨(h.plain c hc).1, (h.plain c hc).2.1⟩
  have hcopyright : copyrightYears ("Copyright (C) " ++ yearRange (some first) current ++
      ' ' :: holder) = rangeYears (some first) current := by
    have hafter : afterCopyright? ("Copyright (C) " ++ yearRange (some first) current ++
        ' ' :: holder) = some (" (C) " ++ yearRange (some first) current ++ ' ' :: holder) := rfl
    rw [copyrightYears, hafter]
    show yearsAfter 't' (' ' :: '(' :: 'C' :: ')' :: ' ' ::
      (yearRange (some first) current ++ ' ' :: holder)) = _
    iterate 5 rw [yearsAfter_cons_of_ne (by decide)]
    rw [hyears, hback, List.append_nil]
  have hmin := earliest_flatten_replicate_rangeYears (some first) current Nat.one_pos
  rw [Option.getD_some, Int.min_eq_left h₂] at hmin
  rw [lines_expandYears_notice h, earliestCopyrightYear, List.flatMap_singleton, hcopyright]
  simpa using hmin

end Notice

end LicenseAudit
