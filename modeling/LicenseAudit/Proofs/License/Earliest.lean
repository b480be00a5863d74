import LicenseAudit.Proofs.License.Phrases
import LicenseAudit.Proofs.Verdict.Settled
import Mathlib.Order.Bounds.Basic

/-!
# The earliest year of the notices in a file

Which years a line names is said without the search for them: `NamesYear` asks for the first
"Copyright" of the line, in any case, and for a numeral behind it that stands as a word of its own.
`copyrightYears` lists exactly these years (`mem_copyrightYears_iff`).

The year of a file is then a minimum in two stages, over the lines of a block and over the blocks
that look like declarations. A minimum of minima is the minimum of all (`isEarliest_filterMap`), so
the stages and the order of the blocks do not show in it (`marked_annotate`).
-/

namespace LicenseAudit

open Text

/-! ## The years that a line names -/

/-- The line is `front`, its first "Copyright" in any case, written `word`, and `rest`. -/
structure FirstCopyright (line front word rest : Text) : Prop where
  line_eq : line = front ++ word ++ rest
  spells : SpellsWord "Copyright" word
  first : ∀ front' word' rest', line = front' ++ word' ++ rest' →
    SpellsWord "Copyright" word' → front.length ≤ front'.length

/-- The numeral of a year stands behind the first "Copyright" of the line, with no word character
next to it. -/
def NamesYear (line : Text) (year : Int) : Prop :=
  ∃ front word mid numeral back, FirstCopyright line front word (mid ++ numeral ++ back) ∧
    YearNumeral numeral year ∧
    (∀ c ∈ (front ++ word ++ mid).getLast?, isWordChar c = false) ∧
    ∀ c ∈ back.head?, isWordChar c = false

theorem NamesYear.bounds {line : Text} {year : Int} (h : NamesYear line year) :
    1000 ≤ year ∧ year ≤ 2999 := by
  obtain ⟨_, _, _, _, _, -, hyear, -, -⟩ := h
  exact hyear.bounds

/-! ## The first "Copyright" -/

theorem afterCopyright?_eq_some_iff {line rest : Text} :
    afterCopyright? line = some rest ↔ ∃ front word, FirstCopyright line front word rest := by
  induction line with
  | nil =>
    refine iff_of_false (by simp [afterCopyright?]) ?_
    rintro ⟨front, word, h⟩
    have hword : "Copyright".toList.length = word.length := h.spells.length_eq
    have hnine : "Copyright".toList.length = 9 := rfl
    have hnil := congrArg List.length h.line_eq
    simp only [List.length_nil, List.length_append] at hnil
    omega
  | cons c s ih =>
    rw [afterCopyright?]
    cases ha : afterAnyCase? "Copyright" (c :: s) with
    | some r =>
      obtain ⟨t, ht, hword⟩ := afterAnyCase?_eq_some_iff.1 ha
      constructor
      · intro h
        obtain rfl := Option.some.inj h
        exact ⟨[], t, ht, hword, fun _ _ _ _ _ => Nat.zero_le _⟩
      · rintro ⟨front, word, h⟩
        have hfront : front = [] := by
          have hle := h.first [] t r ht hword
          exact List.length_eq_zero_iff.1 (Nat.le_zero.1 hle)
        subst hfront
        have hline := h.line_eq
        rw [List.nil_append] at hline
        rw [hline, afterAnyCase?_append h.spells] at ha
        exact ha.symm
    | none =>
      dsimp only
      rw [ih]
      constructor
      · rintro ⟨front, word, h⟩
        refine ⟨c :: front, word, by rw [h.line_eq]; rfl, h.spells, ?_⟩
        intro front' word' rest' hline hword
        cases front' with
        | nil =>
          rw [hline, List.nil_append, afterAnyCase?_append hword] at ha
          cases ha
        | cons d front' =>
          obtain ⟨rfl, hs⟩ := List.cons.inj hline
          exact Nat.succ_le_succ (h.first front' word' rest' hs hword)
      · rintro ⟨front, word, h⟩
        cases front with
        | nil =>
          have hline := h.line_eq
          rw [List.nil_append] at hline
          rw [hline, afterAnyCase?_append h.spells] at ha
          cases ha
        | cons d front =>
          obtain ⟨rfl, hs⟩ := List.cons.inj h.line_eq
          refine ⟨front, word, hs, h.spells, ?_⟩
          intro front' word' rest' hline hword
          have hle := h.first (c :: front') word' rest' (by rw [hline]; rfl) hword
          exact Nat.le_of_succ_le_succ hle

/-- A capital counts as part of a word, and so does the last letter of "Copyright" in either
case. -/
theorem isWordChar_of_isUpper {c : Char} (h : c.isUpper = true) : isWordChar c = true := by
  have hle : c.val ≤ 'Z'.val := (of_decide_eq_true h).2
  have hz : 'Z'.val.toNat = 90 := rfl
  have hlt : c.val.toNat ≤ 'Z'.val.toNat := hle
  have hsmall : c.toNat < 0x80 := by
    show c.val.toNat < 0x80
    omega
  have halpha : c.isAlpha = true := Bool.or_eq_true_iff.2 (.inl h)
  exact isWordChar_of_isAlphanum (by simp [Char.isAlphanum, halpha]) hsmall

theorem isWordChar_of_isSameLetter {c : Char} (h : isSameLetter 't' c = true) :
    isWordChar c = true := by
  have hfold : 't' = foldLetter c := eq_of_beq h
  unfold foldLetter at hfold
  split at hfold
  · exact absurd hfold (by decide)
  · split at hfold
    · exact absurd hfold (by decide)
    · split at hfold
      · exact absurd hfold (by decide)
      · unfold Char.toLower at hfold
        split at hfold
        · next hc => exact isWordChar_of_isUpper (decide_eq_true hc)
        · rw [← hfold]
          decide

/-- "Copyright" ends within a word, however it is written. -/
theorem SpellsWord.exists_eq_concat {t : Text} (h : SpellsWord "Copyright" t) :
    ∃ front c, t = front ++ [c] ∧ isWordChar c = true := by
  have hreverse : List.Forall₂ (fun a c => isSameLetter a c = true)
      ('t' :: "hgirypoC".toList) t.reverse := List.forall₂_reverse_iff.2 h
  obtain ⟨c, front, hc, -, hfront⟩ := List.forall₂_cons_left_iff.1 hreverse
  refine ⟨front.reverse, c, ?_, isWordChar_of_isSameLetter hc⟩
  rw [← List.reverse_reverse t, hfront, List.reverse_cons]

/-! ## The numerals behind it -/

theorem mem_yearsAfter_cons_iff {prev c : Char} {s : Text} {year : Int} :
    year ∈ yearsAfter prev (c :: s) ↔
      (isWordChar prev = false ∧
        ∃ rest, leadingYear? (c :: s) = some (year, rest) ∧ endsWordBefore rest = true) ∨
      year ∈ yearsAfter c s := by
  rw [yearsAfter]
  cases hl : leadingYear? (c :: s) with
  | none => simp
  | some found =>
    obtain ⟨y, rest⟩ := found
    have hfound : (∃ r, some (y, rest) = some (year, r) ∧ endsWordBefore r = true) ↔
        year = y ∧ endsWordBefore rest = true := by
      constructor
      · rintro ⟨r, hr, he⟩
        obtain ⟨rfl, rfl⟩ := Prod.mk.inj (Option.some.inj hr)
        exact ⟨rfl, he⟩
      · rintro ⟨rfl, he⟩
        exact ⟨rest, rfl, he⟩
    rw [hfound]
    dsimp only
    cases isWordChar prev <;> cases endsWordBefore rest <;> simp

theorem endsWordBefore_iff {s : Text} :
    endsWordBefore s = true ↔ ∀ c ∈ s.head?, isWordChar c = false := by
  cases s <;> simp [endsWordBefore]

theorem mem_yearsAfter_iff {prev : Char} {s : Text} {year : Int} :
    year ∈ yearsAfter prev s ↔ ∃ mid numeral back, s = mid ++ numeral ++ back ∧
      YearNumeral numeral year ∧ (∀ c ∈ (prev :: mid).getLast?, isWordChar c = false) ∧
      ∀ c ∈ back.head?, isWordChar c = false := by
  induction s generalizing prev with
  | nil =>
    refine iff_of_false (by simp [yearsAfter]) ?_
    rintro ⟨mid, numeral, back, hs, hyear, -⟩
    have hlength := congrArg List.length hs
    simp only [List.length_nil, List.length_append, hyear.length] at hlength
    omega
  | cons c s ih =>
    rw [mem_yearsAfter_cons_iff, ih]
    constructor
    · rintro (⟨hprev, rest, hl, hr⟩ | ⟨mid, numeral, back, rfl, hyear, hleft, hright⟩)
      · obtain ⟨numeral, hs, hyear⟩ := leadingYear?_eq_some_iff.1 hl
        exact ⟨[], numeral, rest, hs, hyear, by simpa using hprev, endsWordBefore_iff.1 hr⟩
      · exact ⟨c :: mid, numeral, back, rfl, hyear, by simpa using hleft, hright⟩
    · rintro ⟨mid, numeral, back, hs, hyear, hleft, hright⟩
      cases mid with
      | nil =>
        exact .inl ⟨by simpa using hleft, back, leadingYear?_eq_some_iff.2 ⟨numeral, hs, hyear⟩,
          endsWordBefore_iff.2 hright⟩
      | cons d mid =>
        obtain ⟨rfl, hrest⟩ := List.cons.inj hs
        exact .inr ⟨mid, numeral, back, hrest, hyear, by simpa using hleft, hright⟩

/-- **The years that are found on a line are those that it names.** -/
theorem mem_copyrightYears_iff {line : Text} {year : Int} :
    year ∈ copyrightYears line ↔ NamesYear line year := by
  -- nothing stands between the word and a year right behind it, so that is none
  have hleft : ∀ {front word mid : Text}, SpellsWord "Copyright" word →
      ((∀ c ∈ ('t' :: mid).getLast?, isWordChar c = false) ↔
        ∀ c ∈ (front ++ word ++ mid).getLast?, isWordChar c = false) := by
    intro front word mid hword
    obtain ⟨start, c, rfl, hc⟩ := hword.exists_eq_concat
    rcases List.eq_nil_or_concat mid with rfl | ⟨mid, d, rfl⟩
    · have ht : isWordChar 't' = true := by decide
      simp [hc, ht]
    · rw [List.concat_eq_append, ← List.cons_append, List.getLast?_concat, ← List.append_assoc,
        List.getLast?_concat]
  unfold copyrightYears
  constructor
  · intro h
    split at h
    · next rest ha =>
      obtain ⟨front, word, hfirst⟩ := afterCopyright?_eq_some_iff.1 ha
      obtain ⟨mid, numeral, back, rfl, hyear, hmid, hback⟩ := mem_yearsAfter_iff.1 h
      exact ⟨front, word, mid, numeral, back, hfirst, hyear, (hleft hfirst.spells).1 hmid, hback⟩
    · cases h
  · rintro ⟨front, word, mid, numeral, back, hfirst, hyear, hmid, hback⟩
    rw [afterCopyright?_eq_some_iff.2 ⟨front, word, hfirst⟩]
    exact mem_yearsAfter_iff.2
      ⟨mid, numeral, back, rfl, hyear, (hleft hfirst.spells).2 hmid, hback⟩

/-! ## Least years -/

/-- The least of the named years; there is none when no year is named. -/
def IsEarliest (named : Set Int) : Option Int → Prop
  | some year => IsLeast named year
  | none => named = ∅

/-- The same without cases: the year is named, and no named year is before it. -/
theorem isEarliest_iff {named : Set Int} {year : Option Int} :
    IsEarliest named year ↔ (∀ y ∈ year, y ∈ named) ∧ ∀ z ∈ named, ∃ y ∈ year, y ≤ z := by
  cases year with
  | none => simp [IsEarliest, Set.eq_empty_iff_forall_notMem]
  | some year => simp [IsEarliest, IsLeast, lowerBounds]

theorem IsEarliest.unique {named : Set Int} {y z : Option Int} (hy : IsEarliest named y)
    (hz : IsEarliest named z) : y = z := by
  cases y with
  | none =>
    cases z with
    | none => rfl
    | some z => exact absurd hz.1 (hy ▸ Set.notMem_empty z)
  | some y =>
    cases z with
    | none => exact absurd hy.1 (hz ▸ Set.notMem_empty y)
    | some z => rw [IsLeast.unique hy hz]

theorem isEarliest_earliest (years : List Int) : IsEarliest {y | y ∈ years} (earliest years) := by
  unfold earliest
  cases h : years.min? with
  | none =>
    rw [List.min?_eq_none_iff] at h
    simp [IsEarliest, h]
  | some year =>
    obtain ⟨hmem, hle⟩ := List.min?_eq_some_iff.1 h
    exact ⟨hmem, hle⟩

/-- **The least of least years is the least of all.** -/
theorem isEarliest_filterMap {α : Type} {named : α → Set Int} {year : α → Option Int} {l : List α}
    (h : ∀ a ∈ l, IsEarliest (named a) (year a)) :
    IsEarliest {y | ∃ a ∈ l, y ∈ named a} (earliest (l.filterMap year)) := by
  obtain ⟨hmem, hleast⟩ := isEarliest_iff.1 (isEarliest_earliest (l.filterMap year))
  refine isEarliest_iff.2 ⟨?_, ?_⟩
  · intro y hy
    obtain ⟨a, ha, hyear⟩ := List.mem_filterMap.1 (hmem y hy)
    exact ⟨a, ha, (isEarliest_iff.1 (h a ha)).1 y hyear⟩
  · rintro z ⟨a, ha, hz⟩
    obtain ⟨y, hy, hyz⟩ := (isEarliest_iff.1 (h a ha)).2 z hz
    obtain ⟨x, hx, hxy⟩ := hleast y (List.mem_filterMap.2 ⟨a, ha, hy⟩)
    exact ⟨x, hx, hxy.trans hyz⟩

/-- The earliest year of some lines is the least that one of them names. -/
theorem isEarliest_earliestCopyrightYear (lines : List Text) :
    IsEarliest {y | ∃ line ∈ lines, NamesYear line y} (earliestCopyrightYear lines) := by
  have h := isEarliest_earliest (lines.flatMap copyrightYears)
  simp only [List.mem_flatMap, mem_copyrightYears_iff] at h
  exact h

/-! ## Marked blocks -/

namespace Block

/-- What the block says looks like a declaration: it holds one of the phrases, in any case. -/
def Declares (b : Block) : Prop :=
  ∃ p ∈ licensePhrases, ∃ t, t <:+: b.normalized ∧ p.Spelled t

/-- The years that a declaration names on its lines. -/
def declaredYears (b : Block) : Set Int := {y | b.Declares ∧ ∃ line ∈ b.lines, NamesYear line y}

/-- The block `c` is the block `b` with its mark and its year. -/
structure Marked (b c : Block) : Prop where
  same : c = { b with isLicense := c.isLicense, year := c.year }
  isLicense : c.isLicense = true ↔ b.Declares
  year : IsEarliest b.declaredYears c.year

/-- Annotation gives a block that has no mark yet its mark and its year. -/
theorem marked_annotate_self {b : Block} (hmark : b.isLicense = false) (hyear : b.year = none) :
    b.Marked b.annotate := by
  have hdeclares : b.annotate.isLicense = true ↔ b.Declares := by
    rw [isLicense_annotate hmark]
    exact isLicenseLike_iff
  refine ⟨?_, hdeclares, ?_⟩
  · unfold annotate
    split <;> rfl
  · by_cases h : b.annotate.isLicense = true
    · rw [year_annotate h hmark]
      have hleast := isEarliest_earliestCopyrightYear b.lines
      simpa [declaredYears, hdeclares.1 h] using hleast
    · have hself : b.annotate = b := by
        rw [isLicense_annotate hmark] at h
        rw [annotate, if_neg h]
      have hnone : b.declaredYears = ∅ := by
        apply Set.eq_empty_iff_forall_notMem.2
        rintro y ⟨hb, -⟩
        exact h (hdeclares.2 hb)
      rw [hself, hyear]
      exact hnone

end Block

section Annotate

variable {blocks : List Block} (h : ∀ b ∈ blocks, b.isLicense = false ∧ b.year = none)
include h

/-- Blocks without a mark have no year, so the years are those of all blocks. -/
theorem annotate_snd :
    (annotate blocks).2 = earliest (blocks.filterMap fun b => b.annotate.year) := by
  have hyears : (((blocks.map Block.annotate).filter (·.isLicense)).filterMap (·.year)) =
      blocks.filterMap fun b => b.annotate.year := by
    rw [List.filterMap_filter, List.filterMap_map]
    apply List.filterMap_congr
    intro b hb
    obtain ⟨hmark, hyear⟩ := h b hb
    show (if b.annotate.isLicense = true then b.annotate.year else none) = b.annotate.year
    split
    · rfl
    · next hn =>
      rw [Block.isLicense_annotate hmark] at hn
      rw [Block.annotate, if_neg hn, hyear]
  exact congrArg earliest hyears

theorem isEarliest_annotate :
    IsEarliest {y | ∃ b ∈ blocks, y ∈ b.declaredYears} (annotate blocks).2 := by
  rw [annotate_snd h]
  apply isEarliest_filterMap
  intro b hb
  obtain ⟨hmark, hyear⟩ := h b hb
  exact (Block.marked_annotate_self hmark hyear).year

/-- **Blocks are marked as what they look like, and the year of a file is the least that its
declarations name**, each on one of its lines behind the first "Copyright". The order of the blocks
makes no difference. -/
theorem marked_annotate :
    List.Forall₂ Block.Marked blocks (annotate blocks).1 ∧
    IsEarliest {y | ∃ b ∈ blocks, y ∈ b.declaredYears} (annotate blocks).2 ∧
    (∀ y ∈ (annotate blocks).2, 1000 ≤ y ∧ y ≤ 2999) ∧
    ∀ blocks', blocks'.Perm blocks → (annotate blocks').1.Perm (annotate blocks).1 ∧
      (annotate blocks').2 = (annotate blocks).2 := by
  have hleast := isEarliest_annotate h
  refine ⟨?_, hleast, ?_, ?_⟩
  · refine List.forall₂_map_right_iff.2 (List.forall₂_same.2 ?_)
    intro b hb
    obtain ⟨hmark, hyear⟩ := h b hb
    exact Block.marked_annotate_self hmark hyear
  · intro y hy
    obtain ⟨b, -, -, line, -, hyear⟩ := (isEarliest_iff.1 hleast).1 y hy
    exact hyear.bounds
  · intro blocks' hperm
    refine ⟨hperm.map Block.annotate, ?_⟩
    have h' : ∀ b ∈ blocks', b.isLicense = false ∧ b.year = none :=
      fun b hb => h b (hperm.mem_iff.1 hb)
    have hleast' := isEarliest_annotate h'
    simp only [hperm.mem_iff] at hleast'
    exact hleast'.unique hleast

end Annotate

/-- A comment that names a year but is no declaration, and two declarations, of which the earlier
year stands in the later one, after a later year. -/
def noticeBlocks : List Block :=
  [⟨["Copyright 1990 Foo"], 1, 1, false, none⟩,
    ⟨["Copyright (C) 2015 Bar"], 3, 3, false, none⟩,
    ⟨["1999 copyright (c) 2021, 2012 Baz", "All rights reserved, 1998"], 5, 6, false, none⟩]

theorem marked_annotate_notices :
    (∀ b ∈ noticeBlocks, b.isLicense = false ∧ b.year = none) ∧
    (annotate noticeBlocks).1.map (·.year) = [none, some 2015, some 2012] ∧
    IsEarliest {y | ∃ b ∈ noticeBlocks, y ∈ b.declaredYears} (some 2012) ∧
    (annotate noticeBlocks.reverse).2 = some 2012 := by
  have hunmarked : ∀ b ∈ noticeBlocks, b.isLicense = false ∧ b.year = none := by decide
  have hyear : (annotate noticeBlocks).2 = some 2012 := by decide +kernel
  obtain ⟨-, hleast, -, hperm⟩ := marked_annotate hunmarked
  refine ⟨hunmarked, by decide +kernel, hyear ▸ hleast, ?_⟩
  exact (hperm noticeBlocks.reverse (List.reverse_perm _)).2.trans hyear

end LicenseAudit
