import LicenseAudit.Proofs.License.Years

/-!
# Templates with years filled in

`Filled parts s years` says that a text is the parts of a template with years between neighbours:
one numeral, or two with a comma and a blank between them. The text may be so in more than one way,
because a part may look like years itself.

`matchParts` looks for such a reading, two years before one, and goes back when the rest does not
fit. What it finds is a reading (`filled_of_matchParts`), and it finds one whenever there is one
(`isSome_matchParts_iff`). So the block that `findTemplate?` returns is the first of all that are
the license but for its years (`findTemplate?_eq_some_iff`, `findTemplate?_eq_none_iff`).
-/

namespace LicenseAudit

open Text

/-! ## Years in a text -/

/-- A numeral of a year: a one or a two and three more decimal digits. -/
inductive YearNumeral : Text → Int → Prop
  | digits {c c₁ c₂ c₃ : Char} {d d₁ d₂ d₃ : Nat} (hc : c = '1' ∨ c = '2')
      (h : digitValue? c = some d) (h₁ : digitValue? c₁ = some d₁)
      (h₂ : digitValue? c₂ = some d₂) (h₃ : digitValue? c₃ = some d₃) :
      YearNumeral [c, c₁, c₂, c₃] (1000 * d + 100 * d₁ + 10 * d₂ + d₃ : Nat)

/-- What may stand in place of the macro, and the years that it names. -/
inductive YearsText : Text → List Int → Prop
  | one {s : Text} {year : Int} (h : YearNumeral s year) : YearsText s [year]
  | two {s t : Text} {first second : Int} (hs : YearNumeral s first) (ht : YearNumeral t second) :
      YearsText (s ++ ", " ++ t) [first, second]

/-- The text is these parts in order with years between neighbours. -/
inductive Filled : List Text → Text → List Int → Prop
  | nil : Filled [] [] []
  | last (part : Text) : Filled [part] part []
  | gap (part : Text) {next gap s : Text} {rest : List Text} {read later : List Int}
      (hgap : YearsText gap read) (h : Filled (next :: rest) s later) :
      Filled (part :: next :: rest) (part ++ gap ++ s) (read ++ later)

/-- The text is the normalized license with these years in place of the macros. -/
def FitsTemplate (license s : Text) (years : List Int) : Prop :=
  Filled (splitOn yearsMacro (normalizeLicense license)) s years

theorem leadingYear?_eq_some_iff {s rest : Text} {year : Int} :
    leadingYear? s = some (year, rest) ↔ ∃ t, s = t ++ rest ∧ YearNumeral t year := by
  constructor
  · intro h
    match s, h with
    | c :: c₁ :: c₂ :: c₃ :: s, h =>
      rw [leadingYear?] at h
      split at h
      · next hc =>
        obtain ⟨n, hn, hy⟩ := Option.map_eq_some_iff.1 h
        obtain ⟨d, hd, hn⟩ := readDigits?_cons hn
        obtain ⟨d₁, hd₁, hn⟩ := readDigits?_cons hn
        obtain ⟨d₂, hd₂, hn⟩ := readDigits?_cons hn
        obtain ⟨d₃, hd₃, hn⟩ := readDigits?_cons hn
        have hv : 10 * (10 * (10 * (10 * 0 + d) + d₁) + d₂) + d₃ = n := Option.some.inj hn
        obtain ⟨rfl, rfl⟩ := Prod.mk.inj hy
        have hsum : n = 1000 * d + 100 * d₁ + 10 * d₂ + d₃ := by omega
        refine ⟨[c, c₁, c₂, c₃], rfl, ?_⟩
        rw [hsum]
        exact .digits hc hd hd₁ hd₂ hd₃
      · cases h
  · rintro ⟨t, rfl, hc, h, h₁, h₂, h₃⟩
    rename_i c c₁ c₂ c₃ d d₁ d₂ d₃
    have hv : 10 * (10 * (10 * (10 * 0 + d) + d₁) + d₂) + d₃ =
        1000 * d + 100 * d₁ + 10 * d₂ + d₃ := by omega
    simp only [List.cons_append, List.nil_append, leadingYear?, if_pos hc, readNumeral?,
      List.isEmpty_cons, Bool.false_eq_true, if_false, readDigits?, h, h₁, h₂, h₃,
      Option.map_some, hv]
    rfl

theorem YearNumeral.leadingYear? {s : Text} {year : Int} (h : YearNumeral s year) (rest : Text) :
    leadingYear? (s ++ rest) = some (year, rest) :=
  leadingYear?_eq_some_iff.2 ⟨s, rfl, h⟩

theorem YearNumeral.length {s : Text} {year : Int} (h : YearNumeral s year) : s.length = 4 := by
  cases h
  rfl

theorem YearNumeral.bounds {s : Text} {year : Int} (h : YearNumeral s year) :
    1000 ≤ year ∧ year ≤ 2999 :=
  leadingYear?_bounds (h.leadingYear? [])

namespace YearsText

variable {s : Text} {years : List Int}

theorem four_le_length (h : YearsText s years) : 4 ≤ s.length := by
  cases h with
  | one h => exact Nat.le_of_eq h.length.symm
  | two hs ht => simp [hs.length, ht.length]

theorem ne_nil (h : YearsText s years) : years ≠ [] := by
  cases h <;> simp

theorem bounds (h : YearsText s years) : ∀ y ∈ years, 1000 ≤ y ∧ y ≤ 2999 := by
  cases h with
  | one h => simpa using h.bounds
  | two hs ht => simpa using ⟨hs.bounds, ht.bounds⟩

end YearsText

/-! ## One step of the reading -/

section Step

variable {part next s : Text} {rest : List Text} {years : List Int}

/-- Past a part, what is read is a year or two, and what is left is read as the other parts. -/
theorem exists_gap_of_matchParts (h : matchParts (part :: next :: rest) s = some years) :
    ∃ (gap t : Text) (read later : List Int), s = part ++ gap ++ t ∧ years = read ++ later ∧
      YearsText gap read ∧ matchParts (next :: rest) t = some later := by
  rw [matchParts] at h
  · split at h
    · cases h
    · next s₁ hp =>
      obtain rfl := after?_eq_some_iff.1 hp
      split at h
      · cases h
      · next first s₂ hf =>
        obtain ⟨t, rfl, hfirst⟩ := leadingYear?_eq_some_iff.1 hf
        rcases Option.or_eq_some_iff.1 h with htwo | ⟨-, hone⟩
        · obtain ⟨⟨second, s₃⟩, hr, hmap⟩ := Option.bind_eq_some_iff.1 htwo
          obtain ⟨later, hl, rfl⟩ := Option.map_eq_some_iff.1 hmap
          obtain ⟨s', hc, hr⟩ := Option.bind_eq_some_iff.1 hr
          obtain rfl := after?_eq_some_iff.1 hc
          obtain ⟨u, rfl, hsecond⟩ := leadingYear?_eq_some_iff.1 hr
          exact ⟨t ++ ", " ++ u, s₃, [first, second], later, by simp, rfl,
            .two hfirst hsecond, hl⟩
        · obtain ⟨later, hl, rfl⟩ := Option.map_eq_some_iff.1 hone
          exact ⟨t, s₂, [first], later, by simp, rfl, .one hfirst, hl⟩
  · simp

/-- When the rest can be read, so can it be with a part and years in front. -/
theorem isSome_matchParts_gap {gap : Text} (hgap : YearsText gap years)
    (h : (matchParts (next :: rest) s).isSome) :
    (matchParts (part :: next :: rest) (part ++ gap ++ s)).isSome := by
  have hp : after? part (part ++ gap ++ s) = some (gap ++ s) :=
    after?_eq_some_iff.2 (List.append_assoc ..)
  rw [matchParts, hp]
  · dsimp only
    cases hgap with
    | one hyear =>
      -- whatever is made of a second year, one year is enough
      rw [hyear.leadingYear?]
      simp [h]
    | two hfirst hsecond =>
      rename_i t u first second
      have hcomma : after? ", " (", " ++ (u ++ s)) = some (u ++ s) := after?_eq_some_iff.2 rfl
      rw [List.append_assoc, List.append_assoc, hfirst.leadingYear?]
      dsimp only
      rw [hcomma, Option.bind_some, hsecond.leadingYear?]
      simp [h]
  · simp

end Step

/-! ## The whole reading -/

section Reading

variable {parts : List Text} {s : Text} {years : List Int}

theorem filled_of_matchParts (h : matchParts parts s = some years) : Filled parts s years := by
  induction parts generalizing s years with
  | nil =>
    unfold matchParts at h
    split at h
    · next hs =>
      obtain rfl := List.isEmpty_iff.1 hs
      obtain rfl := Option.some.inj h
      exact .nil
    · cases h
  | cons part rest ih =>
    cases rest with
    | nil =>
      unfold matchParts at h
      split at h
      · next hs =>
        obtain rfl := Option.some.inj h
        exact hs ▸ .last s
      · cases h
    | cons next rest =>
      obtain ⟨gap, t, read, later, rfl, rfl, hgap, hrest⟩ := exists_gap_of_matchParts h
      exact .gap part hgap (ih hrest)

theorem Filled.isSome_matchParts (h : Filled parts s years) : (matchParts parts s).isSome := by
  induction h with
  | nil => rfl
  | last part => simp [matchParts]
  | gap part hgap _ ih => exact isSome_matchParts_gap hgap ih

/-- **A reading is found whenever there is one.** -/
theorem isSome_matchParts_iff : (matchParts parts s).isSome ↔ ∃ years, Filled parts s years := by
  constructor
  · intro h
    obtain ⟨years, h⟩ := Option.isSome_iff_exists.1 h
    exact ⟨years, filled_of_matchParts h⟩
  · rintro ⟨years, h⟩
    exact h.isSome_matchParts

theorem Filled.bounds (h : Filled parts s years) : ∀ y ∈ years, 1000 ≤ y ∧ y ≤ 2999 := by
  induction h with
  | nil => simp
  | last => simp
  | gap _ hgap _ ih =>
    intro y hy
    rcases List.mem_append.1 hy with hy | hy
    · exact hgap.bounds y hy
    · exact ih y hy

/-- Years are read exactly when there is a place for them. -/
theorem Filled.eq_nil_iff (h : Filled parts s years) : years = [] ↔ parts.length ≤ 1 := by
  cases h with
  | nil => simp
  | last => simp
  | gap _ hgap _ => simp [hgap.ne_nil]

end Reading

/-! ## The first block that fits -/

section Blocks

variable {license s : Text} {years : List Int}

theorem fitsTemplate_of_templateYears? (h : templateYears? license s = some years) :
    FitsTemplate license s years :=
  filled_of_matchParts h

theorem templateYears?_eq_none_iff :
    templateYears? license s = none ↔ ∀ years, ¬ FitsTemplate license s years := by
  rw [← Option.not_isSome_iff_eq_none, templateYears?, isSome_matchParts_iff, not_exists]
  rfl

theorem findTemplate?_eq_some_iff {blocks : List Block} {b : Block} {year : Option Int} :
    findTemplate? license blocks = some (b, year) ↔
      ∃ front back years, blocks = front ++ b :: back ∧
        (∀ c ∈ front, templateYears? license c.normalized = none) ∧
        templateYears? license b.normalized = some years ∧ year = earliest years := by
  induction blocks with
  | nil => simp [findTemplate?]
  | cons c rest ih =>
    rw [findTemplate?]
    cases hc : templateYears? license c.normalized with
    | some ys =>
      constructor
      · intro h
        obtain ⟨rfl, rfl⟩ := Prod.mk.inj (Option.some.inj h)
        exact ⟨[], rest, ys, rfl, by simp, hc, rfl⟩
      · rintro ⟨front, back, years, he, hfront, hb, rfl⟩
        cases front with
        | nil =>
          obtain ⟨rfl, rfl⟩ := List.cons.inj he
          rw [Option.some.inj (hc.symm.trans hb)]
        | cons e front =>
          obtain ⟨rfl, rfl⟩ := List.cons.inj he
          cases hc.symm.trans (hfront c (List.mem_cons_self ..))
    | none =>
      dsimp only
      rw [ih]
      constructor
      · rintro ⟨front, back, years, rfl, hfront, hb, hy⟩
        exact ⟨c :: front, back, years, rfl, by simpa [hc] using hfront, hb, hy⟩
      · rintro ⟨front, back, years, he, hfront, hb, hy⟩
        cases front with
        | nil =>
          obtain ⟨rfl, rfl⟩ := List.cons.inj he
          cases hc.symm.trans hb
        | cons e front =>
          obtain ⟨rfl, rfl⟩ := List.cons.inj he
          exact ⟨front, back, years, rfl, fun x hx => hfront x (List.mem_cons_of_mem _ hx), hb, hy⟩

theorem findTemplate?_eq_none_iff {blocks : List Block} :
    findTemplate? license blocks = none ↔
      ∀ b ∈ blocks, templateYears? license b.normalized = none := by
  induction blocks with
  | nil => simp [findTemplate?]
  | cons c rest ih =>
    rw [findTemplate?]
    cases hc : templateYears? license c.normalized <;> simp [hc, ih]

end Blocks

end LicenseAudit
