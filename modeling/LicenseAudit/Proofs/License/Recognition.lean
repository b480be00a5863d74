import LicenseAudit.Proofs.License.Filled

/-!
# Recognising a license by its template

`templateYears?` prefers two years to one and goes back when the rest does not fit. On a text that
is the template with one and the same range of years in every place nothing is left to chance: the
length of what is left tells a year from a range (`Filled.leastLength_le`), so exactly the years
that were filled in are read (`matchParts_joinWith`), and the earliest of them is the start year
(`templateYears?_expandYears`).

Whatever line years are read from, they lie between 1000 and 2999 (`bounds_of_mem_copyrightYears`).
-/

namespace LicenseAudit

open Text

/-! ## Lengths -/

/-- The least length of a text that has these parts with years between them. -/
def leastLength (parts : List Text) : Nat := parts.flatten.length + 4 * (parts.length - 1)

theorem leastLength_cons (p q : Text) (rest : List Text) :
    leastLength (p :: q :: rest) = p.length + 4 + leastLength (q :: rest) := by
  simp only [leastLength, List.flatten_cons, List.length_append, List.length_cons]
  omega

theorem Filled.leastLength_le {parts : List Text} {s : Text} {years : List Int}
    (h : Filled parts s years) : leastLength parts ≤ s.length := by
  induction h with
  | nil => simp [leastLength]
  | last part => simp [leastLength]
  | gap part hgap _ ih =>
    have := hgap.four_le_length
    rw [leastLength_cons, List.length_append, List.length_append]
    omega

/-! ## Reading the years that were filled in -/

theorem yearNumeral_ofInt {year : Int} (h₁ : 1000 ≤ year) (h₂ : year ≤ 2999) :
    YearNumeral (ofInt year) year := by
  obtain ⟨t, ht, hyear⟩ := leadingYear?_eq_some_iff.1 (leadingYear?_ofInt h₁ h₂ [])
  rw [List.append_nil, List.append_nil] at ht
  exact ht ▸ hyear

theorem length_ofInt {year : Int} (h₁ : 1000 ≤ year) (h₂ : year ≤ 2999) :
    (ofInt year).length = 4 :=
  (yearNumeral_ofInt h₁ h₂).length

theorem length_joinWith {sep : Text} (hsep : sep.length = 4) (parts : List Text) :
    (joinWith sep parts).length = leastLength parts := by
  induction parts with
  | nil => rfl
  | cons p rest ih =>
    cases rest with
    | nil => simp [joinWith, leastLength]
    | cons q rest =>
      rw [leastLength_cons, ← ih, joinWith, List.length_append, List.length_append, hsep]

section Filled

variable {p q s : Text} {rest : List Text} {later : List Int} {first second : Int}

/-- A year is read as one year when what is left is too short for a second. -/
theorem matchParts_year (h₁ : 1000 ≤ first) (h₂ : first ≤ 2999)
    (hs : s.length = leastLength (q :: rest)) (hm : matchParts (q :: rest) s = some later) :
    matchParts (p :: q :: rest) (p ++ ofInt first ++ s) = some (first :: later) := by
  have hp : after? p (p ++ ofInt first ++ s) = some (ofInt first ++ s) :=
    after?_eq_some_iff.2 (List.append_assoc ..)
  have hrange : ∀ second s₂, (after? ", " s).bind leadingYear? = some (second, s₂) →
      matchParts (q :: rest) s₂ = none := by
    intro second s₂ hr
    obtain ⟨s₁, hc, hy⟩ := Option.bind_eq_some_iff.1 hr
    obtain ⟨t, rfl, hyear⟩ := leadingYear?_eq_some_iff.1 hy
    have hlen := length_of_after? hc
    rw [List.length_append, hyear.length] at hlen
    rw [Option.eq_none_iff_forall_not_mem]
    intro years hyears
    have := (filled_of_matchParts hyears).leastLength_le
    omega
  rw [matchParts, hp]
  · dsimp only
    rw [leadingYear?_ofInt h₁ h₂]
    dsimp only
    rw [Option.bind_eq_none_iff.2, Option.none_or, hm, Option.map_some]
    rintro ⟨second, s₂⟩ hr
    rw [hrange second s₂ hr]
    rfl
  · simp

/-- Two years with a comma between them are read as two. -/
theorem matchParts_years (h₁ : 1000 ≤ first) (h₂ : first ≤ 2999) (h₃ : 1000 ≤ second)
    (h₄ : second ≤ 2999) (hm : matchParts (q :: rest) s = some later) :
    matchParts (p :: q :: rest) (p ++ (ofInt first ++ ", " ++ ofInt second) ++ s) =
      some (first :: second :: later) := by
  have hp : after? p (p ++ (ofInt first ++ ", " ++ ofInt second) ++ s) =
      some (ofInt first ++ (", " ++ (ofInt second ++ s))) :=
    after?_eq_some_iff.2 (by simp)
  have hc : after? ", " (", " ++ (ofInt second ++ s)) = some (ofInt second ++ s) :=
    after?_eq_some_iff.2 rfl
  rw [matchParts, hp]
  · simp only [leadingYear?_ofInt h₁ h₂, hc, Option.bind_some, leadingYear?_ofInt h₃ h₄, hm,
      Option.map_some, Option.some_or]
  · simp

end Filled

section YearRange

/-- The years that a range names. -/
def rangeYears (start : Option Int) (current : Int) : List Int :=
  let first := start.getD current
  if first = current then [current] else [first, current]

variable (start : Option Int) (current : Int)

theorem earliest_flatten_replicate_rangeYears {n : Nat} (hn : 0 < n) :
    earliest (List.replicate n (rangeYears start current)).flatten =
      some (min (start.getD current) current) := by
  rw [earliest, List.min?_eq_some_iff]
  simp only [List.mem_flatten, List.mem_replicate, rangeYears]
  refine ⟨⟨_, ⟨by omega, rfl⟩, ?_⟩, ?_⟩
  · split
    · simp_all
    · rcases Int.le_total (start.getD current) current with h | h
      · simp [Int.min_eq_left h]
      · simp [Int.min_eq_right h]
  · rintro y ⟨years, ⟨-, rfl⟩, hy⟩
    split at hy
    · simp_all
    · rcases List.mem_cons.1 hy with rfl | hy
      · exact Int.min_le_left _ _
      · rw [List.mem_singleton.1 hy]
        exact Int.min_le_right _ _

variable {start current}
variable (h₁ : 1000 ≤ start.getD current) (h₂ : start.getD current ≤ 2999)
variable (h₃ : 1000 ≤ current) (h₄ : current ≤ 2999)
include h₁ h₂ h₃ h₄

/-- **The years that were filled in between parts are read back.** -/
theorem matchParts_joinWith (parts : List Text) :
    matchParts parts (joinWith (yearRange start current) parts) =
      some (List.replicate (parts.length - 1) (rangeYears start current)).flatten := by
  induction parts with
  | nil => rfl
  | cons p rest ih =>
    cases rest with
    | nil => simp [joinWith, matchParts]
    | cons q rest =>
      have hlen : (p :: q :: rest).length - 1 = (q :: rest).length - 1 + 1 := rfl
      rw [joinWith, hlen, List.replicate_succ, List.flatten_cons]
      simp only [yearRange, rangeYears] at ih ⊢
      split
      · next heq =>
        rw [if_pos heq, if_pos heq] at ih
        exact matchParts_year h₃ h₄ (length_joinWith (length_ofInt h₃ h₄) _) ih
      · next hne =>
        rw [if_neg hne, if_neg hne] at ih
        exact matchParts_years h₁ h₂ h₃ h₄ ih

/-- A license with years filled in is recognised by its template wherever it has a place for
years, and the earlier of the two is read. -/
theorem exists_templateYears?_eq_some {license : Text}
    (hparts : 1 < (splitOn yearsMacro (normalizeLicense license)).length) :
    ∃ years, templateYears? license (normalizeLicense (expandYears license start current)) =
      some years ∧ earliest years = some (min (start.getD current) current) := by
  rw [normalizeLicense_expandYears]
  exact ⟨_, matchParts_joinWith h₁ h₂ h₃ h₄ _,
    earliest_flatten_replicate_rangeYears start current (by omega)⟩

end YearRange

/-- A license with its years filled in is recognised by its template, and the earliest year that
is read is the start year. -/
theorem templateYears?_expandYears (start : Option Int) (current : Int)
    (h₁ : 1000 ≤ start.getD current) (h₂ : start.getD current ≤ current) (h₃ : current ≤ 2999)
    {license : Text} (hm : yearsMacro <:+: license) :
    ∃ years, templateYears? license (normalizeLicense (expandYears license start current)) =
      some years ∧ earliest years = some (start.getD current) := by
  have hparts := two_le_length_splitOn yearsMacro_ne_nil (infix_normalizeLicense hm)
  have h := exists_templateYears?_eq_some h₁ (Int.le_trans h₂ h₃)
    (Int.le_trans h₁ h₂) h₃ hparts
  rwa [Int.min_eq_left h₂] at h

/-! ## The years that are read -/

/-- A text that is recognised by a template with years in it has years itself. -/
theorem ne_nil_of_templateYears? {license s : Text} {years : List Int}
    (hm : yearsMacro <:+: license) (h : templateYears? license s = some years) : years ≠ [] := by
  have hparts := two_le_length_splitOn yearsMacro_ne_nil (infix_normalizeLicense hm)
  rw [Ne, (filled_of_matchParts h).eq_nil_iff]
  omega

/-! ## The block that fits -/

/-- **The template is matched by the first block that is the license but for its years**, and
gives the least of the years that stand there; nothing matches only when no block is such. A block
that says the license with its years filled in is always one, and gives the earlier of the two,
whatever the license has around its places for years. -/
theorem findTemplate?_firstFit (license : Text) (blocks : List Block) :
    (findTemplate? license blocks = none ↔
      ∀ b ∈ blocks, ∀ years, ¬ FitsTemplate license b.normalized years) ∧
    (∀ b year, findTemplate? license blocks = some (b, year) →
      (∃ front back, blocks = front ++ b :: back ∧
        ∀ c ∈ front, ∀ years, ¬ FitsTemplate license c.normalized years) ∧
      (∃ years, FitsTemplate license b.normalized years ∧ year = earliest years) ∧
      (year = none ↔ (splitOn yearsMacro (normalizeLicense license)).length = 1)) ∧
    ∀ start current : Int, 1000 ≤ start → start ≤ 2999 → 1000 ≤ current → current ≤ 2999 →
      1 < (splitOn yearsMacro (normalizeLicense license)).length →
      ∀ front b back, blocks = front ++ b :: back →
        (∀ c ∈ front, ∀ years, ¬ FitsTemplate license c.normalized years) →
        b.normalized = normalizeLicense (expandYears license (some start) current) →
        findTemplate? license blocks = some (b, some (min start current)) := by
  refine ⟨?_, fun b year h => ?_, ?_⟩
  · rw [findTemplate?_eq_none_iff]
    simp only [templateYears?_eq_none_iff]
  · obtain ⟨front, back, years, rfl, hfront, hb, rfl⟩ := findTemplate?_eq_some_iff.1 h
    have hfits := fitsTemplate_of_templateYears? hb
    refine ⟨⟨front, back, rfl, fun c hc => templateYears?_eq_none_iff.1 (hfront c hc)⟩,
      ⟨years, hfits, rfl⟩, ?_⟩
    have hpos := List.length_pos_iff.2 (splitOn_ne_nil yearsMacro (normalizeLicense license))
    have hnil := hfits.eq_nil_iff
    rw [earliest, List.min?_eq_none_iff, hnil]
    omega
  · intro start current h₁ h₂ h₃ h₄ hparts front b back hblocks hfront hb
    have hfirst : 1000 ≤ (some start).getD current := h₁
    obtain ⟨years, hyears, hmin⟩ := exists_templateYears?_eq_some hfirst h₂ h₃ h₄ hparts
    refine findTemplate?_eq_some_iff.2 ⟨front, back, years, hblocks, fun c hc => ?_, ?_, hmin.symm⟩
    · exact templateYears?_eq_none_iff.2 (hfront c hc)
    · rw [hb]
      exact hyears

/-- A license that goes on with a year itself, so that what was filled in could be read as a year
alone or with another after it. -/
def datedLicense : Text := yearsMacro ++ ", 2020 Acme"

theorem findTemplate?_firstFit_dated :
    1 < (splitOn yearsMacro (normalizeLicense datedLicense)).length ∧
    findTemplate? datedLicense [⟨["2019 Acme"], 1, 1, false, none⟩,
        ⟨["2024, 1999, 2020 Acme"], 3, 3, false, none⟩, ⟨["2018, 2020 Acme"], 5, 5, false, none⟩] =
      some (⟨["2024, 1999, 2020 Acme"], 3, 3, false, none⟩, some 1999) := by
  have hparts : 1 < (splitOn yearsMacro (normalizeLicense datedLicense)).length := by
    decide +kernel
  have hfirst : templateYears? datedLicense "2019 Acme" = none := by decide +kernel
  refine ⟨hparts, (findTemplate?_firstFit datedLicense _).2.2 2024 1999 (by decide) (by decide)
    (by decide) (by decide) hparts [⟨["2019 Acme"], 1, 1, false, none⟩] _
    [⟨["2018, 2020 Acme"], 5, 5, false, none⟩] rfl (fun c hc => ?_) (by decide +kernel)⟩
  obtain rfl := List.mem_singleton.1 hc
  exact templateYears?_eq_none_iff.1 hfirst

/-! ## The bounds of years -/

theorem bounds_of_mem_yearsAfter {prev : Char} {s : Text} :
    ∀ y ∈ yearsAfter prev s, 1000 ≤ y ∧ y ≤ 2999 := by
  induction s generalizing prev with
  | nil => simp [yearsAfter]
  | cons c s ih =>
    intro y hy
    unfold yearsAfter at hy
    split at hy
    · next year rest hl =>
      split at hy
      · rcases List.mem_cons.1 hy with rfl | hy
        · exact leadingYear?_bounds hl
        · exact ih y hy
      · exact ih y hy
    · exact ih y hy

theorem bounds_of_mem_copyrightYears {line : Text} :
    ∀ y ∈ copyrightYears line, 1000 ≤ y ∧ y ≤ 2999 := by
  intro y hy
  unfold copyrightYears at hy
  split at hy
  · exact bounds_of_mem_yearsAfter y hy
  · cases hy

end LicenseAudit
