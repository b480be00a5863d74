import LicenseAudit.Proofs.License.Earliest
import LicenseAudit.Proofs.License.Faithful

/-!
# The years of a header

A check puts the same years in every place of the macro, in the text that it compares blocks with
and in the header that it writes (`Verdict.Dated`): the current year alone, or the start year and
the current one. The start year is the one that is prescribed, else the least that a declaration of
the file names, else the least in the first copy of the license (`Recorded`). None of these is
compared with the current year, so the two years are in order exactly when the start year does not
lie after the current one (`dated_of_checkText?`).

That other years could not do in their place is seen from reading them back
(`le_of_joinWith_eq`).
-/

namespace LicenseAudit

open Text

/-! ## Years in order -/

/-- One year, or two with the earlier one first. -/
inductive OrderedYears : Text → Prop
  | one {year : Int} (h₁ : 1000 ≤ year) (h₂ : year ≤ 2999) : OrderedYears (ofInt year)
  | two {first second : Int} (h₁ : 1000 ≤ first) (h : first < second) (h₂ : second ≤ 2999) :
      OrderedYears (ofInt first ++ ", " ++ ofInt second)

theorem orderedYears_yearRange {start : Option Int} {current : Int}
    (h₁ : 1000 ≤ start.getD current) (h : start.getD current ≤ current) (h₂ : current ≤ 2999) :
    OrderedYears (yearRange start current) := by
  rw [yearRange]
  split
  · exact .one (by omega) h₂
  · exact .two h₁ (by omega) h₂

theorem OrderedYears.exists_eq_yearRange {years : Text} (h : OrderedYears years) :
    ∃ start current, 1000 ≤ start.getD current ∧ start.getD current ≤ current ∧ current ≤ 2999 ∧
      years = yearRange start current := by
  cases h with
  | @one year h₁ h₂ => exact ⟨none, year, h₁, Int.le_refl year, h₂, by simp [yearRange]⟩
  | @two first second h₁ h h₂ =>
    refine ⟨some first, second, h₁, Int.le_of_lt h, h₂, ?_⟩
    have hne : ¬ first = second := by omega
    simp [yearRange, hne]

theorem le_of_rangeYears_eq {start start' : Option Int} {current current' : Int}
    (h : rangeYears start current = rangeYears start' current')
    (hle : start'.getD current' ≤ current') : start.getD current ≤ current := by
  unfold rangeYears at h
  dsimp only at h
  split at h <;> split at h
  · omega
  · omega
  · cases h
  · obtain ⟨hfirst, hrest⟩ := List.cons.inj h
    obtain ⟨hsecond, -⟩ := List.cons.inj hrest
    omega

section ReadBack

variable {start : Option Int} {current : Int}
variable (h₁ : 1000 ≤ start.getD current) (h₂ : start.getD current ≤ 2999)
variable (h₃ : 1000 ≤ current) (h₄ : current ≤ 2999)
include h₁ h₂ h₃ h₄

/-- Where there is a place for years between parts, years in order are told from others. -/
theorem le_of_joinWith_eq {parts : List Text} (hparts : 1 < parts.length) {years : Text}
    (hyears : OrderedYears years)
    (h : joinWith (yearRange start current) parts = joinWith years parts) :
    start.getD current ≤ current := by
  obtain ⟨start', current', h₁', hle, h₂', rfl⟩ := hyears.exists_eq_yearRange
  have hread := matchParts_joinWith h₁ h₂ h₃ h₄ parts
  rw [h, matchParts_joinWith h₁' (by omega) (by omega) h₂'] at hread
  obtain ⟨n, hn⟩ : ∃ n, parts.length - 1 = n + 1 := ⟨parts.length - 2, by omega⟩
  have hflat := Option.some.inj hread
  have hlength := congrArg List.length hflat
  simp only [List.length_flatten, List.map_replicate, List.sum_replicate_nat, hn] at hlength
  rw [hn, List.replicate_succ, List.replicate_succ, List.flatten_cons, List.flatten_cons] at hflat
  have hfirst := Nat.eq_of_mul_eq_mul_left (Nat.succ_pos n) hlength
  exact le_of_rangeYears_eq (List.append_inj_left hflat hfirst).symm hle

theorem orderedYears_yearRange_iff :
    OrderedYears (yearRange start current) ↔ start.getD current ≤ current := by
  constructor
  · intro h
    have hparts : 1 < ([[], []] : List Text).length := by decide
    exact le_of_joinWith_eq h₁ h₂ h₃ h₄ hparts h rfl
  · exact fun h => orderedYears_yearRange h₁ h h₄

end ReadBack

/-! ## Where the start year comes from -/

/-- The years that the declarations among the blocks name. -/
def declaredYears (blocks : List Block) : Set Int := {y | ∃ b ∈ blocks, y ∈ b.declaredYears}

/-- What a check takes for the start year of a file with these blocks. -/
inductive Recorded (order : Order) (blocks : List Block) : Option Int → Prop
  /-- The year that is prescribed. -/
  | prescribed {year : Int} (h : order.startYear = some year) :
      Recorded order blocks (some year)
  /-- The least year that a declaration names. -/
  | declared {year : Int} (h : order.startYear = none)
      (hleast : IsLeast (declaredYears blocks) year) : Recorded order blocks (some year)
  /-- The least year that is read in the first copy of the license. There is none when the license
  has no place for years. -/
  | copied {front back : List Block} {b : Block} {years : List Int} {year : Option Int}
      (h : order.startYear = none) (hnone : declaredYears blocks = ∅)
      (hblocks : blocks = front ++ b :: back)
      (hfront : ∀ c ∈ front, ∀ years, ¬ FitsTemplate order.license c.normalized years)
      (hb : templateYears? order.license b.normalized = some years)
      (hyear : IsEarliest {y | y ∈ years} year) : Recorded order blocks year
  /-- No year. -/
  | unknown (h : order.startYear = none) (hnone : declaredYears blocks = ∅)
      (hfits : ∀ b ∈ blocks, ∀ years, ¬ FitsTemplate order.license b.normalized years) :
      Recorded order blocks none

/-- The start year is a year when the prescribed one is. -/
theorem Recorded.bounds {order : Order} {blocks : List Block} {year : Option Int}
    (h : Recorded order blocks year) (hstart : ∀ y ∈ order.startYear, 1000 ≤ y ∧ y ≤ 2999) :
    ∀ y ∈ year, 1000 ≤ y ∧ y ≤ 2999 := by
  intro y hy
  cases h with
  | prescribed h => exact hstart y (h.trans hy)
  | declared h hleast =>
    obtain rfl := Option.some.inj hy
    obtain ⟨b, -, -, line, -, hnames⟩ := hleast.1
    exact hnames.bounds
  | copied h hnone hblocks hfront hb hyear =>
    exact (filled_of_matchParts hb).bounds y ((isEarliest_iff.1 hyear).1 y hy)
  | unknown => cases hy

namespace Document

/-- The blocks that are marked are those that declare. -/
theorem isLicense_iff_declares {g : Grammar} {s : Text} {b : Block}
    (hb : b ∈ (parse g s).blocks) : b.isLicense = true ↔ b.Declares := by
  rw [isLicense_of_mem_parse hb]
  exact isLicenseLike_iff

theorem isEarliest_startYear_parse (g : Grammar) (s : Text) :
    IsEarliest (declaredYears (parse g s).blocks) (parse g s).startYear := by
  have hleast : ∀ b ∈ (parse g s).licenseBlocks, IsEarliest b.declaredYears b.year := by
    intro b hb
    obtain ⟨hmem, hl⟩ := List.mem_filter.1 hb
    have h := isEarliest_earliestCopyrightYear b.lines
    rw [year_of_mem_parse hmem hl]
    simpa [Block.declaredYears, (isLicense_iff_declares hmem).1 hl] using h
  have hset : declaredYears (parse g s).blocks =
      {y | ∃ b ∈ (parse g s).licenseBlocks, y ∈ b.declaredYears} := by
    ext y
    constructor
    · rintro ⟨b, hb, hy⟩
      exact ⟨b, List.mem_filter.2 ⟨hb, (isLicense_iff_declares hb).2 hy.1⟩, hy⟩
    · rintro ⟨b, hb, hy⟩
      exact ⟨b, List.mem_of_mem_filter hb, hy⟩
  rw [hset]
  exact isEarliest_filterMap hleast

/-- A file tells its start year when none is prescribed. -/
theorem recorded_resolveYear_parse (g : Grammar) (s : Text) {order : Order}
    (hstart : order.startYear = none) :
    Recorded order (parse g s).blocks ((parse g s).resolveYear order.license) := by
  have hleast := isEarliest_startYear_parse g s
  rw [resolveYear]
  cases hparse : (parse g s).startYear with
  | some year =>
    rw [hparse] at hleast
    exact .declared hstart hleast
  | none =>
    rw [hparse] at hleast
    dsimp only
    cases hfind : findTemplate? order.license (parse g s).blocks with
    | none =>
      refine .unknown hstart hleast fun b hb => ?_
      exact templateYears?_eq_none_iff.1 (findTemplate?_eq_none_iff.1 hfind b hb)
    | some found =>
      obtain ⟨b, year⟩ := found
      obtain ⟨front, back, years, hblocks, hfront, hb, rfl⟩ := findTemplate?_eq_some_iff.1 hfind
      refine .copied hstart hleast hblocks (fun c hc => ?_) hb (isEarliest_earliest years)
      exact templateYears?_eq_none_iff.1 (hfront c hc)

end Document

/-! ## Where the years go -/

/-- The years stand in every place of the macro: in the text that blocks are compared with, and in
the header that is written. -/
structure Verdict.Dated (v : Verdict) (order : Order) (d : Document) (years : Text) : Prop where
  /-- The text that a block has to say, -/
  expected : (d.settleYear order).expectedHeader order.license order.currentYear =
    normalizeLicense (replaceAll yearsMacro years order.license)
  /-- the header that is found by it, -/
  compared : ∀ header, v.finding = .matched header ↔ d.blocks.find? (fun b =>
    b.normalized == normalizeLicense (replaceAll yearsMacro years order.license)) = some header
  /-- and the text of a fixed file. -/
  written : ∀ removed newText, v.finding = .fixed removed newText → newText = d.byteOrderMark ++
    joinWith d.lineEnding.text (d.directiveLines ++
      renderHeader v.grammar (replaceAll yearsMacro years order.license) ++
      Document.separator (d.keptLines removed) ++ d.keptLines removed)

/-! ## What a check does -/

section Check

variable {table : List Grammar} {path s : Text} {order : Order} {v : Verdict}
variable (h : checkText? table path order s = some v)
include h

theorem recorded_of_checkText? :
    Recorded order (Document.parse v.grammar s).blocks v.startYear := by
  cases hstart : order.startYear with
  | some year =>
    obtain ⟨-, hcheck⟩ := checkText?_eq_some h
    have hyear : v.startYear = some year := by
      rw [hcheck]
      exact Document.startYear_settleYear_of_isSome _ order hstart
    rw [hyear]
    exact .prescribed hstart
  | none =>
    rw [startYear_of_checkText? h hstart]
    exact Document.recorded_resolveYear_parse v.grammar s hstart

theorem dated_yearRange : v.Dated order (Document.parse v.grammar s)
    (yearRange v.startYear order.currentYear) := by
  obtain ⟨-, hcheck⟩ := checkText?_eq_some h
  have hstart : v.startYear =
      ((Document.parse v.grammar s).settleYear order).startYear := congrArg Verdict.startYear hcheck
  have hfinding : v.finding =
      ((Document.parse v.grammar s).settleYear order).judge v.grammar order :=
    congrArg Verdict.finding hcheck
  have hexpected : ((Document.parse v.grammar s).settleYear order).expectedHeader order.license
      order.currentYear = normalizeLicense (replaceAll yearsMacro
        (yearRange v.startYear order.currentYear) order.license) := by
    rw [hstart]
    exact Document.expectedHeader_settleYear _ order order.currentYear
  refine ⟨hexpected, fun header => ?_, fun removed newText hfixed => ?_⟩
  · rw [← hexpected, hfinding]
    exact ⟨Document.findHeader?_of_judge_eq_matched _ order,
      Document.judge_eq_matched _ order⟩
  · rw [hfinding] at hfixed
    obtain ⟨-, -, hnew⟩ := Document.judge_eq_fixed _ order hfixed
    rw [hnew, hstart]
    rfl

variable (hstart : ∀ y ∈ order.startYear, 1000 ≤ y ∧ y ≤ 2999)
variable (hcurrent : 1000 ≤ order.currentYear ∧ order.currentYear ≤ 2999)
include hstart hcurrent

theorem bounds_of_checkText? :
    1000 ≤ v.startYear.getD order.currentYear ∧ v.startYear.getD order.currentYear ≤ 2999 := by
  cases hyear : v.startYear with
  | none => exact hcurrent
  | some year => exact (recorded_of_checkText? h).bounds hstart year hyear

/-- Years in order stand in place of the macros only where the start year allows it. -/
theorem le_of_dated (hm : yearsMacro <:+: order.license) {years : Text}
    (hyears : OrderedYears years) (hdated : v.Dated order (Document.parse v.grammar s) years) :
    v.startYear.getD order.currentYear ≤ order.currentYear := by
  obtain ⟨h₁, h₂⟩ := bounds_of_checkText? h hstart hcurrent
  obtain ⟨start, current, -, -, -, rfl⟩ := hyears.exists_eq_yearRange
  have heq : normalizeLicense (expandYears order.license v.startYear order.currentYear) =
      normalizeLicense (expandYears order.license start current) :=
    (dated_yearRange h).expected.symm.trans hdated.expected
  rw [normalizeLicense_expandYears, normalizeLicense_expandYears] at heq
  exact le_of_joinWith_eq h₁ h₂ hcurrent.1 hcurrent.2
    (two_le_length_splitOn yearsMacro_ne_nil (infix_normalizeLicense hm)) hyears heq

/-- **Every macro is expanded to the current year or to two years, the start year in front**, and
the two are in order unless the start year that is prescribed or recorded lies after the current
one. -/
theorem dated_of_checkText? :
    Recorded order (Document.parse v.grammar s).blocks v.startYear ∧
    ∃ years, v.Dated order (Document.parse v.grammar s) years ∧
      ((years = ofInt order.currentYear ∧ ∀ start ∈ v.startYear, start = order.currentYear) ∨
        ∃ start, v.startYear = some start ∧ start ≠ order.currentYear ∧
          years = ofInt start ++ ", " ++ ofInt order.currentYear) ∧
      (OrderedYears years ↔ ∀ start ∈ v.startYear, start ≤ order.currentYear) := by
  obtain ⟨h₁, h₂⟩ := bounds_of_checkText? h hstart hcurrent
  refine ⟨recorded_of_checkText? h, yearRange v.startYear order.currentYear, dated_yearRange h,
    ?_, ?_⟩
  · cases hyear : v.startYear with
    | none => exact .inl ⟨by simp [yearRange], by simp⟩
    | some start =>
      by_cases heq : start = order.currentYear
      · exact .inl ⟨by simp [yearRange, heq], by simpa using heq⟩
      · exact .inr ⟨start, rfl, heq, by simp [yearRange, heq]⟩
  · rw [orderedYears_yearRange_iff h₁ h₂ hcurrent.1 hcurrent.2]
    cases v.startYear <;> simp

end Check

/-! ## A start year after the current year -/

/-- A file that was dated in advance. -/
def advanceText : Text := "# Copyright (C) 2030 Acme\n\nx = 1\n"

def advanceOrder : Order where
  license := notice "Acme"
  currentYear := 2024
  fix := true

def advanceVerdict : Verdict where
  grammar := hashGrammar "python" ["py"]
  path := Path.ofText "a.py"
  startYear := some 2030
  finding := .fixed [⟨["Copyright (C) 2030 Acme"], 1, 1, true, some 2030⟩]
    "#\n# Copyright (C) 2030, 2024 Acme\n#\n\nx = 1\n"

theorem checkText?_advanceText :
    checkText? builtinGrammars "a.py" advanceOrder advanceText = some advanceVerdict := by
  decide +kernel

theorem dated_of_checkText?_advance :
    checkText? builtinGrammars "a.py" advanceOrder advanceText = some advanceVerdict ∧
    (∀ y ∈ advanceOrder.startYear, 1000 ≤ y ∧ y ≤ 2999) ∧
    (1000 ≤ advanceOrder.currentYear ∧ advanceOrder.currentYear ≤ 2999) ∧
    ∃ years, advanceVerdict.Dated advanceOrder
        (Document.parse advanceVerdict.grammar advanceText) years ∧
      years = "2030, 2024" ∧ ¬ OrderedYears years := by
  have hstart : ∀ y ∈ advanceOrder.startYear, 1000 ≤ y ∧ y ≤ 2999 := by simp [advanceOrder]
  have hcurrent : 1000 ≤ advanceOrder.currentYear ∧ advanceOrder.currentYear ≤ 2999 := by decide
  refine ⟨checkText?_advanceText, hstart, hcurrent, ?_⟩
  obtain ⟨-, years, hdated, hyears, hordered⟩ :=
    dated_of_checkText? checkText?_advanceText hstart hcurrent
  refine ⟨years, hdated, ?_, ?_⟩
  · rcases hyears with ⟨-, hsame⟩ | ⟨start, hfirst, -, rfl⟩
    · exact absurd (hsame 2030 rfl) (by decide)
    · obtain rfl := Option.some.inj hfirst
      decide
  · intro h
    exact absurd (hordered.1 h 2030 rfl) (by decide)

/-- A header whose first year is the prescribed one. -/
def reversedText : Text := "# Copyright (C) 2030, 2024 Acme\n"

def reversedOrder : Order where
  license := notice "Acme"
  currentYear := 2024
  startYear := some 2030

def reversedVerdict : Verdict where
  grammar := hashGrammar "python" ["py"]
  path := Path.ofText "a.py"
  startYear := some 2030
  finding := .matched ⟨["Copyright (C) 2030, 2024 Acme"], 1, 1, true, some 2024⟩

theorem checkText?_reversedText :
    checkText? builtinGrammars "a.py" reversedOrder reversedText = some reversedVerdict := by
  decide +kernel

/-- Years are not always in order: the header with the prescribed year before the current one,
which is earlier, is the right one. -/
theorem not_forall_orderedYears :
    ¬ ∀ (path s : Text) (order : Order) (v : Verdict),
      checkText? builtinGrammars path order s = some v →
      (∀ y ∈ order.startYear, 1000 ≤ y ∧ y ≤ 2999) →
      (1000 ≤ order.currentYear ∧ order.currentYear ≤ 2999) →
      ∃ years, v.Dated order (Document.parse v.grammar s) years ∧ OrderedYears years := by
  intro h
  have hstart : ∀ y ∈ reversedOrder.startYear, 1000 ≤ y ∧ y ≤ 2999 := by
    rintro y ⟨⟩
    decide
  have hcurrent : 1000 ≤ reversedOrder.currentYear ∧ reversedOrder.currentYear ≤ 2999 := by decide
  obtain ⟨years, hdated, hyears⟩ :=
    h "a.py" reversedText reversedOrder reversedVerdict checkText?_reversedText hstart hcurrent
  have hle := le_of_dated checkText?_reversedText hstart hcurrent (yearsMacro_infix_notice _)
    hyears hdated
  exact absurd hle (by decide)

end LicenseAudit
