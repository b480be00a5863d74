import LicenseAudit.Proofs.Comment.DirectScan
import LicenseAudit.Proofs.License.Recognition
import LicenseAudit.Verdict

/-!
# Marks, years and verdicts

What later modules use of a file that was read. Annotation changes the mark and the year of a
block only (`Block.extent_annotate`, `Block.lines_annotate`), and of a block that was just scanned
the mark says whether it looks like a declaration (`Block.isLicense_annotate`).

A start year that is settled stays settled (`Document.resolveYear_settleYear`), and one that was
read from a file is a year from 1000 to 2999 (`Document.bounds_of_resolveYear_parse`). A fix
happens when no block is the expected header; what it replaces are blocks of the file, all that
look like declarations among them (`Document.judge_eq_fixed`, `Document.mem_blocks_of_declarations`,
`Document.mem_declarations_of_isLicense`).
-/

namespace LicenseAudit

open Text

/-! ## Annotation -/

namespace Block

variable (b : Block)

theorem lines_annotate : b.annotate.lines = b.lines := by
  unfold annotate
  split <;> rfl

theorem extent_annotate :
    (b.annotate.startLine, b.annotate.endLine) = (b.startLine, b.endLine) := by
  unfold annotate
  split <;> rfl

theorem startLine_annotate : b.annotate.startLine = b.startLine :=
  congrArg Prod.fst b.extent_annotate

theorem normalized_annotate : b.annotate.normalized = b.normalized := by
  rw [normalized, lines_annotate, normalized]

variable {b}

theorem isLicense_annotate (h : b.isLicense = false) :
    b.annotate.isLicense = isLicenseLike b.normalized := by
  unfold annotate
  split <;> simp_all

theorem year_annotate (h : b.annotate.isLicense = true) (hb : b.isLicense = false) :
    b.annotate.year = earliestCopyrightYear b.lines := by
  rw [isLicense_annotate hb] at h
  rw [annotate, if_pos h]

end Block

theorem isLicense_of_mem_directScan {g : Grammar} {number : Int} {lines : List Text} {b : Block}
    (hb : b ∈ directScan g number lines) : b.isLicense = false := by
  fun_induction directScan g number lines with
  | case1 => cases hb
  | case2 => cases hb
  | case3 _ _ _ _ _ _ _ ih =>
    rcases List.mem_cons.1 hb with rfl | hb
    · rfl
    · exact ih hb
  | case4 _ _ _ _ _ _ ih =>
    rcases List.mem_cons.1 hb with rfl | hb
    · rfl
    · exact ih hb
  | case5 _ _ _ _ _ ih => exact ih hb

/-! ## Start years -/

theorem mem_of_earliest_eq_some {years : List Int} {year : Int} (h : earliest years = some year) :
    year ∈ years :=
  List.min?_mem h

theorem bounds_of_earliestCopyrightYear {lines : List Text} {year : Int}
    (h : earliestCopyrightYear lines = some year) : 1000 ≤ year ∧ year ≤ 2999 := by
  obtain ⟨line, -, hy⟩ := List.mem_flatMap.1 (mem_of_earliest_eq_some h)
  exact bounds_of_mem_copyrightYears year hy

theorem exists_of_findTemplate? {license : Text} {blocks : List Block} {b : Block}
    {year : Option Int} (h : findTemplate? license blocks = some (b, year)) :
    b ∈ blocks ∧ ∃ years, templateYears? license b.normalized = some years ∧
      year = earliest years := by
  obtain ⟨front, back, years, rfl, -, hyears, hyear⟩ := findTemplate?_eq_some_iff.1 h
  exact ⟨by simp, years, hyears, hyear⟩

theorem exists_findTemplate?_of_mem {license : Text} {blocks : List Block} {b : Block}
    {years : List Int} (hb : b ∈ blocks) (h : templateYears? license b.normalized = some years) :
    ∃ c year, findTemplate? license blocks = some (c, year) := by
  cases hfind : findTemplate? license blocks with
  | some found => exact ⟨found.1, found.2, rfl⟩
  | none =>
    have hnone := findTemplate?_eq_none_iff.1 hfind b hb
    rw [h] at hnone
    cases hnone

namespace Document

variable (d : Document) (g : Grammar) (s license : Text) (order : Order)

/-- The blocks of a file are those of the direct scanner, annotated. -/
theorem blocks_parse : (parse g s).blocks =
    (directScan g 1 ((parse g s).lines.map trim)).map Block.annotate := by
  show (annotate (Scanner.feedAll g {} 1 (parse g s).lines).finish.blocks).1 = _
  rw [Scanner.feedAll_idle]
  rfl

/-- The start year that a file names is the earliest year of its declarations. -/
theorem startYear_parse :
    (parse g s).startYear = earliest ((parse g s).licenseBlocks.filterMap (·.year)) := rfl

theorem resolveYear_settleYear :
    (d.settleYear order).resolveYear order.license = (d.settleYear order).startYear := by
  cases h : (order.startYear.or d.startYear) with
  | some year => simp [settleYear, resolveYear, h]
  | none =>
    simp only [settleYear, resolveYear, h]
    cases (findTemplate? order.license d.blocks).bind (·.2) <;> rfl

theorem startYear_settleYear_of_isSome {year : Int} (h : order.startYear = some year) :
    (d.settleYear order).startYear = some year := by
  simp [settleYear, resolveYear, h]

theorem startYear_settleYear_of_eq_none (h : order.startYear = none) :
    (d.settleYear order).startYear = d.resolveYear order.license := by
  rw [settleYear, h]
  rfl

theorem expectedHeader_settleYear (current : Int) :
    (d.settleYear order).expectedHeader order.license current =
      normalizeLicense (expandYears order.license (d.settleYear order).startYear current) := by
  rw [expectedHeader, resolveYear_settleYear]

variable {g s license}

/-- A mark says what the block looks like. -/
theorem isLicense_of_mem_parse {b : Block} (hb : b ∈ (parse g s).blocks) :
    b.isLicense = isLicenseLike b.normalized := by
  rw [blocks_parse] at hb
  obtain ⟨c, hc, rfl⟩ := List.mem_map.1 hb
  rw [Block.isLicense_annotate (isLicense_of_mem_directScan hc), Block.normalized_annotate]

theorem year_of_mem_parse {b : Block} (hb : b ∈ (parse g s).blocks) (hl : b.isLicense = true) :
    b.year = earliestCopyrightYear b.lines := by
  rw [blocks_parse] at hb
  obtain ⟨c, hc, rfl⟩ := List.mem_map.1 hb
  rw [Block.year_annotate hl (isLicense_of_mem_directScan hc), Block.lines_annotate]

/-- A start year that is read from a file is a year. -/
theorem bounds_of_resolveYear_parse {year : Int}
    (h : (parse g s).resolveYear license = some year) : 1000 ≤ year ∧ year ≤ 2999 := by
  unfold resolveYear at h
  split at h
  · next y hy =>
    obtain rfl := Option.some.inj h
    rw [startYear_parse] at hy
    obtain ⟨b, hb, hby⟩ := List.mem_filterMap.1 (mem_of_earliest_eq_some hy)
    obtain ⟨hb, hl⟩ := List.mem_filter.1 hb
    rw [year_of_mem_parse hb hl] at hby
    exact bounds_of_earliestCopyrightYear hby
  · obtain ⟨⟨b, y⟩, hf, hy⟩ := Option.bind_eq_some_iff.1 h
    obtain ⟨-, years, hm, rfl⟩ := exists_of_findTemplate? hf
    exact (filled_of_matchParts hm).bounds year (mem_of_earliest_eq_some hy)

/-! ## What a fix replaces -/

theorem mem_insertBlock {b c : Block} {blocks : List Block} :
    c ∈ insertBlock b blocks ↔ c = b ∨ c ∈ blocks := by
  induction blocks with
  | nil => simp [insertBlock]
  | cons e rest ih =>
    unfold insertBlock
    split
    · simp
    · simp only [List.mem_cons, ih]
      tauto

/-- What is replaced: what looks like a declaration, and the first copy of the license. -/
theorem mem_declarations_iff {b : Block} : b ∈ d.declarations license ↔
    (b ∈ d.blocks ∧ b.isLicense = true) ∨
      ∃ year, findTemplate? license d.blocks = some (b, year) := by
  have hlicense : ∀ {e : Block}, e ∈ d.licenseBlocks ↔ e ∈ d.blocks ∧ e.isLicense = true :=
    List.mem_filter
  rw [declarations]
  cases hfind : findTemplate? license d.blocks with
  | none => simp [hlicense]
  | some found =>
    obtain ⟨e, year⟩ := found
    have he := (exists_of_findTemplate? hfind).1
    have heq : (∃ y, some (e, year) = some (b, y)) ↔ b = e :=
      ⟨fun ⟨y, h⟩ => (Prod.mk.inj (Option.some.inj h)).1.symm, fun h => ⟨year, by rw [h]⟩⟩
    rw [heq]
    dsimp only
    split
    · next hl =>
      rw [hlicense]
      exact ⟨.inl, fun h => h.elim id fun h => h ▸ ⟨he, hl⟩⟩
    · rw [mem_insertBlock, hlicense, or_comm]

theorem mem_blocks_of_declarations {b : Block} (hb : b ∈ d.declarations license) :
    b ∈ d.blocks := by
  rcases (d.mem_declarations_iff).1 hb with ⟨hb, -⟩ | ⟨year, hfind⟩
  · exact hb
  · exact (exists_of_findTemplate? hfind).1

/-- Everything that looks like a declaration is replaced. -/
theorem mem_declarations_of_isLicense {b : Block} (hb : b ∈ d.blocks) (hl : b.isLicense = true) :
    b ∈ d.declarations license :=
  (d.mem_declarations_iff).2 (.inl ⟨hb, hl⟩)

theorem judge_eq_fixed {declarations : List Block} {newText : Text}
    (h : d.judge g order = .fixed declarations newText) :
    d.findHeader? order.license order.currentYear = none ∧
      declarations = d.declarations order.license ∧
      newText = d.rebuild declarations g order.license order.currentYear := by
  unfold judge at h
  split at h
  · cases h
  · next hn =>
    dsimp only at h
    split at h
    · obtain ⟨rfl, rfl⟩ := Finding.fixed.inj h
      exact ⟨hn, rfl, rfl⟩
    · cases h

theorem judge_eq_matched {b : Block}
    (h : d.findHeader? order.license order.currentYear = some b) :
    d.judge g order = .matched b := by
  rw [judge, h]

theorem findHeader?_of_judge_eq_matched {b : Block} (h : d.judge g order = .matched b) :
    d.findHeader? order.license order.currentYear = some b := by
  unfold judge at h
  split at h
  · next hfind =>
    rw [hfind, Finding.matched.inj h]
  · dsimp only at h
    split at h <;> cases h

end Document

/-! ## Checks -/

theorem checkText?_eq_some {table : List Grammar} {path s : Text} {order : Order} {v : Verdict}
    (h : checkText? table path order s = some v) :
    lookupGrammar? table path = some v.grammar ∧
      v = checkWith v.grammar (Path.ofText path) order s := by
  obtain ⟨g, hg, rfl⟩ := Option.map_eq_some_iff.1 h
  exact ⟨hg, rfl⟩

/-- A check names the start year that the file gives, unless one is prescribed. -/
theorem startYear_of_checkText? {table : List Grammar} {path s : Text} {order : Order} {v : Verdict}
    (h : checkText? table path order s = some v) (hyear : order.startYear = none) :
    v.startYear = (Document.parse v.grammar s).resolveYear order.license := by
  obtain ⟨-, hcheck⟩ := checkText?_eq_some h
  rw [hcheck]
  exact Document.startYear_settleYear_of_eq_none _ order hyear

end LicenseAudit
