import LicenseAudit.Proofs.Document.Accounting
import LicenseAudit.Proofs.License.Phrases
import LicenseAudit.Proofs.Verdict.Refix

/-!
# Copies that a fix leaves behind

A fix removes every block that looks like a declaration, and the first that is the license but for
its years (`Document.mem_declarations_iff`). When the license itself looks like a declaration, so
does every copy of it (`isLicenseLike_of_fitsTemplate`), and none is left. Otherwise one copy goes
and the others stay.

Where there is one kind of comments, the blocks behind the new header are exactly those that were
not removed, so the copies among them are exactly the later copies of the old file that look like
no declaration (`copies_of_fixed`). There can be some (`not_forall_not_fitsTemplate_of_fixed`).
-/

namespace LicenseAudit

open Text

/-! ## The copies in a file -/

namespace Document

variable {d : Document} {license : Text} {b c first : Block}

/-- The first block that is the license but for its years, and a block behind it that is so too. -/
structure LaterCopy (d : Document) (license : Text) (first c : Block) : Prop where
  split : ∃ front back, d.blocks = front ++ first :: back ∧ c ∈ back ∧
    ∀ e ∈ front, ∀ years, ¬ FitsTemplate license e.normalized years
  first_fits : ∃ years, FitsTemplate license first.normalized years
  fits : ∃ years, FitsTemplate license c.normalized years

theorem LaterCopy.mem (h : d.LaterCopy license first c) : c ∈ d.blocks := by
  obtain ⟨front, back, hblocks, hc, -⟩ := h.split
  rw [hblocks]
  exact List.mem_append_right _ (List.mem_cons_of_mem _ hc)

theorem LaterCopy.exists_findTemplate?_eq (h : d.LaterCopy license first c) :
    ∃ year, findTemplate? license d.blocks = some (first, year) := by
  obtain ⟨front, back, hblocks, -, hfront⟩ := h.split
  obtain ⟨years, hfits⟩ := h.first_fits
  obtain ⟨read, hread⟩ := Option.isSome_iff_exists.1 hfits.isSome_matchParts
  exact ⟨_, findTemplate?_eq_some_iff.2 ⟨front, back, read, hblocks,
    fun e he => templateYears?_eq_none_iff.2 (hfront e he), hread, rfl⟩⟩

/-- A later copy is not replaced when it looks like no declaration. -/
theorem LaterCopy.not_mem_declarations {count : Nat} (h : d.LaterCopy license first c)
    (hd : Spaced count d.blocks) (hl : c.isLicense = false) : c ∉ d.declarations license := by
  intro hmem
  rcases (d.mem_declarations_iff).1 hmem with ⟨-, hlike⟩ | ⟨year, hfind⟩
  · rw [hl] at hlike
    cases hlike
  · obtain ⟨year', hfirst⟩ := h.exists_findTemplate?_eq
    obtain rfl : c = first := (Prod.mk.inj (Option.some.inj (hfind.symm.trans hfirst))).1
    obtain ⟨front, back, hblocks, hc, -⟩ := h.split
    have hle := (hd.within c h.mem).2.1
    have hapart := hd.apart
    rw [hblocks] at hapart
    have hlt := (List.pairwise_cons.1 (List.pairwise_append.1 hapart).2.1).1 c hc
    omega

/-- A copy that is not replaced comes behind the first, and looks like no declaration. -/
theorem exists_laterCopy_of_not_mem {years : List Int} (hc : c ∈ d.blocks)
    (hfits : FitsTemplate license c.normalized years) (hr : c ∉ d.declarations license) :
    (∃ first, d.LaterCopy license first c) ∧ c.isLicense = false := by
  rw [mem_declarations_iff, not_or] at hr
  obtain ⟨read, hread⟩ := Option.isSome_iff_exists.1 hfits.isSome_matchParts
  obtain ⟨first, year, hfind⟩ := exists_findTemplate?_of_mem hc hread
  obtain ⟨front, back, ys, hblocks, hfront, hys, -⟩ := findTemplate?_eq_some_iff.1 hfind
  have hfrontFits : ∀ e ∈ front, ∀ years, ¬ FitsTemplate license e.normalized years :=
    fun e he => templateYears?_eq_none_iff.1 (hfront e he)
  have hback : c ∈ back := by
    have hmem := hc
    rw [hblocks, List.mem_append, List.mem_cons] at hmem
    rcases hmem with hmem | rfl | hmem
    · exact absurd hfits (hfrontFits c hmem years)
    · exact absurd ⟨year, hfind⟩ hr.2
    · exact hmem
  refine ⟨⟨first, ⟨⟨front, back, hblocks, hback, hfrontFits⟩,
    ⟨ys, fitsTemplate_of_templateYears? hys⟩, ⟨years, hfits⟩⟩⟩, ?_⟩
  rw [Bool.eq_false_iff]
  exact fun hl => hr.1 ⟨hc, hl⟩

end Document

/-! ## The copies in a fixed file -/

section Fixed

variable {path s newText : Text} {order : Order} {v : Verdict} {removed : List Block}

/-- Where there is one kind of comments, what the blocks behind the header say is what was said by
the blocks that are not replaced. -/
theorem exists_contents_of_fixed (hv : checkText? builtinGrammars path order s = some v)
    (hf : v.finding = .fixed removed newText) (hs : DelimiterSafe v.grammar order.license)
    (hkind : v.grammar.lineComments = [] ∨ v.grammar.blockComments = []) :
    ∃ header rest, (Document.parse v.grammar newText).blocks = header :: rest ∧
      header.normalized =
        normalizeLicense (expandYears order.license v.startYear order.currentYear) ∧
      ∀ content, content ∈ rest.map (·.lines) ↔ ∃ c ∈ (Document.parse v.grammar s).blocks,
        c ∉ (Document.parse v.grammar s).declarations order.license ∧ c.lines = content := by
  obtain ⟨hg, -⟩ := checkText?_eq_some hv
  have hsyntax := builtinSyntax_of_mem (mem_of_lookupGrammar?_eq_some hg)
  obtain ⟨d, rfl, hyear, rfl, rfl⟩ := exists_rebuild_of_fixed hv hf
  have hread := (Document.readBy_parse v.grammar s).settleYear order
  have hamong : ∀ r ∈ ((Document.parse v.grammar s).settleYear order).declarations order.license,
      r ∈ (Document.parse v.grammar s).blocks := fun r hr =>
    Document.mem_blocks_of_declarations _ hr
  obtain ⟨header, rest, hblocks, hheader, hrest⟩ :=
    hread.exists_contents_parse_rebuild hsyntax hkind hamong hs order.currentYear
  refine ⟨_, rest, hblocks, ?_, fun content => ?_⟩
  · rw [Block.normalized_annotate, hheader.shows.normalized, hyear]
  · -- among the blocks of one file, a block is replaced when its lines are
    have hextent : ∀ c ∈ (Document.parse v.grammar s).blocks,
        c.extent ∉ (((Document.parse v.grammar s).settleYear order).declarations
          order.license).map Block.extent ↔
        c ∉ (Document.parse v.grammar s).declarations order.license := by
      intro c hc
      refine not_congr ⟨fun h => ?_, List.mem_map_of_mem⟩
      obtain ⟨r, hr, he⟩ := List.mem_map.1 h
      have hspaced := Document.spaced_parse v.grammar s
      exact hspaced.eq_of_extent_eq (hamong r hr) hc he ▸ hr
    rw [hrest, mem_contentsLeft]
    exact exists_congr fun c => and_congr_right fun hc => and_congr_left' (hextent c hc)

/-- **The copies that a fix leaves behind are the later ones.** What a block behind the new header
says is the license but for its years exactly when it was said by a copy behind the first that
looked like no declaration. There is none when the license looks like a declaration. -/
theorem copies_of_fixed (hv : checkText? builtinGrammars path order s = some v)
    (hf : v.finding = .fixed removed newText) (hs : DelimiterSafe v.grammar order.license)
    (hkind : v.grammar.lineComments = [] ∨ v.grammar.blockComments = []) :
    ∃ header rest, (Document.parse v.grammar newText).blocks = header :: rest ∧
      header.normalized =
        normalizeLicense (expandYears order.license v.startYear order.currentYear) ∧
      (∀ content, (∃ b ∈ rest, b.lines = content ∧
          ∃ years, FitsTemplate order.license b.normalized years) ↔
        ∃ first c, (Document.parse v.grammar s).LaterCopy order.license first c ∧
          c.isLicense = false ∧ c.lines = content) ∧
      (isLicenseLike (normalizeLicense order.license) = true →
        ∀ b ∈ rest, ∀ years, ¬ FitsTemplate order.license b.normalized years) := by
  obtain ⟨header, rest, hblocks, hheader, hcontents⟩ := exists_contents_of_fixed hv hf hs hkind
  have hsame : ∀ {b c : Block}, b.lines = c.lines → b.normalized = c.normalized := by
    intro b c h
    rw [Block.normalized, h, Block.normalized]
  have hleft : ∀ b ∈ rest, ∀ years, FitsTemplate order.license b.normalized years →
      ∃ first c, (Document.parse v.grammar s).LaterCopy order.license first c ∧
        c.isLicense = false ∧ c.lines = b.lines := by
    intro b hb years hfits
    obtain ⟨c, hc, hr, hlines⟩ := (hcontents b.lines).1 (List.mem_map_of_mem hb)
    rw [← hsame hlines] at hfits
    obtain ⟨⟨first, hlater⟩, hl⟩ := Document.exists_laterCopy_of_not_mem hc hfits hr
    exact ⟨first, c, hlater, hl, hlines⟩
  refine ⟨header, rest, hblocks, hheader, fun content => ⟨?_, ?_⟩, fun hlike b hb years hfits => ?_⟩
  · rintro ⟨b, hb, rfl, years, hfits⟩
    exact hleft b hb years hfits
  · rintro ⟨first, c, hlater, hl, rfl⟩
    have hr := hlater.not_mem_declarations (Document.spaced_parse v.grammar s) hl
    obtain ⟨b, hb, hlines⟩ := List.mem_map.1 ((hcontents c.lines).2 ⟨c, hlater.mem, hr, rfl⟩)
    exact ⟨b, hb, hlines, hsame hlines ▸ hlater.fits⟩
  · obtain ⟨first, c, hlater, hl, -⟩ := hleft b hb years hfits
    obtain ⟨ys, hys⟩ := hlater.fits
    rw [Document.isLicense_of_mem_parse hlater.mem] at hl
    rw [isLicenseLike_of_fitsTemplate hys hlike] at hl
    cases hl

/-! ## A file with two copies -/

/-- A license that looks like no declaration. -/
def plainOrder : Order where
  license := "Copyright " ++ yearsMacro ++ " Acme"
  currentYear := 2024
  fix := true

/-- A module with two outdated headers. -/
def copiesText : Text := "# Copyright 2018 Acme\n\n# Copyright 2019 Acme\n\nx = 1\n"

def fixedCopiesText : Text :=
  "#\n# Copyright 2018, 2024 Acme\n#\n\n# Copyright 2019 Acme\n\nx = 1\n"

def copiesVerdict : Verdict where
  grammar := hashGrammar "python" ["py"]
  path := Path.ofText "a.py"
  startYear := some 2018
  finding := .fixed [⟨["Copyright 2018 Acme"], 1, 1, false, none⟩] fixedCopiesText

theorem checkText?_copiesText :
    checkText? builtinGrammars "a.py" plainOrder copiesText = some copiesVerdict := by
  decide +kernel

theorem copies_of_fixed_plain :
    checkText? builtinGrammars "a.py" plainOrder copiesText = some copiesVerdict ∧
    ∃ header rest, (Document.parse copiesVerdict.grammar fixedCopiesText).blocks = header :: rest ∧
      header.normalized = normalizeLicense
        (expandYears plainOrder.license copiesVerdict.startYear plainOrder.currentYear) ∧
      (∀ content, (∃ b ∈ rest, b.lines = content ∧
          ∃ years, FitsTemplate plainOrder.license b.normalized years) ↔
        ∃ first c,
          (Document.parse copiesVerdict.grammar copiesText).LaterCopy plainOrder.license first c ∧
          c.isLicense = false ∧ c.lines = content) ∧
      (isLicenseLike (normalizeLicense plainOrder.license) = true →
        ∀ b ∈ rest, ∀ years, ¬ FitsTemplate plainOrder.license b.normalized years) :=
  ⟨checkText?_copiesText,
    copies_of_fixed checkText?_copiesText rfl (by decide +kernel) (.inr rfl)⟩

/-- A fixed file is not free of outdated copies: the second header is still there. -/
theorem not_forall_not_fitsTemplate_of_fixed :
    ¬ ∀ (path s newText : Text) (order : Order) (v : Verdict) (removed : List Block),
      checkText? builtinGrammars path order s = some v → v.finding = .fixed removed newText →
      DelimiterSafe v.grammar order.license →
      v.grammar.lineComments = [] ∨ v.grammar.blockComments = [] →
      yearsMacro <:+: order.license → order.startYear = none →
      1000 ≤ order.currentYear → order.currentYear ≤ 2999 →
      ∀ b ∈ (Document.parse v.grammar newText).blocks.tail, ∀ years,
        ¬ FitsTemplate order.license b.normalized years := by
  intro h
  have hfits : templateYears? plainOrder.license "Copyright 2019 Acme" = some [2019] := by
    decide +kernel
  exact h "a.py" copiesText fixedCopiesText plainOrder copiesVerdict _ checkText?_copiesText rfl
    (by decide +kernel) (.inr rfl) ⟨"Copyright ", " Acme", rfl⟩ rfl (by decide) (by decide)
    ⟨["Copyright 2019 Acme"], 5, 5, false, none⟩ (by decide +kernel) [2019]
    (fitsTemplate_of_templateYears? hfits)

end Fixed

end LicenseAudit
