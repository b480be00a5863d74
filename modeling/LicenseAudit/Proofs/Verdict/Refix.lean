import LicenseAudit.Proofs.License.Faithful
import LicenseAudit.Proofs.Verdict.Rebuilt

/-!
# Checking a fixed file again

A file that was fixed starts with the header it needs. When the start year is prescribed, or the
license does not name years, the second check compares with the same text and finds it. Otherwise
the second check has to read the start year back from the header: from the declaration, which is
why the license has to be year-faithful, or by the template.

What else is left in the file are blocks that survived the removal. They look like no declaration
and differ from the header, for otherwise they would have been removed, or the file matched. Where
there are two kinds of comments, a removal may bring others into view (`exposes_of_fixed`).
-/

namespace LicenseAudit

open Text

/-! ## What is left of the old blocks -/

namespace Document

variable {d : Document} {license : Text} {b : Block}

theorem not_isLicense_of_survives (h : d.Survives (d.declarations license) b) :
    b.isLicense = false := by
  obtain ⟨c, hc, hr, -, hl⟩ := h
  rw [← hl, Bool.eq_false_iff]
  intro hlike
  exact hr (d.mem_declarations_of_isLicense hc hlike)

theorem normalized_ne_of_survives {current : Int} {removed : List Block}
    (hn : d.findHeader? license current = none) (h : d.Survives removed b) :
    b.normalized ≠ d.expectedHeader license current := by
  obtain ⟨c, hc, -, hl, -⟩ := h
  have hne : c.normalized ≠ d.expectedHeader license current := by
    simpa using List.find?_eq_none.1 hn c hc
  rwa [Block.normalized, hl] at hne

end Document

/-- A fix with the usual notice, which the examples below ask for. -/
def acmeOrder : Order where
  license := notice "Acme"
  currentYear := 2024
  fix := true

/-! ## The fixed file -/

section Fixed

variable {path s newText : Text} {order : Order} {v : Verdict} {removed : List Block}

/-- What a fix removes and writes, in terms of the file that was judged. -/
theorem exists_rebuild_of_fixed {table : List Grammar}
    (hv : checkText? table path order s = some v) (hf : v.finding = .fixed removed newText) :
    ∃ d : Document, d = (Document.parse v.grammar s).settleYear order ∧
      v.startYear = d.startYear ∧ removed = d.declarations order.license ∧
      newText = d.rebuild removed v.grammar order.license order.currentYear := by
  obtain ⟨-, hcheck⟩ := checkText?_eq_some hv
  rw [hcheck] at hf
  obtain ⟨-, hremoved, hnew⟩ := Document.judge_eq_fixed _ order hf
  refine ⟨_, rfl, ?_, hremoved, hnew⟩
  rw [hcheck]
  rfl

theorem findHeader?_of_fixed {table : List Grammar}
    (hv : checkText? table path order s = some v) (hf : v.finding = .fixed removed newText) :
    ((Document.parse v.grammar s).settleYear order).findHeader? order.license order.currentYear =
      none := by
  obtain ⟨-, hcheck⟩ := checkText?_eq_some hv
  rw [hcheck] at hf
  exact (Document.judge_eq_fixed _ order hf).1

/-- A fixed file: its first block is the header, and the others survived or were exposed. -/
theorem exists_survivors_of_fixed (hv : checkText? builtinGrammars path order s = some v)
    (hf : v.finding = .fixed removed newText) (hs : DelimiterSafe v.grammar order.license) :
    ∃ (header : Block) (rest : List Block),
      (Document.parse v.grammar newText).blocks = header.annotate :: rest ∧
      header.IsHeader v.grammar (expandYears order.license v.startYear order.currentYear)
        (1 + (Document.parse v.grammar s).directiveLines.length) ∧
      ∀ b ∈ rest, (Document.parse v.grammar s).Survives removed b ∨
        Document.Exposes v.grammar (Document.parse v.grammar s) removed
          (Document.parse v.grammar newText) b := by
  obtain ⟨hg, -⟩ := checkText?_eq_some hv
  have hsyntax := builtinSyntax_of_mem (mem_of_lookupGrammar?_eq_some hg)
  obtain ⟨d, rfl, hyear, rfl, rfl⟩ := exists_rebuild_of_fixed hv hf
  have hread := (Document.readBy_parse v.grammar s).settleYear order
  obtain ⟨header, rest, hblocks, hheader, hrest⟩ := hread.exists_blocks_parse_rebuild
    hsyntax (fun r hr => Document.mem_blocks_of_declarations _ hr) hs order.currentYear
  rw [← hyear] at hheader
  exact ⟨header, rest, hblocks, hheader, hrest⟩

/-- What survived looks like no declaration, and is not the header that was missing. -/
theorem exists_blocks_of_fixed (hv : checkText? builtinGrammars path order s = some v)
    (hf : v.finding = .fixed removed newText) (hs : DelimiterSafe v.grammar order.license) :
    ∃ (header : Block) (rest : List Block),
      (Document.parse v.grammar newText).blocks = header.annotate :: rest ∧
      header.IsHeader v.grammar (expandYears order.license v.startYear order.currentYear)
        (1 + (Document.parse v.grammar s).directiveLines.length) ∧
      ∀ b ∈ rest, (b.isLicense = false ∧ b.normalized ≠ normalizeLicense
          (expandYears order.license v.startYear order.currentYear)) ∨
        Document.Exposes v.grammar (Document.parse v.grammar s) removed
          (Document.parse v.grammar newText) b := by
  obtain ⟨header, rest, hblocks, hheader, hrest⟩ := exists_survivors_of_fixed hv hf hs
  obtain ⟨d, hd, hyear, hremoved, -⟩ := exists_rebuild_of_fixed hv hf
  have hnone : d.findHeader? order.license order.currentYear = none :=
    hd ▸ findHeader?_of_fixed hv hf
  have hexpected : d.expectedHeader order.license order.currentYear =
      normalizeLicense (expandYears order.license v.startYear order.currentYear) := by
    rw [hyear, hd]
    exact Document.expectedHeader_settleYear _ _ _
  refine ⟨header, rest, hblocks, hheader, fun b hb => (hrest b hb).imp_left fun h => ?_⟩
  have hsurvives : d.Survives (d.declarations order.license) b := by
    rw [← hremoved, hd]
    exact h
  exact ⟨Document.not_isLicense_of_survives hsurvives,
    hexpected ▸ Document.normalized_ne_of_survives hnone hsurvives⟩

/-- A check finds the header when the first block is it. -/
theorem checkText?_eq_matched (order : Order) {table : List Grammar} {g : Grammar}
    {header : Block} {rest : List Block} (hg : lookupGrammar? table path = some g)
    (hb : (Document.parse g s).blocks = header :: rest)
    (hn : header.normalized = normalizeLicense (expandYears order.license
      ((Document.parse g s).settleYear order).startYear order.currentYear)) :
    checkText? table path order s = some ⟨g, Path.ofText path,
      ((Document.parse g s).settleYear order).startYear, .matched header⟩ := by
  have hblocks : ((Document.parse g s).settleYear order).blocks = header :: rest := hb
  have hfind : ((Document.parse g s).settleYear order).findHeader? order.license
      order.currentYear = some header := by
    rw [Document.findHeader?, Document.expectedHeader_settleYear, hblocks, List.find?_cons, hn]
    simp
  rw [checkText?, hg]
  simp only [Option.map_some, checkWith, Document.judge_eq_matched _ _ hfind]

/-- **A fix with the year settled from outside is final**: the start year is prescribed, or the
license names no years. -/
theorem matched_of_fixed_of_settled (hv : checkText? builtinGrammars path order s = some v)
    (hf : v.finding = .fixed removed newText) (hs : DelimiterSafe v.grammar order.license)
    (hyear : order.startYear.isSome ∨ ¬ yearsMacro <:+: order.license) (fix : Bool) :
    ∃ v' header, checkText? builtinGrammars path { order with fix } newText = some v' ∧
      v'.finding = .matched header ∧
      (Document.parse v.grammar newText).blocks.head? = some header := by
  obtain ⟨header, rest, hblocks, hheader, -⟩ := exists_blocks_of_fixed hv hf hs
  obtain ⟨hg, hcheck⟩ := checkText?_eq_some hv
  have hexpand : expandYears order.license v.startYear order.currentYear =
      expandYears order.license
        ((Document.parse v.grammar newText).settleYear { order with fix }).startYear
        order.currentYear := by
    rcases hyear with h | h
    · obtain ⟨year, hyear⟩ := Option.isSome_iff_exists.1 h
      have hold : v.startYear = some year := by
        rw [hcheck]
        exact Document.startYear_settleYear_of_isSome _ order hyear
      rw [hold, Document.startYear_settleYear_of_isSome _ { order with fix } hyear]
    · exact (replaceAll_eq_self_of_absent yearsMacro_ne_nil h).trans
        (replaceAll_eq_self_of_absent yearsMacro_ne_nil h).symm
  have hn : header.annotate.normalized = normalizeLicense (expandYears order.license
      ((Document.parse v.grammar newText).settleYear { order with fix }).startYear
      order.currentYear) := by
    rw [Block.normalized_annotate, hheader.shows.normalized, hexpand]
  exact ⟨_, _, checkText?_eq_matched { order with fix } hg hblocks hn, rfl,
    by rw [hblocks]; rfl⟩

/-- A script with a byte order mark, a directive and CR LF line endings. -/
def scriptText : Text := "\ufeff#!/usr/bin/env node\r\nlet x;\r\n"

def fixedScriptText : Text :=
  ("\ufeff#!/usr/bin/env node\r\n\r\n/**\r\n * Copyright (C) 1998, 2024 Acme\r\n */\r\n" ++
    "\r\nlet x;\r\n" : String)

/-- The start year of the script is prescribed. -/
def scriptOrder : Order := { acmeOrder with startYear := some 1998 }

def scriptVerdict : Verdict where
  grammar := slashGrammar "javascript" ["js", "mjs", "cjs", "jsx"]
  path := Path.ofText "a.js"
  startYear := some 1998
  finding := .fixed [] fixedScriptText

theorem matched_of_fixed_script :
    checkText? builtinGrammars "a.js" scriptOrder scriptText = some scriptVerdict ∧
    ∃ v' header,
      checkText? builtinGrammars "a.js" { scriptOrder with fix := true } fixedScriptText = some v' ∧
      v'.finding = .matched header ∧
      (Document.parse scriptVerdict.grammar fixedScriptText).blocks.head? = some header := by
  have hv : checkText? builtinGrammars "a.js" scriptOrder scriptText = some scriptVerdict := by
    decide +kernel
  exact ⟨hv, matched_of_fixed_of_settled hv rfl (by decide +kernel) (.inl rfl) true⟩

/-! ## The year read back -/

/-- The start year is read from the first block when it is the only declaration: from its own
year, or by the template. -/
theorem resolveYear_of_blocks_eq_cons {d : Document} {license : Text} {header : Block}
    {rest : List Block} {years : List Int} {year : Int} (hb : d.blocks = header :: rest)
    (hd : d.startYear = earliest (d.licenseBlocks.filterMap (·.year)))
    (hrest : ∀ b ∈ rest, b.isLicense = false)
    (hheader : header.isLicense = true → header.year = none ∨ header.year = some year)
    (ht : templateYears? license header.normalized = some years)
    (he : earliest years = some year) : d.resolveYear license = some year := by
  have hfilter : rest.filter (·.isLicense) = [] := by
    rw [List.filter_eq_nil_iff]
    intro b hm
    simp [hrest b hm]
  have htemplate : (findTemplate? license d.blocks).bind (·.2) = some year := by
    rw [hb, findTemplate?, ht]
    exact he
  have hstart : d.startYear = none ∨ d.startYear = some year := by
    rw [hd, Document.licenseBlocks, hb, List.filter_cons, hfilter]
    split
    · next hl =>
      rcases hheader hl with hy | hy
      · exact .inl (by simp [hy, earliest])
      · exact .inr (by simp [hy, earliest])
    · exact .inl rfl
  rcases hstart with h | h
  · rw [Document.resolveYear, h]
    exact htemplate
  · rw [Document.resolveYear, h]

/-- The start year is read back from the header when nothing else is a declaration: the header
names it itself or not at all, and it is the template with its years filled in. -/
theorem resolveYear_of_isHeader {g : Grammar} {license : Text} {header : Block} {rest : List Block}
    {number first current : Int} (hb : (Document.parse g s).blocks = header.annotate :: rest)
    (hheader : header.IsHeader g (expandYears license (some first) current) number)
    (hrest : ∀ b ∈ rest, b.isLicense = false) (hnamed : yearsMacro <:+: license)
    (hfaithful : YearFaithful license) (h₁ : 1000 ≤ first) (h₂ : first ≤ current)
    (h₃ : current ≤ 2999) : (Document.parse g s).resolveYear license = some first := by
  obtain ⟨years, ht, he⟩ := templateYears?_expandYears (some first) current h₁ h₂ h₃ hnamed
  rw [← hheader.shows.normalized, ← Block.normalized_annotate] at ht
  have hown : header.annotate.isLicense = true →
      header.annotate.year = none ∨ header.annotate.year = some first := by
    intro hl
    rw [Block.year_annotate hl hheader.unmarked, hheader.shows.earliestCopyrightYear]
    exact hfaithful first current h₁ h₂ h₃
  exact resolveYear_of_blocks_eq_cons hb (Document.startYear_parse g s) hrest hown ht he

/-- The first year that a header names is a year. -/
theorem le_startYear_getD (hv : checkText? builtinGrammars path order s = some v)
    (hyear : order.startYear = none) (hcurrent : 1000 ≤ order.currentYear) :
    1000 ≤ v.startYear.getD order.currentYear := by
  cases hy : v.startYear with
  | none => exact hcurrent
  | some y =>
    rw [startYear_of_checkText? hv hyear] at hy
    exact (Document.bounds_of_resolveYear_parse hy).1

/-- **Fixing is idempotent** where there is one kind of comments: a fixed file is in order, names
the year it named before, and declares no license but in its header. -/
theorem matched_of_fixed (hv : checkText? builtinGrammars path order s = some v)
    (hf : v.finding = .fixed removed newText) (hs : DelimiterSafe v.grammar order.license)
    (hkind : v.grammar.lineComments = [] ∨ v.grammar.blockComments = [])
    (hnamed : yearsMacro <:+: order.license) (hfaithful : YearFaithful order.license)
    (hyear : order.startYear = none) (hcurrent : 1000 ≤ order.currentYear)
    (hcurrent' : order.currentYear ≤ 2999) (hstart : ∀ y ∈ v.startYear, y ≤ order.currentYear)
    (fix : Bool) :
    ∃ v' header rest, checkText? builtinGrammars path { order with fix } newText = some v' ∧
      v'.finding = .matched header ∧
      (Document.parse v.grammar newText).blocks = header :: rest ∧
      v'.startYear = some (v.startYear.getD order.currentYear) ∧
      ∀ b ∈ rest, b.isLicense = false ∧ b.normalized ≠
        normalizeLicense (expandYears order.license v'.startYear order.currentYear) := by
  obtain ⟨header, rest, hblocks, hheader, hrest⟩ := exists_blocks_of_fixed hv hf hs
  have hlower := le_startYear_getD hv hyear hcurrent
  have hupper : v.startYear.getD order.currentYear ≤ order.currentYear := by
    cases hy : v.startYear with
    | none => exact Int.le_refl _
    | some y => exact hstart y hy
  replace hrest : ∀ b ∈ rest, b.isLicense = false ∧ b.normalized ≠ normalizeLicense
      (expandYears order.license v.startYear order.currentYear) := by
    intro b hb
    exact (hrest b hb).resolve_right (Document.not_exposes hkind _ _ _ _)
  -- with the start year unknown, the header names the current year
  have hexpand : expandYears order.license v.startYear order.currentYear = expandYears
      order.license (some (v.startYear.getD order.currentYear)) order.currentYear := rfl
  rw [hexpand] at hheader hrest
  generalize v.startYear.getD order.currentYear = first at hlower hupper hheader hrest ⊢
  have hsettled : ((Document.parse v.grammar newText).settleYear { order with fix }).startYear =
      some first := by
    rw [Document.startYear_settleYear_of_eq_none _ { order with fix } hyear]
    exact resolveYear_of_isHeader hblocks hheader (fun b hb => (hrest b hb).1) hnamed hfaithful
      hlower hupper hcurrent'
  have hn : header.annotate.normalized = normalizeLicense (expandYears order.license
      ((Document.parse v.grammar newText).settleYear { order with fix }).startYear
      order.currentYear) := by
    rw [Block.normalized_annotate, hheader.shows.normalized, hsettled]
  obtain ⟨hg, -⟩ := checkText?_eq_some hv
  refine ⟨_, _, rest, checkText?_eq_matched { order with fix } hg hblocks hn, rfl, hblocks,
    hsettled, ?_⟩
  intro b hb
  dsimp only
  rw [hsettled]
  exact hrest b hb

/-- A module with an outdated header. -/
def moduleText : Text := "# Copyright (C) 2019 Acme\nx = 1\n"

def fixedModuleText : Text := "#\n# Copyright (C) 2019, 2024 Acme\n#\n\nx = 1\n"

def moduleVerdict : Verdict where
  grammar := hashGrammar "python" ["py"]
  path := Path.ofText "a.py"
  startYear := some 2019
  finding := .fixed [⟨["Copyright (C) 2019 Acme"], 1, 1, true, some 2019⟩] fixedModuleText

theorem matched_of_fixed_module :
    checkText? builtinGrammars "a.py" acmeOrder moduleText = some moduleVerdict ∧
    ∃ v' header rest,
      checkText? builtinGrammars "a.py" { acmeOrder with fix := true } fixedModuleText = some v' ∧
      v'.finding = .matched header ∧
      (Document.parse moduleVerdict.grammar fixedModuleText).blocks = header :: rest ∧
      v'.startYear = some 2019 ∧
      ∀ b ∈ rest, b.isLicense = false ∧ b.normalized ≠
        normalizeLicense (expandYears acmeOrder.license v'.startYear acmeOrder.currentYear) := by
  have hv : checkText? builtinGrammars "a.py" acmeOrder moduleText = some moduleVerdict := by
    decide +kernel
  have hholder : IsHolder "Acme" := ⟨rfl, by decide, by simp⟩
  exact ⟨hv, matched_of_fixed hv rfl (by decide +kernel) (.inr rfl)
    ⟨"Copyright (C) ", " Acme", rfl⟩ (yearFaithful_notice hholder) rfl (by decide) (by decide)
    (by decide) true⟩

/-! ## What a removal may expose -/

/-- **Every declaration that a fixed file still holds behind its header came into view by the
removal.** It begins at a kept line on which no block of the old file began, and so do all blocks in
front of it down to one that begins at an opener which came directly after a removed run of line
comments. The header is the first block, behind the directive and its empty line. -/
theorem exposes_of_fixed (hv : checkText? builtinGrammars path order s = some v)
    (hf : v.finding = .fixed removed newText) (hs : DelimiterSafe v.grammar order.license) :
    ∃ header rest, (Document.parse v.grammar newText).blocks = header :: rest ∧
      header.normalized =
        normalizeLicense (expandYears order.license v.startYear order.currentYear) ∧
      header.startLine = 1 + (Document.parse v.grammar s).directiveLines.length ∧
      ∀ b ∈ rest, b.isLicense = true →
        (Document.parse v.grammar s).BeginsAnew removed (Document.parse v.grammar newText) b ∧
          Document.Exposes v.grammar (Document.parse v.grammar s) removed
            (Document.parse v.grammar newText) b := by
  obtain ⟨header, rest, hblocks, hheader, hrest⟩ := exists_blocks_of_fixed hv hf hs
  refine ⟨_, rest, hblocks, ?_, ?_, fun b hb hl => ?_⟩
  · rw [Block.normalized_annotate, hheader.shows.normalized]
  · rw [Block.startLine_annotate, hheader.startLine]
  · rcases hrest b hb with ⟨h, -⟩ | h
    · rw [hl] at h
      cases h
    · exact ⟨h.beginsAnew (hblocks ▸ List.mem_cons_of_mem _ hb), h⟩

/-- A file in which a block comment comes directly after a run of line comments, both of them
declarations. -/
def adjacentText : Text :=
  "// Copyright (C) 2020 Foo\n/* Copyright (C) 2020 Bar */\ncode();\n"

def fixedAdjacentText : Text :=
  "/**\n * Copyright (C) 2020, 2024 Acme\n */\n\n/* Copyright (C) 2020 Bar */\ncode();\n"

def adjacentVerdict : Verdict where
  grammar := slashGrammar "javascript" ["js", "mjs", "cjs", "jsx"]
  path := Path.ofText "a.js"
  startYear := some 2020
  finding := .fixed [⟨["Copyright (C) 2020 Foo"], 1, 1, true, some 2020⟩] fixedAdjacentText

theorem checkText?_adjacentText :
    checkText? builtinGrammars "a.js" acmeOrder adjacentText = some adjacentVerdict := by
  decide +kernel

theorem exposes_of_fixed_adjacent :
    checkText? builtinGrammars "a.js" acmeOrder adjacentText = some adjacentVerdict ∧
    ∃ header rest,
      (Document.parse adjacentVerdict.grammar fixedAdjacentText).blocks = header :: rest ∧
      header.normalized =
        normalizeLicense (expandYears acmeOrder.license (some 2020) acmeOrder.currentYear) ∧
      header.startLine = 1 ∧
      ∀ b ∈ rest, b.isLicense = true →
        (Document.parse adjacentVerdict.grammar adjacentText).BeginsAnew
            [⟨["Copyright (C) 2020 Foo"], 1, 1, true, some 2020⟩]
            (Document.parse adjacentVerdict.grammar fixedAdjacentText) b ∧
          Document.Exposes adjacentVerdict.grammar
            (Document.parse adjacentVerdict.grammar adjacentText)
            [⟨["Copyright (C) 2020 Foo"], 1, 1, true, some 2020⟩]
            (Document.parse adjacentVerdict.grammar fixedAdjacentText) b :=
  ⟨checkText?_adjacentText, exposes_of_fixed checkText?_adjacentText rfl (by decide +kernel)⟩

/-- Removal is not complete where there are two kinds of comments: the declaration that came after
the run is still in the fixed file. -/
theorem not_forall_not_isLicense_of_fixed :
    ¬ ∀ (path s newText : Text) (order : Order) (v : Verdict) (removed : List Block),
      checkText? builtinGrammars path order s = some v → v.finding = .fixed removed newText →
      v.grammar.lineComments ≠ [] → v.grammar.blockComments ≠ [] → order.startYear = none →
      DelimiterSafe v.grammar order.license →
      ∀ b ∈ (Document.parse v.grammar newText).blocks.tail, b.isLicense = false := by
  intro h
  have hlicense := h "a.js" adjacentText fixedAdjacentText acmeOrder adjacentVerdict _
    checkText?_adjacentText rfl (by decide) (by decide) rfl (by decide +kernel)
    ⟨["Copyright (C) 2020 Bar"], 5, 5, true, some 2020⟩ (by decide +kernel)
  cases hlicense

end Fixed

end LicenseAudit
