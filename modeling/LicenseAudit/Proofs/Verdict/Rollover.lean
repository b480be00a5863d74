import LicenseAudit.Proofs.Document.Accounting
import LicenseAudit.Proofs.Verdict.Refix

/-!
# A header renewed

When the year has changed, a fixed file is fixed again. A fixed file starts with its header and
declares a license nowhere else (`Headed`, `exists_headed_of_fixed`), so the next check reads its
start year from the header (`Headed.startYear_eq`), and the next fix removes the header and nothing
else (`Headed.declarations_eq`, `Headed.keptLines_eq`). It leaves a file of the same kind behind
(`Headed.exists_headed_of_fixed`).

The new header stands where the old one stood, and the lines behind it are the same but for one
thing: in a file with a directive the two empty lines in front of the header, the rest of the
directive's line and the blank line after it, are lines of the file. They are kept, and written
once more behind the new header (`renewed_of_fixed_of_fixed`). So such a file grows by two
empty lines with every renewal (`not_forall_length_lines_eq_of_fixed_of_fixed`).
-/

namespace LicenseAudit

open Text

theorem startYear_getD_le {v : Verdict} {current : Int} (h : ∀ y ∈ v.startYear, y ≤ current) :
    v.startYear.getD current ≤ current := by
  cases hy : v.startYear with
  | none => exact Int.le_refl _
  | some y => exact h y hy

/-! ## Files with one header -/

/-- The text of a file with a header for these years: behind the empty lines that a directive
brings along come the header and the lines `back`, and the header is the only declaration. -/
structure Headed (g : Grammar) (license : Text) (first current : Int) (header : Block)
    (back : List Text) (s : Text) : Prop where
  lines : (Document.parse g s).lines =
    List.replicate (Document.parse g s).directiveLines.length [] ++
      renderHeader g (expandYears license (some first) current) ++ back
  /-- The lines behind the header need no separator. -/
  separated : Document.separator back = []
  isHeader : header.IsHeader g (expandYears license (some first) current)
    (1 + (Document.parse g s).directiveLines.length)
  blocks : ∃ rest, (Document.parse g s).blocks = header.annotate :: rest ∧
    ∀ b ∈ rest, b.isLicense = false

section Fixed

variable {path s newText : Text} {order : Order} {v : Verdict} {removed : List Block}

theorem separator_separator_append (kept : List Text) :
    Document.separator (Document.separator kept ++ kept) = [] := by
  cases kept with
  | nil => rfl
  | cons line rest =>
    cases h : isAllBlank line
    · rw [Document.separator, h]
      rfl
    · have hnone : Document.separator (line :: rest) = [] := by rw [Document.separator, h]; rfl
      rw [hnone, List.nil_append, hnone]

/-- **A fixed file has one header**: behind it come the kept lines. -/
theorem exists_headed_of_fixed (hv : checkText? builtinGrammars path order s = some v)
    (hf : v.finding = .fixed removed newText) (hs : DelimiterSafe v.grammar order.license)
    (hkind : v.grammar.lineComments = [] ∨ v.grammar.blockComments = []) :
    let kept := (Document.parse v.grammar s).keptLines removed
    (Document.parse v.grammar newText).byteOrderMark =
        (Document.parse v.grammar s).byteOrderMark ∧
      (Document.parse v.grammar newText).directive = (Document.parse v.grammar s).directive ∧
      ∃ header, Headed v.grammar order.license (v.startYear.getD order.currentYear)
        order.currentYear header (Document.separator kept ++ kept) newText := by
  intro kept
  obtain ⟨hg, -⟩ := checkText?_eq_some hv
  have hsyntax := builtinSyntax_of_mem (mem_of_lookupGrammar?_eq_some hg)
  obtain ⟨first, rest, hblocks, -, hrest⟩ := exists_blocks_of_fixed hv hf hs
  obtain ⟨d, hd, hyear, -, hnew⟩ := exists_rebuild_of_fixed hv hf
  have hread : d.ReadBy v.grammar := hd ▸ (Document.readBy_parse v.grammar s).settleYear order
  have hkept : d.keptLines removed = kept := by rw [hd]; rfl
  obtain ⟨hmark, hdirective, hlines⟩ :=
    hread.toPhysical.parse_rebuild hsyntax removed order.license order.currentYear
  rw [← hnew] at hmark hdirective hlines
  have hlead : (Document.parse v.grammar newText).directiveLines = d.directiveLines := by
    rw [Document.directiveLines, hdirective, Document.directiveLines]
  obtain ⟨header, hheader, hscan⟩ :=
    Document.directScan_bodyLines hsyntax hs d removed order.currentYear
  -- the header that is read is the first block of the new file
  have hfirst := Document.blocks_parse v.grammar newText
  rw [hlines, hscan, List.map_cons, hblocks, List.cons.injEq] at hfirst
  rw [← hyear] at hheader
  refine ⟨hmark.trans (by rw [hd]; rfl), hdirective.trans (by rw [hd]; rfl), header, ?_, ?_, ?_, ?_⟩
  · rw [hlines, Document.bodyLines, Document.leadLines, hlead, hkept, Document.headerLines, ← hyear]
    exact List.append_assoc ..
  · exact separator_separator_append kept
  · rw [hlead]
    exact hheader
  · refine ⟨rest, by rw [hblocks, hfirst.1], fun b hb => ?_⟩
    exact ((hrest b hb).resolve_right (Document.not_exposes hkind _ _ _ _)).1

end Fixed

/-! ## What the next check finds -/

namespace Headed

variable {g : Grammar} {license : Text} {first current : Int} {header : Block} {back : List Text}
variable {s : Text} (h : Headed g license first current header back s)
include h

/-- The start year is read from the header. -/
theorem resolveYear_eq (hnamed : yearsMacro <:+: license) (hfaithful : YearFaithful license)
    (h₁ : 1000 ≤ first) (h₂ : first ≤ current) (h₃ : current ≤ 2999) :
    (Document.parse g s).resolveYear license = some first := by
  obtain ⟨rest, hblocks, hrest⟩ := h.blocks
  exact resolveYear_of_isHeader hblocks h.isHeader hrest hnamed hfaithful h₁ h₂ h₃

/-- The header is all that a fix removes: it is the template with years in it, and nothing else is
a declaration. -/
theorem declarations_eq (hnamed : yearsMacro <:+: license) (h₁ : 1000 ≤ first)
    (h₂ : first ≤ current) (h₃ : current ≤ 2999) :
    (Document.parse g s).declarations license = [header.annotate] := by
  obtain ⟨rest, hblocks, hrest⟩ := h.blocks
  obtain ⟨years, ht, -⟩ := templateYears?_expandYears (some first) current h₁ h₂ h₃ hnamed
  rw [← h.isHeader.shows.normalized, ← Block.normalized_annotate] at ht
  have htemplate : findTemplate? license (Document.parse g s).blocks =
      some (header.annotate, earliest years) := by
    rw [hblocks, findTemplate?, ht]
  have hfilter : rest.filter (·.isLicense) = [] := by
    rw [List.filter_eq_nil_iff]
    intro b hb
    simp [hrest b hb]
  rw [Document.declarations, htemplate, Document.licenseBlocks, hblocks, List.filter_cons, hfilter]
  dsimp only
  split
  · rfl
  · rfl

/-- Without its header a file consists of the empty lines in front of it and the lines behind. -/
theorem keptLines_eq : (Document.parse g s).keptLines [header.annotate] =
    List.replicate (Document.parse g s).directiveLines.length [] ++ back := by
  obtain ⟨hs, he⟩ := Prod.mk.inj header.extent_annotate
  rw [h.isHeader.startLine] at hs
  have hend := h.isHeader.endLine
  rw [← he] at hend
  have hcovers : ∀ k, [header.annotate].any (·.covers k) = true ↔
      header.annotate.startLine ≤ k ∧ k ≤ header.annotate.endLine := by
    intro k
    rw [List.any_cons, List.any_nil, Bool.or_false, Block.covers_eq_true_iff]
  rw [Document.keptLines, h.lines]
  generalize (Document.parse g s).directiveLines.length = n at *
  generalize renderHeader g (expandYears license (some first) current) = lines at *
  have hlen : (List.replicate n ([] : Text)).length = n := List.length_replicate
  rw [Document.keepLines_append, Document.keepLines_append, List.length_append, hlen]
  have hfront : Document.keepLines [header.annotate] 1 (List.replicate n []) =
      List.replicate n [] := by
    refine Document.keepLines_eq_self fun k _ hk => ?_
    rw [Bool.eq_false_iff, Ne, hcovers]
    omega
  have hheader : Document.keepLines [header.annotate] (1 + n) lines = [] := by
    refine Document.keepLines_eq_nil fun k hk hk' => (hcovers k).2 ?_
    omega
  have hback : Document.keepLines [header.annotate] (1 + (n + lines.length : Nat)) back = back := by
    refine Document.keepLines_eq_self fun k hk _ => ?_
    rw [Bool.eq_false_iff, Ne, hcovers]
    omega
  rw [hfront, hheader, hback, List.append_nil]

omit h in
theorem separator_replicate_append {n : Nat} (hb : Document.separator back = []) :
    Document.separator (List.replicate n [] ++ back) = [] := by
  cases n with
  | zero => exact hb
  | succ n => rfl

section Check

variable {path newText : Text} {order : Order} {v : Verdict} {removed : List Block}

/-- The next check names the same start year. -/
theorem startYear_eq {table : List Grammar} (hv : checkText? table path order s = some v)
    (hg : v.grammar = g) (hl : order.license = license) (hnamed : yearsMacro <:+: license)
    (hfaithful : YearFaithful license) (hyear : order.startYear = none) (h₁ : 1000 ≤ first)
    (h₂ : first ≤ current) (h₃ : current ≤ 2999) : v.startYear = some first := by
  subst hg hl
  rw [startYear_of_checkText? hv hyear]
  exact h.resolveYear_eq hnamed hfaithful h₁ h₂ h₃

/-- **The next fix puts a new header in the place of the old one**, and what stood in front of the
header comes back behind it. -/
theorem exists_headed_of_fixed (hv : checkText? builtinGrammars path order s = some v)
    (hf : v.finding = .fixed removed newText) (hg : v.grammar = g) (hl : order.license = license)
    (hs : DelimiterSafe g license) (hkind : g.lineComments = [] ∨ g.blockComments = [])
    (hnamed : yearsMacro <:+: license) (hfaithful : YearFaithful license)
    (hyear : order.startYear = none) (h₁ : 1000 ≤ first) (h₂ : first ≤ current)
    (h₃ : current ≤ 2999) :
    removed = [header.annotate] ∧
      (Document.parse g newText).byteOrderMark = (Document.parse g s).byteOrderMark ∧
      (Document.parse g newText).directive = (Document.parse g s).directive ∧
      ∃ header', Headed g license first order.currentYear header'
        (List.replicate (Document.parse g s).directiveLines.length [] ++ back) newText := by
  have hstart := h.startYear_eq hv hg hl hnamed hfaithful hyear h₁ h₂ h₃
  subst hg hl
  obtain ⟨d, hd, -, hremoved, -⟩ := exists_rebuild_of_fixed hv hf
  have hheader : removed = [header.annotate] := by
    rw [hremoved, hd]
    exact h.declarations_eq hnamed h₁ h₂ h₃
  obtain ⟨hmark, hdirective, header', hnew⟩ := LicenseAudit.exists_headed_of_fixed hv hf hs hkind
  rw [hheader, h.keptLines_eq, separator_replicate_append h.separated, List.nil_append, hstart]
    at hnew
  exact ⟨hheader, hmark, hdirective, header', hnew⟩

end Check

end Headed

/-! ## The lines of a file that is fixed twice -/

section Twice

theorem contentLines_expandYears (license : Text) (start : Option Int) (current : Int) :
    contentLines (expandYears license start current) =
      (contentLines license).map fun line => expandYears line start current := by
  rw [contentLines, trim_expandYears, map_trim_splitLines_expandYears, contentLines]

/-- A header has as many lines in one year as in another. -/
theorem length_renderHeader_expandYears {g : Grammar} (hg : BuiltinSyntax g) (license : Text)
    (start start' : Option Int) (current current' : Int) :
    (renderHeader g (expandYears license start current)).length =
      (renderHeader g (expandYears license start' current')).length := by
  have hform : ∃ form : WriteForm, ∀ text, renderHeader g text = form.wrap (contentLines text) := by
    cases hg with
    | slash _ hb => exact ⟨_, fun _ => renderHeader_of_blockComments hb⟩
    | hash hl hb => exact ⟨_, fun _ => renderHeader_of_lineComments hl hb⟩
    | star _ hb => exact ⟨_, fun _ => renderHeader_of_blockComments hb⟩
    | markup _ hb => exact ⟨_, fun _ => renderHeader_of_blockComments hb⟩
  obtain ⟨form, hform⟩ := hform
  rw [hform, hform, length_wrap, length_wrap, contentLines_expandYears, contentLines_expandYears,
    List.length_map, List.length_map]

/-- The file `d'` is the file `d` but for its header `old`, which is one as long, and for the lines
in front of the header, which `d'` has once more behind it. -/
structure Document.Renewed (d : Document) (front : List Text) (old : Block)
    (header header' : List Text) (d' : Document) : Prop where
  byteOrderMark : d'.byteOrderMark = d.byteOrderMark
  directive : d'.directive = d.directive
  startLine : old.startLine = 1 + front.length
  endLine : old.endLine + 1 = old.startLine + header.length
  length : header'.length = header.length
  lines : ∃ back, d.lines = front ++ header ++ back ∧ d'.lines = front ++ header' ++ (front ++ back)

/-- So it is longer by the lines in front of its header. -/
theorem Document.Renewed.length_lines {d d' : Document} {front header header' : List Text}
    {old : Block} (h : d.Renewed front old header header' d') :
    d'.lines.length = d.lines.length + front.length := by
  obtain ⟨back, hlines, hlines'⟩ := h.lines
  have hlength := h.length
  rw [hlines, hlines']
  simp only [List.length_append]
  omega

variable {path s text₁ text₂ : Text} {order : Order} {v₁ v₂ : Verdict}
variable {removed₁ removed₂ : List Block} {later : Int}

/-- **Fixed again in a later year, a file has the same lines but for its header**, which is as long
as before and stands in the same place, and two empty lines more behind it when there is a
directive. -/
theorem renewed_of_fixed_of_fixed
    (hv₁ : checkText? builtinGrammars path order s = some v₁)
    (hf₁ : v₁.finding = .fixed removed₁ text₁)
    (hv₂ : checkText? builtinGrammars path { order with currentYear := later } text₁ = some v₂)
    (hf₂ : v₂.finding = .fixed removed₂ text₂) (hs : DelimiterSafe v₁.grammar order.license)
    (hkind : v₁.grammar.lineComments = [] ∨ v₁.grammar.blockComments = [])
    (hnamed : yearsMacro <:+: order.license) (hfaithful : YearFaithful order.license)
    (hyear : order.startYear = none) (hcurrent : 1000 ≤ order.currentYear)
    (hlater : order.currentYear < later) (hlater' : later ≤ 2999)
    (hstart : ∀ y ∈ v₁.startYear, y ≤ order.currentYear) :
    let before := Document.parse v₁.grammar text₁
    let after := Document.parse v₁.grammar text₂
    let header := fun current => renderHeader v₁.grammar
      (expandYears order.license (some (v₁.startYear.getD order.currentYear)) current)
    (∃ old, removed₂ = [old] ∧
      before.Renewed (if before.directive.isSome then [[], []] else []) old
        (header order.currentYear) (header later) after) ∧
      (ReturnFree order.license → after.lineEnding = before.lineEnding) := by
  intro before after header
  obtain ⟨hg₁, -⟩ := checkText?_eq_some hv₁
  obtain ⟨hg₂, -⟩ := checkText?_eq_some hv₂
  have hgrammar : v₂.grammar = v₁.grammar := Option.some.inj (hg₂.symm.trans hg₁)
  have hsyntax := builtinSyntax_of_mem (mem_of_lookupGrammar?_eq_some hg₁)
  have hlower := le_startYear_getD hv₁ hyear hcurrent
  have hupper := startYear_getD_le hstart
  obtain ⟨-, -, old, hold⟩ := exists_headed_of_fixed hv₁ hf₁ hs hkind
  obtain ⟨hremoved, hmark, hdirective, new, hnew⟩ := hold.exists_headed_of_fixed hv₂ hf₂ hgrammar
    rfl hs hkind hnamed hfaithful hyear hlower hupper (by omega)
  have hdirectiveLines : after.directiveLines = before.directiveLines := by
    rw [Document.directiveLines, hdirective, Document.directiveLines]
  obtain ⟨hstartLine, hendLine⟩ := Prod.mk.inj old.extent_annotate
  rw [← Document.replicate_directiveLines]
  refine ⟨⟨old.annotate, hremoved, hmark, hdirective, ?_, ?_,
    length_renderHeader_expandYears hsyntax _ _ _ _ _, _, hold.lines, ?_⟩, ?_⟩
  · rw [hstartLine, hold.isHeader.startLine, List.length_replicate]
  · rw [hstartLine, hendLine, hold.isHeader.startLine]
    exact hold.isHeader.endLine
  · rw [hnew.lines, hdirectiveLines]
  · intro hreturn
    obtain ⟨d, hd, -, -, htext⟩ := exists_rebuild_of_fixed hv₂ hf₂
    rw [hgrammar] at hd htext
    have hread := (Document.readBy_parse v₁.grammar text₁).settleYear
      { order with currentYear := later }
    have hending := hread.toPhysical.lineEnding_parse_rebuild hsyntax
      (Document.not_mem_of_lineEnding_parse (g := v₁.grammar) (s := text₁)) hreturn removed₂ later
    rw [← hd, ← htext, hd] at hending
    exact hending

end Twice

/-! ## A file that grows -/

theorem isHolder_acme : IsHolder "Acme" := ⟨rfl, by decide, by simp⟩

/-- A script with a directive, and what two fixes in a row make of it. -/
def shellText : Text := "#!/bin/sh\necho\n"

def fixedShellText : Text := "#!/bin/sh\n\n#\n# Copyright (C) 2024 Acme\n#\n\necho\n"

def renewedShellText : Text :=
  "#!/bin/sh\n\n#\n# Copyright (C) 2024, 2025 Acme\n#\n\n\n\necho\n"

def shellVerdict : Verdict where
  grammar := hashGrammar "shell" ["sh", "bash"]
  path := Path.ofText "a.sh"
  startYear := none
  finding := .fixed [] fixedShellText

/-- The header of the fixed script. -/
def shellHeader : Block := ⟨["", "Copyright (C) 2024 Acme", ""], 3, 5, true, some 2024⟩

def renewedShellVerdict : Verdict where
  grammar := hashGrammar "shell" ["sh", "bash"]
  path := Path.ofText "a.sh"
  startYear := some 2024
  finding := .fixed [shellHeader] renewedShellText

theorem checkText?_shellText :
    checkText? builtinGrammars "a.sh" acmeOrder shellText = some shellVerdict := by
  decide +kernel

theorem checkText?_fixedShellText :
    checkText? builtinGrammars "a.sh" { acmeOrder with currentYear := 2025 } fixedShellText =
      some renewedShellVerdict := by
  decide +kernel

theorem renewed_of_fixed_of_fixed_shell :
    checkText? builtinGrammars "a.sh" acmeOrder shellText = some shellVerdict ∧
    checkText? builtinGrammars "a.sh" { acmeOrder with currentYear := 2025 } fixedShellText =
      some renewedShellVerdict ∧
    let g := hashGrammar "shell" ["sh", "bash"]
    let before := Document.parse g fixedShellText
    let after := Document.parse g renewedShellText
    let header := fun current => renderHeader g (expandYears acmeOrder.license (some 2024) current)
    before.directive = some "#!/bin/sh" ∧
      (∃ old, [shellHeader] = [old] ∧
        before.Renewed [[], []] old (header 2024) (header 2025) after) ∧
      (ReturnFree acmeOrder.license → after.lineEnding = before.lineEnding) := by
  have hdirective : (Document.parse shellVerdict.grammar fixedShellText).directive =
      some "#!/bin/sh" := by
    decide +kernel
  have h := renewed_of_fixed_of_fixed checkText?_shellText rfl checkText?_fixedShellText rfl
    (by decide +kernel) (.inr rfl) (yearsMacro_infix_notice _) (yearFaithful_notice isHolder_acme)
    rfl (by decide) (by decide) (by decide) (by simp [shellVerdict])
  dsimp only at h
  rw [hdirective] at h
  exact ⟨checkText?_shellText, checkText?_fixedShellText, hdirective, h⟩

/-- A renewed header does not leave the number of lines as it is: the script has two more of them
than before. -/
theorem not_forall_length_lines_eq_of_fixed_of_fixed :
    ¬ ∀ (path s text₁ text₂ : Text) (order : Order) (v₁ v₂ : Verdict)
        (removed₁ removed₂ : List Block) (later : Int),
      checkText? builtinGrammars path order s = some v₁ → v₁.finding = .fixed removed₁ text₁ →
      checkText? builtinGrammars path { order with currentYear := later } text₁ = some v₂ →
      v₂.finding = .fixed removed₂ text₂ → DelimiterSafe v₁.grammar order.license →
      v₁.grammar.lineComments = [] ∨ v₁.grammar.blockComments = [] →
      yearsMacro <:+: order.license → YearFaithful order.license → order.startYear = none →
      1000 ≤ order.currentYear → order.currentYear < later → later ≤ 2999 →
      (∀ y ∈ v₁.startYear, y ≤ order.currentYear) →
      (splitLines text₂).length = (splitLines text₁).length := by
  intro h
  have hlength := h "a.sh" shellText fixedShellText renewedShellText acmeOrder shellVerdict
    renewedShellVerdict [] [shellHeader] 2025 checkText?_shellText rfl checkText?_fixedShellText rfl
    (by decide +kernel) (.inr rfl) (yearsMacro_infix_notice _) (yearFaithful_notice isHolder_acme)
    rfl (by decide) (by decide) (by decide) (by simp [shellVerdict])
  exact absurd hlength (by decide +kernel)

end LicenseAudit
