import LicenseAudit.Proofs.Comment.Excision
import LicenseAudit.Proofs.Document.Spans
import LicenseAudit.Proofs.Header.Reassembly
import Mathlib.Algebra.Ring.Int.Defs
import Mathlib.Data.List.Pairwise

/-!
# What a rebuilt file consists of

A file that is rebuilt with a header and without some of its blocks comes apart into the same byte
order mark, directive and line ending, and its lines can be accounted for one by one
(`Document.Reassembled`): empty lines behind a directive, the header, at most one separating line,
and every old line outside the removed blocks. The lines that are gone are those of the blocks, each
counted once, since blocks do not overlap (`Document.length_keepLines_add_sum`).

The line ending is read from the text anew. It stays the same because the header brings no carriage
return of its own (`Document.Physical.lineEnding_parse_rebuild`).

The main statement is `reassembled_parse_rebuild`.
-/

namespace LicenseAudit

open Text

/-! ## Counting the lines of removed blocks -/

/-- Different blocks of a file do not overlap. -/
theorem Spaced.apart_of_ne {count : Nat} {blocks : List Block} (h : Spaced count blocks)
    {b c : Block} (hb : b ∈ blocks) (hc : c ∈ blocks) (hne : b ≠ c) :
    b.endLine < c.startLine ∨ c.endLine < b.startLine := by
  have hsymm : Std.Symm fun b c : Block => b.endLine < c.startLine ∨ c.endLine < b.startLine :=
    ⟨fun _ _ => Or.symm⟩
  have hall := (h.apart.imp (S := fun b c : Block =>
    b.endLine < c.startLine ∨ c.endLine < b.startLine) Or.inl).forall
  exact hall hb hc hne

/-- In whatever order they are listed. -/
theorem Spaced.pairwise_apart {count : Nat} {blocks removed : List Block} (h : Spaced count blocks)
    (hr : ∀ b ∈ removed, b ∈ blocks) (hn : removed.Nodup) :
    removed.Pairwise fun b c => b.endLine < c.startLine ∨ c.endLine < b.startLine :=
  hn.imp_of_mem fun hb hc => h.apart_of_ne (hr _ hb) (hr _ hc)

/-- A block of a file is known by its lines. -/
theorem Spaced.eq_of_extent_eq {count : Nat} {blocks : List Block} (h : Spaced count blocks)
    {b c : Block} (hb : b ∈ blocks) (hc : c ∈ blocks) (he : b.extent = c.extent) : b = c := by
  by_contra hne
  obtain ⟨hstart, hend⟩ := Prod.mk.inj he
  obtain ⟨-, hle, -⟩ := h.within b hb
  rcases h.apart_of_ne hb hc hne with hlt | hlt <;> omega

namespace Document

section KeepLines

variable {removed removed' : List Block} {number : Int} {lines : List Text} {b : Block}

theorem keepLines_congr (h : ∀ k, number ≤ k → k < number + lines.length →
    removed.any (·.covers k) = removed'.any (·.covers k)) :
    keepLines removed number lines = keepLines removed' number lines := by
  induction lines generalizing number with
  | nil => rfl
  | cons line rest ih =>
    simp only [List.length_cons] at h
    rw [keepLines, keepLines, h number (by omega) (by omega),
      ih fun k h₁ h₂ => h k (by omega) (by omega)]

/-- Of the lines of a block that is removed in addition, all were there and none is left. -/
theorem length_keepLines_cons (h₁ : number ≤ b.startLine) (h₂ : b.startLine ≤ b.endLine)
    (h₃ : b.endLine < number + lines.length)
    (hd : ∀ c ∈ removed, b.endLine < c.startLine ∨ c.endLine < b.startLine) :
    ((keepLines (b :: removed) number lines).length : Int) + (b.endLine - b.startLine + 1) =
      (keepLines removed number lines).length := by
  obtain ⟨i, hi⟩ := Int.eq_ofNat_of_zero_le (a := b.startLine - number) (by omega)
  obtain ⟨j, hj⟩ := Int.eq_ofNat_of_zero_le (a := b.endLine - b.startLine + 1) (by omega)
  obtain ⟨front, rest, rfl, hfront⟩ : ∃ front rest, lines = front ++ rest ∧ front.length = i :=
    ⟨lines.take i, lines.drop i, (List.take_append_drop ..).symm,
      List.length_take_of_le (by omega)⟩
  rw [List.length_append] at h₃
  obtain ⟨inner, back, rfl, hinner⟩ : ∃ inner back, rest = inner ++ back ∧ inner.length = j :=
    ⟨rest.take j, rest.drop j, (List.take_append_drop ..).symm,
      List.length_take_of_le (by omega)⟩
  have hout : ∀ k, k < b.startLine ∨ b.endLine < k →
      (b :: removed).any (·.covers k) = removed.any (·.covers k) := by
    intro k hk
    have : b.covers k = false := by
      rw [Bool.eq_false_iff, Ne, Block.covers_eq_true_iff]
      omega
    rw [List.any_cons, this, Bool.false_or]
  have hfront' : keepLines (b :: removed) number front = keepLines removed number front :=
    keepLines_congr fun k _ hk => hout k (by omega)
  have hback : keepLines (b :: removed) (number + front.length + inner.length) back =
      keepLines removed (number + front.length + inner.length) back :=
    keepLines_congr fun k hk _ => hout k (by omega)
  have hgone : keepLines (b :: removed) (number + front.length) inner = [] := by
    refine keepLines_eq_nil fun k hk hk' => ?_
    rw [List.any_cons, Block.covers_eq_true_iff.2 (by omega), Bool.true_or]
  have hthere : keepLines removed (number + front.length) inner = inner := by
    refine keepLines_eq_self fun k hk hk' => List.any_eq_false.2 fun c hc => ?_
    have := hd c hc
    rw [Block.covers_eq_true_iff]
    omega
  simp only [keepLines_append, List.length_append, hfront', hback, hgone, hthere, List.length_nil]
  omega

/-- **The lines that are gone are those of the removed blocks.** -/
theorem length_keepLines_add_sum
    (hd : removed.Pairwise fun b c => b.endLine < c.startLine ∨ c.endLine < b.startLine)
    (hin : ∀ b ∈ removed, number ≤ b.startLine ∧ b.startLine ≤ b.endLine ∧
      b.endLine < number + lines.length) :
    ((keepLines removed number lines).length : Int) +
      (removed.map fun b => b.endLine - b.startLine + 1).sum = lines.length := by
  induction removed with
  | nil => rw [keepLines_eq_self (by simp), List.map_nil, List.sum_nil, Int.add_zero]
  | cons b removed ih =>
    obtain ⟨hb, hrest⟩ := List.pairwise_cons.1 hd
    obtain ⟨h₁, h₂, h₃⟩ := hin b (List.mem_cons_self ..)
    have hone := length_keepLines_cons h₁ h₂ h₃ hb
    have hall := ih hrest fun c hc => hin c (List.mem_cons_of_mem _ hc)
    rw [List.map_cons, List.sum_cons]
    omega

end KeepLines

/-- The lines outside the spans of some blocks, in order; lines are counted from one. -/
def linesOutside (removed : List Block) (lines : List Text) : List Text :=
  ((lines.zipIdx 1).filter fun p => !removed.any (·.covers p.2)).map Prod.fst

theorem keepLines_eq_filter (removed : List Block) (number : Nat) (lines : List Text) :
    keepLines removed number lines =
      ((lines.zipIdx number).filter fun p => !removed.any (·.covers p.2)).map Prod.fst := by
  induction lines generalizing number with
  | nil => rfl
  | cons line rest ih =>
    have hrest := ih (number + 1)
    rw [Int.natCast_succ] at hrest
    rw [keepLines, List.zipIdx_cons, List.filter_cons, hrest]
    cases removed.any (·.covers number) <;> rfl

theorem keptLines_eq_linesOutside (d : Document) (removed : List Block) :
    d.keptLines removed = linesOutside removed d.lines :=
  keepLines_eq_filter removed 1 d.lines

end Document

/-! ## Carriage returns -/

/-- No trimmed line of the license text holds a carriage return. -/
def ReturnFree (license : Text) : Prop := ∀ line ∈ (splitLines license).map trim, '\r' ∉ line

instance (license : Text) : Decidable (ReturnFree license) :=
  inferInstanceAs (Decidable (∀ line ∈ (splitLines license).map trim, '\r' ∉ line))

section ReturnFree

variable {g : Grammar} {license : Text}

theorem ReturnFree.expandYears (h : ReturnFree license) (start : Option Int) (current : Int) :
    ReturnFree (expandYears license start current) := by
  intro line hl
  rw [map_trim_splitLines_expandYears] at hl
  obtain ⟨s, hs, rfl⟩ := List.mem_map.1 hl
  intro hc
  rcases mem_of_mem_replaceAll yearsMacro_ne_nil hc with hc | hc
  · exact h s hs hc
  · have := isYearChar_of_mem_yearRange start current hc
    revert this
    decide

theorem not_mem_contentLine {form : WriteForm} {line : Text} {c : Char} (hc : c ≠ ' ')
    (hp : c ∉ form.linePrefix) (hl : c ∉ line) : c ∉ form.contentLine line := by
  unfold WriteForm.contentLine
  split
  · exact hl
  · split
    · exact hp
    · simp [hp, hl, hc]

theorem ReturnFree.not_mem_renderHeader (h : ReturnFree license) (hg : BuiltinSyntax g) :
    ∀ line ∈ renderHeader g license, '\r' ∉ line := by
  obtain ⟨form, hf, hform⟩ := hg.exists_renderHeader_eq_wrap license
  have hparts : ∀ form ∈ headerForms,
      '\r' ∉ form.opener ∧ '\r' ∉ form.closer ∧ '\r' ∉ form.linePrefix := by decide
  obtain ⟨hopener, hcloser, hlinePrefix⟩ := hparts form hf
  intro line hl
  rw [hform, WriteForm.wrap] at hl
  simp only [List.mem_append, List.mem_cons, List.mem_map, List.not_mem_nil, or_false] at hl
  rcases hl with (rfl | ⟨s, hs, rfl⟩) | rfl
  · exact hopener
  · exact not_mem_contentLine (by decide) hlinePrefix (h s (mem_map_trim_of_mem_contentLines hs))
  · exact hcloser

end ReturnFree

namespace Document

variable {d : Document} {g : Grammar} {s : Text}

/-- The lines of a file joined by line feeds alone hold no carriage return. -/
theorem not_mem_of_lineEnding_parse (h : (parse g s).lineEnding = .lf) :
    ∀ line ∈ (parse g s).lines, '\r' ∉ line := by
  intro line hl hc
  have hmem : '\r' ∈ (splitByteOrderMark s).2 :=
    mem_of_mem_splitDirective ((chars_of_mem_splitLines hl).2 '\r' hc)
  change (if (splitByteOrderMark s).2.contains '\r' then LineEnding.crlf else .lf) = .lf at h
  rw [if_pos (List.contains_iff_mem.2 hmem)] at h
  cases h

theorem not_mem_separator {c : Char} (lines : List Text) : ∀ line ∈ separator lines, c ∉ line := by
  cases lines with
  | nil => simp [separator]
  | cons first rest =>
    rw [separator]
    split <;> simp

theorem Physical.not_mem_rebuiltLines (hd : d.Physical) (hg : BuiltinSyntax g) {license : Text}
    (hl : ReturnFree license) (hlines : ∀ line ∈ d.lines, '\r' ∉ line) (removed : List Block)
    (current : Int) : ∀ line ∈ d.rebuiltLines removed g license current, '\r' ∉ line := by
  intro line hline
  simp only [rebuiltLines, List.mem_append] at hline
  rcases hline with ((hline | hline) | hline) | hline
  · unfold directiveLines at hline
    split at hline
    · next directive hdir =>
      rcases List.mem_cons.1 hline with rfl | hline
      · intro hc
        have := (hd.directive _ hdir).2 '\r' hc
        revert this
        decide
      · rw [List.mem_singleton.1 hline]
        simp
    · cases hline
  · exact (hl.expandYears d.startYear current).not_mem_renderHeader hg line hline
  · exact not_mem_separator _ line hline
  · exact hlines line (mem_of_mem_keepLines hline)

theorem lineEnding_of_eq_crlf {s : Text} (h : '\r' ∈ s) : LineEnding.of s = .crlf :=
  if_pos (List.contains_iff_mem.2 h)

theorem lineEnding_of_eq_lf {s : Text} (h : '\r' ∉ s) : LineEnding.of s = .lf :=
  if_neg fun hc => h (List.contains_iff_mem.1 hc)

/-- A header has an opening and a closing line. -/
theorem two_le_length_rebuiltLines (hg : BuiltinSyntax g) (d : Document) (removed : List Block)
    (license : Text) (current : Int) :
    2 ≤ (d.rebuiltLines removed g license current).length := by
  obtain ⟨form, -, hform⟩ := hg.exists_renderHeader_eq_wrap
    (expandYears license d.startYear current)
  have hheader := length_wrap form (contentLines (expandYears license d.startYear current))
  rw [← hform] at hheader
  simp only [rebuiltLines, headerLines, List.length_append, hheader]
  omega

theorem exists_eq_cons_of_two_le_length {lines : List Text} (h : 2 ≤ lines.length) :
    ∃ first rest, lines = first :: rest ∧ rest ≠ [] := by
  match lines, h with
  | first :: second :: rest, _ => exact ⟨first, second :: rest, rfl, by simp⟩

/-- **A rebuilt file keeps its line ending.** -/
theorem Physical.lineEnding_parse_rebuild (hd : d.Physical) (hg : BuiltinSyntax g)
    (hlines : d.lineEnding = .lf → ∀ line ∈ d.lines, '\r' ∉ line) {license : Text}
    (hl : ReturnFree license) (removed : List Block) (current : Int) :
    (parse g (d.rebuild removed g license current)).lineEnding = d.lineEnding := by
  have hmark := (hd.splitDirective_rebuiltLines hg removed license current).1
  show LineEnding.of (splitByteOrderMark (d.rebuild removed g license current)).2 = _
  rw [rebuild, splitByteOrderMark_append hd.byteOrderMark hmark]
  cases hending : d.lineEnding with
  | lf =>
    refine lineEnding_of_eq_lf fun hc => ?_
    rcases mem_joinWith hc with hc | ⟨line, hline, hc⟩
    · revert hc
      decide
    · exact hd.not_mem_rebuiltLines hg hl (hlines hending) removed current line hline hc
  | crlf =>
    obtain ⟨first, rest, hcons, hne⟩ := exists_eq_cons_of_two_le_length
      (two_le_length_rebuiltLines hg d removed license current)
    rw [hcons, joinWith_ending_cons _ _ hne]
    exact lineEnding_of_eq_crlf (by simp [LineEnding.text])

/-! ## The parts of a rebuilt file -/

/-- The file `d'` is the file `d` with header lines put in and blocks taken out. -/
structure Reassembled (d : Document) (removed : List Block) (header : List Text) (d' : Document) :
    Prop where
  byteOrderMark : d'.byteOrderMark = d.byteOrderMark
  directive : d'.directive = d.directive
  lineEnding : d'.lineEnding = d.lineEnding
  /-- Behind a directive there are two empty lines, the rest of its own line and a blank one; a
  line separates the header from a kept line that is not blank. -/
  lines : d'.lines = (if d.directive.isSome then [[], []] else []) ++ header ++
    (if (linesOutside removed d.lines).head?.any (!isAllBlank ·) then [[]] else []) ++
      linesOutside removed d.lines
  /-- No line is gone but those of the removed blocks. -/
  count : (d.lines.length : Int) - (linesOutside removed d.lines).length =
    (removed.map fun b => b.endLine - b.startLine + 1).sum

theorem replicate_directiveLines (d : Document) :
    List.replicate d.directiveLines.length ([] : Text) =
      if d.directive.isSome then [[], []] else [] := by
  unfold directiveLines
  cases d.directive <;> rfl

theorem separator_eq_ite (lines : List Text) :
    separator lines = if lines.head?.any (!isAllBlank ·) then [[]] else [] := by
  cases lines with
  | nil => rfl
  | cons line rest =>
    rw [separator]
    cases h : isAllBlank line <;> simp [h]

end Document

/-- **A rebuilt file comes apart into exactly its parts**, whichever of its blocks are taken out and
whatever its start year is. -/
theorem reassembled_parse_rebuild {g : Grammar} (hg : g ∈ builtinGrammars) {s license : Text}
    (hl : ReturnFree license) (start : Option Int) (current : Int) {removed : List Block}
    (hr : ∀ b ∈ removed, b ∈ (Document.parse g s).blocks) (hn : removed.Nodup) :
    let d := { Document.parse g s with startYear := start }
    d.Reassembled removed (renderHeader g (expandYears license start current))
      (Document.parse g (d.rebuild removed g license current)) := by
  intro d
  have hsyntax := builtinSyntax_of_mem hg
  have hphysical := Document.physical_parse g s
  have hd : d.Physical := ⟨hphysical.byteOrderMark, hphysical.directive, hphysical.joinable⟩
  have hspaced := Document.spaced_parse g s
  obtain ⟨hmark, hdirective, hlines⟩ := hd.parse_rebuild hsyntax removed license current
  refine ⟨hmark, hdirective, ?_, ?_, ?_⟩
  · exact hd.lineEnding_parse_rebuild hsyntax
      (Document.not_mem_of_lineEnding_parse (g := g) (s := s)) hl removed current
  · rw [hlines, Document.bodyLines, Document.leadLines, Document.replicate_directiveLines,
      Document.keptLines_eq_linesOutside, Document.separator_eq_ite]
    rfl
  · have hin : ∀ b ∈ removed, 1 ≤ b.startLine ∧ b.startLine ≤ b.endLine ∧
        b.endLine < 1 + (d.lines.length : Int) := by
      intro b hb
      obtain ⟨h₁, h₂, h₃⟩ := hspaced.within b (hr b hb)
      refine ⟨h₁, h₂, ?_⟩
      have : (d.lines.length : Int) = (Document.parse g s).lines.length := rfl
      omega
    have hsum := Document.length_keepLines_add_sum (hspaced.pairwise_apart hr hn) hin
    rw [← Document.keptLines, Document.keptLines_eq_linesOutside] at hsum
    omega

/-- A script with a byte order mark, a directive, CR LF line endings and two declarations. -/
def declaredScript : Text :=
  ("\ufeff#!/bin/sh\r\n# Copyright (C) 2020 Foo\r\n# All rights reserved\r\n\r\n" ++
    "# (C) Copyright Bar\r\necho\r\n" : String)

theorem reassembled_parse_rebuild_script :
    let g := hashGrammar "shell" ["sh", "bash"]
    let license : Text := "Copyright (C) {years} Acme"
    let removed := (Document.parse g declaredScript).blocks
    let d := { Document.parse g declaredScript with startYear := some 1998 }
    removed.length = 2 ∧ ReturnFree license ∧ removed.Nodup ∧
      d.Reassembled removed (renderHeader g (expandYears license (some 1998) 2024))
        (Document.parse g (d.rebuild removed g license 2024)) := by
  intro g license removed d
  have hl : ReturnFree license := by decide +kernel
  have hn : removed.Nodup := by decide +kernel
  exact ⟨by decide +kernel, hl, hn,
    reassembled_parse_rebuild (by decide +kernel) hl (some 1998) 2024 (fun _ hb => hb) hn⟩

end LicenseAudit
