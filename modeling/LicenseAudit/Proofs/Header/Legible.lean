import Mathlib.Algebra.Order.BigOperators.Group.List
import Mathlib.Algebra.Order.Ring.Nat
import LicenseAudit.Proofs.Header.Reassembly
import LicenseAudit.Proofs.Verdict.Settled

/-!
# Which headers are legible

A header is written and read by different rules, and reading loses what looks like a delimiter. A
header that stands alone reads back as the license text exactly when no content line starts with
the decoration that is stripped or ends with the closer, and then it is the only block and reaches
from the first line to the last (`blocks_headerText`).

That a safe text reads back is `directScan_renderHeader`. For the converse it is not enough that
some line changes, since another change could make up for it: the characters that are not blank
are counted (`ink`). Nothing that reading does adds to them, and at an unsafe line some are lost
(`BlockDelimiters.LosesUnsafe`, `exists_ink_normalized_lt`).
-/

namespace LicenseAudit

open Text

/-! ## Characters that are not blank -/

/-- How many characters of a text are not blank. -/
def ink (s : Text) : Nat := s.countP fun c => !isBlank c

theorem ink_append (s t : Text) : ink (s ++ t) = ink s + ink t := List.countP_append

theorem ink_cons_blank {c : Char} (hc : isBlank c = true) (s : Text) : ink (c :: s) = ink s := by
  simp [ink, hc]

theorem ink_of_blank {s : Text} (h : s.all isBlank = true) : ink s = 0 := by
  simpa [ink, List.countP_eq_zero] using h

theorem ink_trim (s : Text) : ink (trim s) = ink s := by
  obtain ⟨a, b, h, ha, hb⟩ := exists_eq_append_trim s
  conv => rhs; rw [h]
  rw [ink_append, ink_append, ink_of_blank ha, ink_of_blank hb]
  omega

theorem ink_joinWith_blank (lines : List Text) :
    ink (joinWith [' '] lines) = (lines.map ink).sum := by
  induction lines with
  | nil => rfl
  | cons line rest ih =>
    cases rest with
    | nil => simp [joinWith]
    | cons next rest =>
      rw [joinWith, ink_append, ink_append, ih, ink_of_blank (s := [' ']) (by decide)]
      simp

theorem Block.ink_normalized (b : Block) : ink b.normalized = (b.lines.map ink).sum := by
  rw [Block.normalized, ink_trim, ink_joinWith_blank]

theorem ink_normalizeLicense (license : Text) :
    ink (normalizeLicense license) = ((contentLines license).map ink).sum := by
  obtain ⟨j, k, h⟩ := exists_map_trim_splitLines_eq_contentLines license
  rw [normalizeLicense, h, trim_joinWith_padded, ink_trim, ink_joinWith_blank]

/-! ## What reading loses -/

theorem ink_stripMark_le (mark line : Text) : ink (stripMark mark line) ≤ ink line := by
  obtain ⟨a, b, h⟩ := exists_eq_append_stripMark mark line
  conv => rhs; rw [h]
  rw [ink_append, ink_append]
  omega

/-- Stripping a mark that stands at the start of a line loses the mark. -/
theorem ink_stripMark_lt {mark line : Text} (hm : 0 < ink mark)
    (hs : startsWith mark line = true) : ink (stripMark mark line) < ink line := by
  have hne : mark ≠ [] := by
    rintro rfl
    exact absurd hm (by decide)
  obtain ⟨r, rfl⟩ := startsWith_iff.1 hs
  have hle := ink_stripMark_le mark (trim r)
  rw [ink_trim] at hle
  rw [stripMark_append hne, ink_append]
  omega

theorem ink_stripDecoration_le (decoration : Option Text) (line : Text) :
    ink (stripDecoration decoration line) ≤ ink line :=
  (ink_stripMark_le _ _).trans (ink_trim line).le

theorem sum_ink_map_le {f : Text → Text} {lines : List Text}
    (h : ∀ line ∈ lines, ink (f line) ≤ ink line) :
    ((lines.map f).map ink).sum ≤ (lines.map ink).sum := by
  rw [List.map_map]
  exact List.sum_le_sum h

theorem sum_ink_map_lt {f : Text → Text} {lines : List Text}
    (h : ∀ line ∈ lines, ink (f line) ≤ ink line)
    (hlt : ∃ line ∈ lines, ink (f line) < ink line) :
    ((lines.map f).map ink).sum < (lines.map ink).sum := by
  rw [List.map_map]
  exact List.sum_lt_sum _ _ h hlt

theorem WriteForm.ink_contentLine_le (form : WriteForm) (line : Text) :
    ink (form.contentLine line) ≤ ink form.linePrefix + ink line := by
  unfold contentLine
  split
  · omega
  · split
    · omega
    · rw [ink_append, ink_cons_blank (by decide)]

namespace BlockDelimiters

variable {d : BlockDelimiters} {line : Text}

/-- A content line as it stands in a comment that is read. -/
def written (d : BlockDelimiters) (line : Text) : Text := trim (d.writeForm.contentLine line)

/-- What is read of a content line that does not close the comment. -/
def shown (d : BlockDelimiters) (line : Text) : Text :=
  stripDecoration d.decoration (d.written line)

/-- Delimiters that are read as they are written, and between which an unsafe line loses
something. -/
structure LosesUnsafe (d : BlockDelimiters) : Prop extends d.ReadsBack where
  /-- A written line is stripped of the decoration that the line itself starts with. -/
  strips : ∀ line, trim line = line → d.shown line = stripMark (d.decoration.getD []) line
  ink_decoration_pos : ∀ mark ∈ d.decoration, 0 < ink mark
  /-- A line that ends with the closer closes the comment that it is written in. -/
  ends : ∀ line, trim line = line → endsWith d.closer line = true →
    endsWith d.closer (d.written line) = true
  /-- The closer loses more than the line prefix adds. -/
  ink_linePrefix_lt : ink d.writeForm.linePrefix < ink d.closer

theorem map_trim_wrap_writeForm (d : BlockDelimiters) (lines : List Text) :
    (d.writeForm.wrap lines).map trim =
      trim d.writeForm.opener :: (lines.map d.written ++ [trim d.writeForm.closer]) := by
  simp [WriteForm.wrap, written]

theorem map_stripDecoration_written (d : BlockDelimiters) (lines : List Text) :
    (lines.map d.written).map (stripDecoration d.decoration) = lines.map d.shown :=
  List.map_map ..

theorem sum_ink_nil_cons (lines : List Text) :
    ((([] : Text) :: lines).map ink).sum = (lines.map ink).sum := by
  rw [List.map_cons, List.sum_cons]
  exact Nat.zero_add _

theorem ink_laterContent_singleton (last : Text) :
    ((d.laterContent [last]).map ink).sum = ink (d.lastContent last) := by
  rw [laterContent]
  split
  · next h => rw [List.isEmpty_iff.1 h]; rfl
  · simp

namespace LosesUnsafe

variable (h : d.LosesUnsafe)
include h

theorem ink_shown_le (hl : trim line = line) : ink (d.shown line) ≤ ink line := by
  rw [h.strips line hl]
  exact ink_stripMark_le _ _

/-- An unsafe line loses its decoration when it does not close the comment. -/
theorem ink_shown_lt (hl : trim line = line) (hs : d.isSafeLine line = false)
    (he : endsWith d.closer (d.written line) = false) : ink (d.shown line) < ink line := by
  have hends : endsWith d.closer line = false := by
    rw [Bool.eq_false_iff]
    intro hc
    rw [h.ends line hl hc] at he
    cases he
  have hstart : d.decoration.any (startsWith · line) = true := by
    simpa [isSafeLine, hends] using hs
  obtain ⟨mark, hd, hmark⟩ := (Option.any_eq_true _ _).1 hstart
  rw [h.strips line hl, hd, Option.getD_some]
  exact ink_stripMark_lt (h.ink_decoration_pos mark hd) hmark

/-- A line that closes the comment loses the closer. -/
theorem ink_lastContent_lt (he : endsWith d.closer (d.written line) = true) :
    ink (d.lastContent (d.written line)) < ink line := by
  obtain ⟨r, hr⟩ := endsWith_iff.1 he
  have hwritten : ink (d.written line) ≤ ink d.writeForm.linePrefix + ink line :=
    (ink_trim _).le.trans (d.writeForm.ink_contentLine_le line)
  have hcontent : d.lastContent (r ++ d.closer) = stripDecoration d.decoration r := by
    rw [lastContent, before?_eq_some_iff.2 rfl, Option.getD_some]
  have hle := ink_stripDecoration_le d.decoration r
  have hclose := h.ink_linePrefix_lt
  rw [hr, ink_append] at hwritten
  rw [hr, hcontent]
  omega

/-- **A header with an unsafe line is read with less in it**: its block ends at the first line
that closes it, or loses a decoration. -/
theorem exists_directScan_wrap {g : Grammar} (hg : g.blockComments = [d]) {lines : List Text}
    (ht : ∀ line ∈ lines, trim line = line) (hs : ∃ line ∈ lines, d.isSafeLine line = false) :
    ∃ b rest, directScan g 1 ((d.writeForm.wrap lines).map trim) = b :: rest ∧
      (b.lines.map ink).sum < (lines.map ink).sum := by
  have hle : ∀ line ∈ lines, ink (d.shown line) ≤ ink line := fun line hl =>
    h.ink_shown_le (ht line hl)
  rw [map_trim_wrap_writeForm]
  cases hclose : lines.find? (fun line => endsWith d.closer (d.written line)) with
  | none =>
    have hopen : ∀ line ∈ lines, endsWith d.closer (d.written line) = false := by
      simpa using hclose
    have hbody : ∀ line ∈ lines.map d.written, endsWith d.closer line = false := by
      simpa using hopen
    have hscan := h.directScan_until hg hbody h.closes 1 []
    rw [List.append_nil, map_stripDecoration_written] at hscan
    refine ⟨_, _, hscan, ?_⟩
    obtain ⟨line, hl, hunsafe⟩ := hs
    have hlt := sum_ink_map_lt hle ⟨line, hl, h.ink_shown_lt (ht line hl) hunsafe (hopen line hl)⟩
    have hbare : ink (d.lastContent (trim d.writeForm.closer)) = 0 := by rw [h.bareEnd]; rfl
    rw [sum_ink_nil_cons, List.map_append, List.sum_append, ink_laterContent_singleton, hbare]
    exact hlt
  | some last =>
    obtain ⟨hlast, front, back, rfl, hopen⟩ := List.find?_eq_some_iff_append.1 hclose
    have hbody : ∀ line ∈ front.map d.written, endsWith d.closer line = false := by
      simpa using hopen
    have hscan := h.directScan_until hg hbody hlast 1
      (back.map d.written ++ [trim d.writeForm.closer])
    have hsplit : front.map d.written ++ [d.written last] ++
        (back.map d.written ++ [trim d.writeForm.closer]) =
        (front ++ last :: back).map d.written ++ [trim d.writeForm.closer] := by simp
    rw [hsplit, map_stripDecoration_written] at hscan
    refine ⟨_, _, hscan, ?_⟩
    have hfront := sum_ink_map_le fun line hl => hle line (List.mem_append_left _ hl)
    have hlt := h.ink_lastContent_lt hlast
    rw [sum_ink_nil_cons, List.map_append, List.sum_append, ink_laterContent_singleton,
      List.map_append, List.sum_append, List.map_cons, List.sum_cons]
    omega

end LosesUnsafe

end BlockDelimiters

theorem written_starBlock {line : Text} (hl : trim line = line) :
    starBlock.written line = markedLine ['*'] line :=
  trim_contentLine_starBlock hl

theorem written_markupBlock {line : Text} (hl : trim line = line) :
    markupBlock.written line = line :=
  trim_contentLine_markupBlock hl

theorem starBlock_losesUnsafe : starBlock.LosesUnsafe where
  toReadsBack := starBlock_readsBack
  strips _ := stripDecoration_contentLine_starBlock
  ink_decoration_pos := by decide
  ends line hl he := by
    obtain ⟨r, hr⟩ := endsWith_iff.1 he
    have hne : line ≠ [] := by
      rintro rfl
      exact absurd he (by decide)
    rw [written_starBlock hl, markedLine, if_neg (by simpa using hne), hr]
    exact endsWith_iff.2 ⟨'*' :: ' ' :: r, rfl⟩
  ink_linePrefix_lt := by decide

theorem markupBlock_losesUnsafe : markupBlock.LosesUnsafe where
  toReadsBack := markupBlock_readsBack
  strips line hl := by
    rw [BlockDelimiters.shown, written_markupBlock hl, stripDecoration, hl]
  ink_decoration_pos := by decide
  ends line hl he := by rwa [written_markupBlock hl]
  ink_linePrefix_lt := by decide

/-! ## The header as a file -/

section Header

variable {g : Grammar} {license : Text}

/-- A header of line comments with an unsafe line is read with less in it. -/
theorem exists_directScan_wrap_mark {mark : Text} (hl : g.lineComments = [mark])
    (hb : g.blockComments = []) (hm : trim mark = mark) (hink : 0 < ink mark) {lines : List Text}
    (ht : ∀ line ∈ lines, trim line = line)
    (hs : ∃ line ∈ lines, startsWith mark line = true) :
    ∃ b rest, directScan g 1 (((⟨mark, mark, mark⟩ : WriteForm).wrap lines).map trim) = b :: rest ∧
      (b.lines.map ink).sum < (lines.map ink).sum := by
  have hne : mark ≠ [] := by
    rintro rfl
    exact absurd hink (by decide)
  have hrest : ∀ line ∈ ([] : List Text).head?, line = [] := by simp
  have hscan := directScan_header_run hl hb hm hne ht 1 hrest
  rw [List.append_nil] at hscan
  refine ⟨_, _, hscan, ?_⟩
  obtain ⟨line, hline, hstart⟩ := hs
  have hlt := sum_ink_map_lt (fun line _ => ink_stripMark_le mark line)
    ⟨line, hline, ink_stripMark_lt hink hstart⟩
  simpa [ink] using hlt

/-- An unsafe header shows less than the license text in its first block. -/
theorem exists_ink_normalized_lt (hg : BuiltinSyntax g)
    (hs : ∃ line ∈ contentLines license, g.isSafeLine line = false) :
    ∃ b rest, directScan g 1 ((renderHeader g license).map trim) = b :: rest ∧
      ink b.normalized < ink (normalizeLicense license) := by
  have htrim : ∀ line ∈ contentLines license, trim line = line := fun _ => trim_of_mem_contentLines
  have hblock : ∀ d : BlockDelimiters, d.LosesUnsafe → g.blockComments = [d] →
      ∃ b rest, directScan g 1 ((renderHeader g license).map trim) = b :: rest ∧
        (b.lines.map ink).sum < ((contentLines license).map ink).sum := by
    intro d hd hb
    obtain ⟨line, hl, hunsafe⟩ := hs
    rw [isSafeLine_of_blockComments hb] at hunsafe
    rw [renderHeader_of_blockComments hb]
    exact hd.exists_directScan_wrap hb htrim ⟨line, hl, hunsafe⟩
  simp only [Block.ink_normalized, ink_normalizeLicense]
  cases hg with
  | slash _ hb => exact hblock _ starBlock_losesUnsafe hb
  | hash hl hb =>
    obtain ⟨line, hline, hunsafe⟩ := hs
    have hstart : startsWith "#" line = true := by
      simpa [Grammar.isSafeLine, Grammar.headerDecoration?, Grammar.headerCloser?, hb, hl]
        using hunsafe
    rw [renderHeader_of_lineComments hl hb]
    exact exists_directScan_wrap_mark hl hb rfl (by decide) htrim ⟨line, hline, hstart⟩
  | star _ hb => exact hblock _ starBlock_losesUnsafe hb
  | markup _ hb => exact hblock _ markupBlock_losesUnsafe hb

/-- A text is delimiter-safe when the lines that its header shows are. -/
theorem delimiterSafe_iff (hg : BuiltinSyntax g) :
    DelimiterSafe g license ↔ ∀ line ∈ contentLines license, g.isSafeLine line = true := by
  refine ⟨fun h line => h.isSafeLine_of_mem, fun h line hl => ?_⟩
  obtain ⟨j, k, hlines⟩ := exists_map_trim_splitLines_eq_contentLines license
  rw [hlines, List.mem_append, List.mem_append] at hl
  rcases hl with (hl | hl) | hl
  · exact List.eq_of_mem_replicate hl ▸ hg.isSafeLine_nil
  · exact h line hl
  · exact List.eq_of_mem_replicate hl ▸ hg.isSafeLine_nil

/-- The header of a license text as a file of its own. -/
def headerText (g : Grammar) (license : Text) : Text := joinWith ['\n'] (renderHeader g license)

theorem lines_parse_headerText (hg : BuiltinSyntax g) :
    (Document.parse g (headerText g license)).lines = renderHeader g license := by
  obtain ⟨form, hf, hform⟩ := hg.exists_renderHeader_eq_wrap license
  have hjoin := hg.joinable_renderHeader license .lf
  rw [hform, ← List.append_nil (form.wrap _)] at hjoin
  obtain ⟨hmark, body, hdirective, hlines⟩ := Document.splitDirective_header hf hjoin
  have hparse : (Document.parse g (headerText g license)).lines =
      splitLines (splitDirective (splitByteOrderMark (headerText g license)).2).2 := rfl
  have htext : headerText g license =
      joinWith LineEnding.lf.text (form.wrap (contentLines license) ++ []) := by
    rw [headerText, hform, List.append_nil]
    rfl
  have hsplit := splitByteOrderMark_append (.inl rfl) hmark
  rw [List.nil_append] at hsplit
  rw [hparse, htext, hsplit, hdirective, hlines, hform, List.append_nil]

/-- **A header is legible exactly when its text is delimiter-safe.** Its first block says what the
license says if and only if no content line starts with the decoration or ends with the closer,
and then this block is the only one and covers the whole header. -/
theorem blocks_headerText (hg : g ∈ builtinGrammars) (license : Text) :
    ((∃ b, (Document.parse g (headerText g license)).blocks.head? = some b ∧
        b.normalized = normalizeLicense license) ↔
      ∀ line ∈ contentLines license, g.isSafeLine line = true) ∧
    ((∀ line ∈ contentLines license, g.isSafeLine line = true) →
      ∃ b, (Document.parse g (headerText g license)).blocks = [b] ∧
        b.normalized = normalizeLicense license ∧
        b.startLine = 1 ∧ b.endLine = (renderHeader g license).length) := by
  have hsyntax := builtinSyntax_of_mem hg
  have hblocks := Document.blocks_parse g (headerText g license)
  rw [lines_parse_headerText hsyntax] at hblocks
  have hsafe : (∀ line ∈ contentLines license, g.isSafeLine line = true) →
      ∃ b, (Document.parse g (headerText g license)).blocks = [b] ∧
        b.normalized = normalizeLicense license ∧
        b.startLine = 1 ∧ b.endLine = (renderHeader g license).length := by
    intro h
    have hrest : ∀ line ∈ ([] : List Text).head?, line = [] := by simp
    obtain ⟨b, hb, hscan⟩ :=
      directScan_renderHeader ((delimiterSafe_iff hsyntax).2 h) 1 hsyntax hrest
    rw [List.append_nil, directScan_nil] at hscan
    rw [hscan] at hblocks
    obtain ⟨hstart, hend⟩ := Prod.mk.inj b.extent_annotate
    refine ⟨b.annotate, hblocks, ?_, hstart.trans hb.startLine, hend.trans ?_⟩
    · rw [Block.normalized_annotate, hb.shows.normalized]
    · have := hb.endLine
      omega
  refine ⟨⟨?_, fun h => ?_⟩, hsafe⟩
  · rintro ⟨b, hhead, hb⟩ line hl
    by_contra hunsafe
    obtain ⟨c, rest, hscan, hlt⟩ := exists_ink_normalized_lt hsyntax
      ⟨line, hl, Bool.eq_false_iff.2 hunsafe⟩
    rw [hblocks, hscan] at hhead
    obtain rfl := Option.some.inj hhead
    rw [Block.normalized_annotate] at hb
    rw [hb] at hlt
    exact lt_irrefl _ hlt
  · obtain ⟨b, hb, hnormalized, -⟩ := hsafe h
    exact ⟨b, by rw [hb]; rfl, hnormalized⟩

/-- In a Python file a license that starts with a hash sign is not read back from its header; the
same license without it is. -/
theorem blocks_headerText_python :
    hashGrammar "python" ["py"] ∈ builtinGrammars ∧
      (¬ ∃ b, (Document.parse (hashGrammar "python" ["py"])
          (headerText (hashGrammar "python" ["py"]) "# Acme")).blocks.head? = some b ∧
        b.normalized = normalizeLicense "# Acme") ∧
      ∃ b, (Document.parse (hashGrammar "python" ["py"])
          (headerText (hashGrammar "python" ["py"]) "Acme")).blocks = [b] ∧
        b.normalized = normalizeLicense "Acme" ∧ b.startLine = 1 ∧
        b.endLine = (renderHeader (hashGrammar "python" ["py"]) "Acme").length := by
  have hg : hashGrammar "python" ["py"] ∈ builtinGrammars := by simp [builtinGrammars]
  refine ⟨hg, ?_, (blocks_headerText hg "Acme").2 (by decide +kernel)⟩
  rw [(blocks_headerText hg "# Acme").1]
  decide +kernel

end Header

end LicenseAudit
