import LicenseAudit.Proofs.Header.ReadBack

/-!
# Headers of the built-in grammars

The built-in grammars have four comment syntaxes (`BuiltinSyntax`). In each of them a header of a
delimiter-safe license text is read back as one block in front of whatever follows it after an
empty line (`directScan_renderHeader`), and safety does not depend on the years that are filled in
(`DelimiterSafe.expandYears`).
-/

namespace LicenseAudit

open Text

/-! ## Comment syntaxes -/

/-- The comment syntaxes of the built-in grammars. -/
inductive BuiltinSyntax (g : Grammar) : Prop
  | slash (hl : g.lineComments = ["//".toList]) (hb : g.blockComments = [starBlock])
  | hash (hl : g.lineComments = ["#".toList]) (hb : g.blockComments = [])
  | star (hl : g.lineComments = []) (hb : g.blockComments = [starBlock])
  | markup (hl : g.lineComments = []) (hb : g.blockComments = [markupBlock])

theorem builtinSyntax_of_mem {g : Grammar} (hg : g ∈ builtinGrammars) : BuiltinSyntax g := by
  simp only [builtinGrammars, List.mem_cons, List.not_mem_nil, or_false] at hg
  rcases hg with rfl | rfl | rfl | rfl | rfl | rfl | rfl | rfl | rfl | rfl
  · exact .slash rfl rfl
  · exact .slash rfl rfl
  · exact .slash rfl rfl
  · exact .slash rfl rfl
  · exact .hash rfl rfl
  · exact .hash rfl rfl
  · exact .hash rfl rfl
  · exact .hash rfl rfl
  · exact .star rfl rfl
  · exact .markup rfl rfl

theorem mem_of_lookupGrammar?_eq_some {table : List Grammar} {path : Text} {g : Grammar}
    (h : lookupGrammar? table path = some g) : g ∈ table :=
  List.mem_of_find?_eq_some h

/-- An empty line is code. -/
theorem BuiltinSyntax.code_nil {g : Grammar} (h : BuiltinSyntax g) :
    g.openerOn? [] = none ∧ g.isLineComment [] = false := by
  cases h with
  | slash hl hb => simp only [Grammar.openerOn?, Grammar.isLineComment, hl, hb]; decide
  | hash hl hb => simp only [Grammar.openerOn?, Grammar.isLineComment, hl, hb]; decide
  | star hl hb => simp only [Grammar.openerOn?, Grammar.isLineComment, hl, hb]; decide
  | markup hl hb => simp only [Grammar.openerOn?, Grammar.isLineComment, hl, hb]; decide

/-- Empty lines are passed over. -/
theorem BuiltinSyntax.directScan_replicate {g : Grammar} (h : BuiltinSyntax g) (n : Nat)
    (number : Int) (rest : List Text) :
    directScan g number (List.replicate n [] ++ rest) = directScan g (number + n) rest := by
  induction n generalizing number with
  | zero => simp
  | succ n ih =>
    have hn : number + 1 + (n : Int) = number + (n + 1 : Nat) := by omega
    rw [List.replicate_succ, List.cons_append, directScan_code number h.code_nil.1 h.code_nil.2,
      ih, hn]

/-! ## Delimiter safety -/

namespace Grammar

/-- What a header's content lines are stripped of when they are read. -/
def headerDecoration? (g : Grammar) : Option Text :=
  match g.blockComments with
  | d :: _ => d.decoration
  | [] => g.lineComments.head?

/-- What ends a header, when it is a block comment. -/
def headerCloser? (g : Grammar) : Option Text := g.blockComments.head?.map (·.closer)

/-- Whether a trimmed line can stand in a header of this grammar: it neither starts with the
decoration nor ends with the closer. -/
def isSafeLine (g : Grammar) (line : Text) : Bool :=
  !(g.headerDecoration?.any (startsWith · line)) && !(g.headerCloser?.any (endsWith · line))

end Grammar

/-- No trimmed line of the license text starts with what is stripped from a header's lines, or
ends with what closes the header. -/
def DelimiterSafe (g : Grammar) (license : Text) : Prop :=
  ∀ line ∈ (splitLines license).map trim, g.isSafeLine line = true

instance (g : Grammar) (license : Text) : Decidable (DelimiterSafe g license) :=
  inferInstanceAs (Decidable (∀ line ∈ (splitLines license).map trim, g.isSafeLine line = true))

section Safety

variable {g : Grammar} {license line : Text}

theorem isSafeLine_iff : g.isSafeLine line = true ↔
    (∀ mark ∈ g.headerDecoration?, startsWith mark line = false) ∧
      ∀ closer ∈ g.headerCloser?, endsWith closer line = false := by
  rw [Grammar.isSafeLine, Bool.and_eq_true, Bool.not_eq_true', Bool.not_eq_true']
  cases g.headerDecoration? <;> cases g.headerCloser? <;> simp

theorem isSafeLine_of_blockComments {d : BlockDelimiters} (hb : g.blockComments = [d]) :
    g.isSafeLine line = d.isSafeLine line := by
  simp [Grammar.isSafeLine, Grammar.headerDecoration?, Grammar.headerCloser?, hb,
    BlockDelimiters.isSafeLine]

theorem startsWith_of_isSafeLine {mark : Text} (hl : g.lineComments = [mark])
    (hb : g.blockComments = []) (h : g.isSafeLine line = true) : startsWith mark line = false := by
  simpa [Grammar.isSafeLine, Grammar.headerDecoration?, Grammar.headerCloser?, hb, hl] using h

theorem DelimiterSafe.isSafeLine_of_mem (h : DelimiterSafe g license)
    (hl : line ∈ contentLines license) : g.isSafeLine line = true :=
  h line (mem_map_trim_of_mem_contentLines hl)

/-- Neither the decorations nor the closers hold a character that years are written in at the
place in question. -/
theorem BuiltinSyntax.marks (h : BuiltinSyntax g) :
    (∀ mark ∈ g.headerDecoration?, ∀ c ∈ mark, isYearChar c = false) ∧
      ∀ closer ∈ g.headerCloser?, ∀ c ∈ closer, c.isDigit = false := by
  cases h with
  | slash hl hb =>
    simp [Grammar.headerDecoration?, Grammar.headerCloser?, hb, starBlock, isYearChar]
  | hash hl hb => simp [Grammar.headerDecoration?, Grammar.headerCloser?, hl, hb, isYearChar]
  | star hl hb =>
    simp [Grammar.headerDecoration?, Grammar.headerCloser?, hb, starBlock, isYearChar]
  | markup hl hb => simp [Grammar.headerDecoration?, Grammar.headerCloser?, hb, markupBlock]

/-- An empty line is safe. -/
theorem BuiltinSyntax.isSafeLine_nil (h : BuiltinSyntax g) : g.isSafeLine [] = true := by
  cases h with
  | slash hl hb => simp only [Grammar.isSafeLine, Grammar.headerDecoration?,
      Grammar.headerCloser?, hb]; decide
  | hash hl hb => simp only [Grammar.isSafeLine, Grammar.headerDecoration?,
      Grammar.headerCloser?, hl, hb]; decide
  | star hl hb => simp only [Grammar.isSafeLine, Grammar.headerDecoration?,
      Grammar.headerCloser?, hb]; decide
  | markup hl hb => simp only [Grammar.isSafeLine, Grammar.headerDecoration?,
      Grammar.headerCloser?, hb]; decide

/-- Filling in the years keeps a license text safe. -/
theorem DelimiterSafe.expandYears (h : DelimiterSafe g license) (hg : BuiltinSyntax g)
    (start : Option Int) (current : Int) :
    DelimiterSafe g (expandYears license start current) := by
  intro line hl
  rw [map_trim_splitLines_expandYears] at hl
  obtain ⟨s, hs, rfl⟩ := List.mem_map.1 hl
  obtain ⟨hstart, hend⟩ := isSafeLine_iff.1 (h s hs)
  refine isSafeLine_iff.2 ⟨fun mark hm => ?_, fun closer hc => ?_⟩
  · rw [Bool.eq_false_iff]
    intro hs
    have := startsWith_of_startsWith_expandYears start current (hg.marks.1 mark hm) hs
    simp [hstart mark hm] at this
  · rw [Bool.eq_false_iff]
    intro he
    have := endsWith_of_endsWith_expandYears start current (hg.marks.2 closer hc) he
    simp [hend closer hc] at this

end Safety

/-! ## The header as a block -/

section Header

variable {g : Grammar} {license : Text}

theorem renderHeader_of_blockComments {d : BlockDelimiters} (hb : g.blockComments = [d]) :
    renderHeader g license = d.writeForm.wrap (contentLines license) := by
  rw [renderHeader, Grammar.writeForm, hb]
  rfl

theorem renderHeader_of_lineComments {mark : Text} (hl : g.lineComments = [mark])
    (hb : g.blockComments = []) :
    renderHeader g license = (⟨mark, mark, mark⟩ : WriteForm).wrap (contentLines license) := by
  rw [renderHeader, Grammar.writeForm, hl, hb]

/-- The block is the header that the grammar renders for a license text, found from line `number`
on. -/
structure Block.IsHeader (b : Block) (g : Grammar) (license : Text) (number : Int) : Prop where
  shows : b.Shows license
  startLine : b.startLine = number
  endLine : b.endLine + 1 = number + (renderHeader g license).length
  unmarked : b.isLicense = false

theorem length_wrap (form : WriteForm) (content : List Text) :
    (form.wrap content).length = content.length + 2 := by
  simp [WriteForm.wrap]

variable (hs : DelimiterSafe g license) (number : Int)
include hs

theorem directScan_renderHeader_block {d : BlockDelimiters} (hd : d.ReadsBack)
    (hb : g.blockComments = [d]) (rest : List Text) :
    ∃ b : Block, b.IsHeader g license number ∧
      directScan g number ((renderHeader g license).map trim ++ rest) =
        b :: directScan g (number + (renderHeader g license).length) rest := by
  have hsafe : ∀ line ∈ contentLines license, d.isSafeLine line = true := fun line hl =>
    isSafeLine_of_blockComments hb ▸ hs.isSafeLine_of_mem hl
  have h := hd.directScan hb (fun line => trim_of_mem_contentLines) hsafe number rest
  rw [← length_wrap d.writeForm, ← renderHeader_of_blockComments hb] at h
  refine ⟨_, ⟨⟨1, 0, by simp⟩, rfl, ?_, rfl⟩, h⟩
  rw [renderHeader_of_blockComments hb, length_wrap]
  dsimp only
  omega

theorem directScan_renderHeader_run {mark : Text} (hl : g.lineComments = [mark])
    (hb : g.blockComments = []) (hm : trim mark = mark) (hne : mark ≠ []) {rest : List Text}
    (hrest : ∀ line ∈ rest.head?, line = []) :
    ∃ b : Block, b.IsHeader g license number ∧
      directScan g number ((renderHeader g license).map trim ++ rest) =
        b :: directScan g (number + (renderHeader g license).length) rest := by
  have hsafe : ∀ line ∈ contentLines license, startsWith mark line = false := fun line hl' =>
    startsWith_of_isSafeLine hl hb (hs.isSafeLine_of_mem hl')
  have hshown : (contentLines license).map (stripMark mark) = contentLines license := by
    conv => rhs; rw [← List.map_id (contentLines license)]
    apply List.map_congr_left
    intro line hl'
    exact stripMark_of_startsWith_eq_false (hsafe line hl')
  have htrim : ∀ line ∈ contentLines license, trim line = line := fun line =>
    trim_of_mem_contentLines
  have h := directScan_header_run hl hb hm hne htrim number hrest
  rw [hshown, ← length_wrap ⟨mark, mark, mark⟩, ← renderHeader_of_lineComments hl hb] at h
  refine ⟨_, ⟨⟨1, 1, by simp⟩, rfl, ?_, rfl⟩, h⟩
  rw [renderHeader_of_lineComments hl hb, length_wrap]
  dsimp only
  omega

/-- **A header is read back as one block**, whatever follows it after an empty line. -/
theorem directScan_renderHeader (hg : BuiltinSyntax g) {rest : List Text}
    (hrest : ∀ line ∈ rest.head?, line = []) :
    ∃ b : Block, b.IsHeader g license number ∧
      directScan g number ((renderHeader g license).map trim ++ rest) =
        b :: directScan g (number + (renderHeader g license).length) rest := by
  cases hg with
  | slash _ hb => exact directScan_renderHeader_block hs number starBlock_readsBack hb rest
  | hash hl hb => exact directScan_renderHeader_run hs number hl hb rfl (by decide) hrest
  | star _ hb => exact directScan_renderHeader_block hs number starBlock_readsBack hb rest
  | markup _ hb => exact directScan_renderHeader_block hs number markupBlock_readsBack hb rest

end Header

end LicenseAudit
