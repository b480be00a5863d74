import LicenseAudit.Grammar.Builtin
import LicenseAudit.Header.Render
import LicenseAudit.Proofs.Comment.Segments
import LicenseAudit.Proofs.License.Years

/-!
# Reading a header back

How the lines of a header are scanned when they are read again. Between delimiters, the block that
begins with the header's opening line reaches to the first line that closes it
(`BlockDelimiters.ReadsBack.directScan_until`); when every line is safe that is the closing line,
and the block shows the lines as they were written (`BlockDelimiters.ReadsBack.directScan`). Line
comments are one block, whose lines have lost the marks that they start with
(`directScan_header_run`).

`BlockDelimiters.ReadsBack` says what makes the written form of delimiters readable, and the two
block comments of the built-in grammars have it (`starBlock_readsBack`, `markupBlock_readsBack`).
-/

namespace LicenseAudit

open Text

/-! ## The content of a header -/

theorem trim_joinWith_nil_cons (lines : List Text) :
    trim (joinWith [' '] ([] :: lines)) = trim (joinWith [' '] lines) := by
  cases lines with
  | nil => rfl
  | cons line rest => exact trim_cons_blank (by decide) _

theorem trim_joinWith_append_nil (lines : List Text) :
    trim (joinWith [' '] (lines ++ [[]])) = trim (joinWith [' '] lines) := by
  cases lines with
  | nil => rfl
  | cons line rest =>
    have h : joinWith [' '] (line :: rest ++ [[]]) = joinWith [' '] (line :: rest) ++ [' '] := by
      induction rest generalizing line with
      | nil => simp [joinWith]
      | cons next rest ih =>
        rw [List.cons_append, List.cons_append, joinWith, ← List.cons_append, ih, joinWith]
        exact (List.append_assoc ..).symm
    rw [h, trim_append_blank (by decide)]

/-- The block shows a license text: its lines are those of the text, but for empty lines at the
two ends. -/
def Block.Shows (b : Block) (license : Text) : Prop :=
  ∃ j k, b.lines = List.replicate j [] ++ contentLines license ++ List.replicate k []

theorem trim_joinWith_padded (j k : Nat) (lines : List Text) :
    trim (joinWith [' '] (List.replicate j [] ++ lines ++ List.replicate k [])) =
      trim (joinWith [' '] lines) := by
  induction j with
  | succ j ih =>
    rw [List.replicate_succ, List.cons_append, List.cons_append, trim_joinWith_nil_cons, ih]
  | zero =>
    induction k with
    | zero => simp
    | succ k ih => rw [List.replicate_succ', ← List.append_assoc, trim_joinWith_append_nil, ih]

/-- The trimmed lines of a text are its content lines between empty lines. -/
theorem exists_map_trim_splitLines_eq_contentLines (license : Text) :
    ∃ j k, (splitLines license).map trim =
      List.replicate j [] ++ contentLines license ++ List.replicate k [] :=
  exists_map_trim_splitLines_eq license

namespace Block

variable {b : Block} {license : Text}

/-- A block that shows a text says what the text says. -/
theorem Shows.normalized (h : b.Shows license) : b.normalized = normalizeLicense license := by
  obtain ⟨j, k, h⟩ := h
  obtain ⟨j', k', h'⟩ := exists_map_trim_splitLines_eq_contentLines license
  rw [Block.normalized, h, trim_joinWith_padded, normalizeLicense, h', trim_joinWith_padded]

/-- A block that shows a text names the years of the text. -/
theorem Shows.earliestCopyrightYear (h : b.Shows license) :
    earliestCopyrightYear b.lines = earliestCopyrightYear ((splitLines license).map trim) := by
  have hnil : ∀ n, (List.replicate n ([] : Text)).flatMap copyrightYears = [] := fun n =>
    List.flatMap_eq_nil_iff.2 fun line hl => by rw [List.eq_of_mem_replicate hl]; rfl
  obtain ⟨j, k, h⟩ := h
  obtain ⟨j', k', h'⟩ := exists_map_trim_splitLines_eq_contentLines license
  simp only [LicenseAudit.earliestCopyrightYear, h, h', List.flatMap_append, hnil]

end Block

theorem trim_of_mem_contentLines {license line : Text} (h : line ∈ contentLines license) :
    trim line = line := by
  obtain ⟨s, -, rfl⟩ := List.mem_map.1 h
  exact trim_trim s

theorem mem_map_trim_of_mem_contentLines {license line : Text}
    (h : line ∈ contentLines license) : line ∈ (splitLines license).map trim := by
  obtain ⟨j, k, hl⟩ := exists_map_trim_splitLines_eq_contentLines license
  rw [hl]
  exact List.mem_append_left _ (List.mem_append_right _ h)

/-! ## Content lines behind a mark -/

theorem endsWith_of_endsWith_append {mark a b : Text} {x : Char} (hx : x ∉ mark)
    (h : endsWith mark (a ++ x :: b) = true) : endsWith mark b = true := by
  obtain ⟨r, hr⟩ := endsWith_iff.1 h
  rcases List.append_eq_append_iff.1 hr with ⟨m, -, hm⟩ | ⟨m, -, hm⟩
  · cases m with
    | nil => exact absurd (by simp [← show x :: b = mark from hm]) hx
    | cons y m =>
      rw [List.cons_append, List.cons.injEq] at hm
      exact endsWith_iff.2 ⟨m, hm.2⟩
  · exact absurd (by simp [hm]) hx

section Marked

variable {mark line : Text}

/-- A content line as it stands in a file behind a mark, trimmed. -/
def markedLine (mark line : Text) : Text := if line.isEmpty then mark else mark ++ ' ' :: line

theorem trim_contentLine {form : WriteForm} {b : Text} (hf : form.linePrefix = b ++ mark)
    (hb : b.all isBlank = true) (hm : trim mark = mark) (hne : mark ≠ [])
    (hl : trim line = line) : trim (form.contentLine line) = markedLine mark line := by
  have hp : form.linePrefix.isEmpty = false := by simp [hf, hne]
  rw [WriteForm.contentLine, markedLine, hp, hf]
  cases line with
  | nil => exact (trim_blank_append hb mark).trans hm
  | cons c line =>
    have h := trim_append_of_trim hm hl hne (by simp) [' ']
    rw [List.append_assoc] at h
    rw [if_neg (by simp), if_neg (by simp), if_neg (by simp), List.append_assoc,
      trim_blank_append hb]
    exact h

theorem startsWith_markedLine (mark line : Text) :
    startsWith mark (markedLine mark line) = true := by
  unfold markedLine
  split
  · exact startsWith_iff.2 ⟨[], by simp⟩
  · exact startsWith_iff.2 ⟨_, rfl⟩

/-- The mark is stripped from a marked line, and from the start of the content too. -/
theorem stripMark_markedLine (hne : mark ≠ []) (hl : trim line = line) :
    stripMark mark (markedLine mark line) = stripMark mark line := by
  unfold markedLine
  split
  · next he =>
    have h := stripMark_append hne []
    rw [List.append_nil] at h
    rw [h, List.isEmpty_iff.1 he]
    rfl
  · rw [stripMark_append hne, trim_cons_blank (by decide), hl]

end Marked

/-! ## Delimiters that are read as they are written -/

namespace BlockDelimiters

variable {d : BlockDelimiters}

/-- How a header is written between these delimiters. -/
def writeForm (d : BlockDelimiters) : WriteForm :=
  ⟨givenOr d.opener d.writtenOpener, givenOr d.closer d.writtenCloser,
    d.writtenLinePrefix.getD []⟩

/-- Whether a trimmed line can stand in a comment: it neither starts with the decoration nor ends
with the closer. -/
def isSafeLine (d : BlockDelimiters) (line : Text) : Bool :=
  !(d.decoration.any (startsWith · line)) && !endsWith d.closer line

/-- Delimiters whose written lines are read as they are meant. -/
structure ReadsBack (d : BlockDelimiters) : Prop where
  /-- The opening line opens a comment, and nothing else stands on it. -/
  opens : startsWith d.opener (trim d.writeForm.opener) = true
  stays : endsWith d.closer (d.behindOpener (trim d.writeForm.opener)) = false
  bare : stripDecoration d.decoration (d.behindOpener (trim d.writeForm.opener)) = []
  /-- A safe line does not close the comment, and shows what it is. -/
  inside : ∀ line, trim line = line → d.isSafeLine line = true →
    endsWith d.closer (trim (d.writeForm.contentLine line)) = false
  shows : ∀ line, trim line = line → d.isSafeLine line = true →
    stripDecoration d.decoration (trim (d.writeForm.contentLine line)) = line
  /-- The closing line closes the comment, and nothing else stands on it. -/
  closes : endsWith d.closer (trim d.writeForm.closer) = true
  bareEnd : d.lastContent (trim d.writeForm.closer) = []

theorem closesAfter?_concat {inner last : Text} {body : List Text}
    (hi : endsWith d.closer inner = false) (hb : ∀ line ∈ body, endsWith d.closer line = false)
    (hl : endsWith d.closer last = true) :
    d.closesAfter? inner (body ++ [last]) = some (body ++ [last]).length := by
  have hn : (inner :: body).findIdx? (fun line => endsWith d.closer line) = none := by
    rw [List.findIdx?_eq_none_iff]
    simpa [hi] using hb
  rw [closesAfter?, ← List.cons_append, List.findIdx?_append, hn]
  simp [hl]

section ReadsBack

variable {g : Grammar} (h : d.ReadsBack) (hg : g.blockComments = [d])
include h hg

/-- Behind a written opening line, a block reaches to the first line that closes it. -/
theorem ReadsBack.directScan_until {body : List Text} {last : Text}
    (hbody : ∀ line ∈ body, endsWith d.closer line = false)
    (hlast : endsWith d.closer last = true) (number : Int) (rest : List Text) :
    directScan g number (trim d.writeForm.opener :: (body ++ [last] ++ rest)) =
      ⟨[] :: (body.map (stripDecoration d.decoration) ++ d.laterContent [last]), number,
          number + (body.length + 1 : Nat), false, none⟩ ::
        directScan g (number + (body.length + 2 : Nat)) rest := by
  have ho : g.openerOn? (trim d.writeForm.opener) = some d := by
    rw [Grammar.openerOn?, hg]
    simp [h.opens]
  have hcontent : d.content (d.behindOpener (trim d.writeForm.opener)) (body ++ [last]) =
      [] :: (body.map (stripDecoration d.decoration) ++ d.laterContent [last]) := by
    rw [content, if_neg (by simp), h.bare, laterContent_concat]
  have hlen : (body ++ [last]).length = body.length + 1 := by simp
  have hnumber : number + ((body.length + 1 : Nat) : Int) + 1 =
      number + (body.length + 2 : Nat) := by
    omega
  rw [directScan_closed number ho (closesAfter?_concat h.stays hbody hlast), hcontent, hlen,
    hnumber]

/-- A header between delimiters that read back is one block, whatever follows it. -/
theorem ReadsBack.directScan {lines : List Text} (ht : ∀ line ∈ lines, trim line = line)
    (hs : ∀ line ∈ lines, d.isSafeLine line = true) (number : Int) (rest : List Text) :
    directScan g number ((d.writeForm.wrap lines).map trim ++ rest) =
      ⟨[] :: lines, number, number + (lines.length + 1 : Nat), false, none⟩ ::
        LicenseAudit.directScan g (number + (lines.length + 2 : Nat)) rest := by
  obtain ⟨body, hbody⟩ : ∃ body, lines.map (fun line => trim (d.writeForm.contentLine line)) =
    body := ⟨_, rfl⟩
  have hlen : body.length = lines.length := by rw [← hbody, List.length_map]
  have hwrap : (d.writeForm.wrap lines).map trim ++ rest =
      trim d.writeForm.opener :: (body ++ [trim d.writeForm.closer] ++ rest) := by
    simp [WriteForm.wrap, ← hbody]
  have hinside : ∀ line ∈ body, endsWith d.closer line = false := by
    intro line hl
    rw [← hbody] at hl
    obtain ⟨s, hs', rfl⟩ := List.mem_map.1 hl
    exact h.inside s (ht s hs') (hs s hs')
  have hmap : body.map (stripDecoration d.decoration) = lines := by
    rw [← hbody, List.map_map]
    conv => rhs; rw [← List.map_id lines]
    apply List.map_congr_left
    intro line hl
    exact h.shows line (ht line hl) (hs line hl)
  rw [hwrap, h.directScan_until hg hinside h.closes, hmap, hlen, laterContent, h.bareEnd]
  simp

end ReadsBack

end BlockDelimiters

theorem trim_contentLine_starBlock {line : Text} (hl : trim line = line) :
    trim (starBlock.writeForm.contentLine line) = markedLine ['*'] line :=
  trim_contentLine (b := [' ']) rfl (by decide) rfl (by decide) hl

theorem trim_contentLine_markupBlock {line : Text} (hl : trim line = line) :
    trim (markupBlock.writeForm.contentLine line) = line := by
  rw [WriteForm.contentLine, if_neg (by decide)]
  split
  · next he => rw [List.isEmpty_iff.1 he]; rfl
  · exact (trim_blank_append (a := [' ', ' ']) (by decide) line).trans hl

/-- A line written between stars is stripped of the stars that it starts with. -/
theorem stripDecoration_contentLine_starBlock {line : Text} (hl : trim line = line) :
    stripDecoration starBlock.decoration (trim (starBlock.writeForm.contentLine line)) =
      stripMark ['*'] line := by
  have htrim : trim (markedLine ['*'] line) = markedLine ['*'] line := by
    rw [← trim_contentLine_starBlock hl, trim_trim]
  rw [trim_contentLine_starBlock hl, stripDecoration, htrim]
  exact stripMark_markedLine (by decide) hl

theorem starBlock_readsBack : starBlock.ReadsBack := by
  refine ⟨by decide, by decide, ?_, fun line hl hs => ?_, fun line hl hs => ?_, by decide, ?_⟩
  · have hstar : after? ['*'] ['*'] = some [] := rfl
    exact (stripMark_of_after?_some (by decide) hstar).trans (stripMark_of_after?_none rfl)
  · rw [trim_contentLine_starBlock hl, markedLine]
    split
    · rfl
    · rw [Bool.eq_false_iff]
      intro he
      have := endsWith_of_endsWith_append (a := ['*']) (by decide) he
      simp [BlockDelimiters.isSafeLine, this] at hs
  · have hstart : startsWith ['*'] line = false := by
      simpa [starBlock] using (Bool.and_eq_true_iff.1 hs).1
    rw [stripDecoration_contentLine_starBlock hl]
    exact stripMark_of_startsWith_eq_false hstart
  · exact stripMark_of_after?_none rfl

theorem markupBlock_readsBack : markupBlock.ReadsBack := by
  refine ⟨by decide, by decide, stripMark_nil _, fun line hl hs => ?_, fun line hl hs => ?_,
    by decide, stripMark_nil _⟩
  · rw [trim_contentLine_markupBlock hl]
    simpa [BlockDelimiters.isSafeLine] using (Bool.and_eq_true_iff.1 hs).2
  · rw [trim_contentLine_markupBlock hl]
    exact (stripMark_nil _).trans hl

/-! ## Headers of line comments -/

section Run

variable {g : Grammar} {mark : Text} (hg : g.lineComments = [mark]) (hb : g.blockComments = [])
variable (hm : trim mark = mark) (hne : mark ≠ [])
include hg hb hm hne

omit hg hm hne in
theorem openerOn?_eq_none_of_blockComments_eq_nil (line : Text) : g.openerOn? line = none := by
  rw [Grammar.openerOn?, hb]
  rfl

omit hg hb hm in
theorem startsWith_nil_eq_false : startsWith mark [] = false := by
  cases mark with
  | nil => exact absurd rfl hne
  | cons c mark => rfl

omit hb hm in
theorem isLineComment_nil_eq_false : g.isLineComment [] = false := by
  rw [Grammar.isLineComment, hg]
  simpa using startsWith_nil_eq_false hne

omit hb hm in
/-- The lines of a header of line comments are line comments, and show its content but for the
marks that it starts with. -/
theorem lineContent_marked {lines : List Text} (ht : ∀ line ∈ lines, trim line = line) :
    (∀ line ∈ lines.map (markedLine mark), g.isLineComment line = true) ∧
      (lines.map (markedLine mark)).map g.lineContent = lines.map (stripMark mark) := by
  have hcomment : ∀ line, g.isLineComment (markedLine mark line) = true := by
    intro line
    rw [Grammar.isLineComment, hg]
    simpa using startsWith_markedLine mark line
  constructor
  · intro line hl
    obtain ⟨s, -, rfl⟩ := List.mem_map.1 hl
    exact hcomment s
  · rw [List.map_map]
    apply List.map_congr_left
    intro line hl
    rw [Function.comp_apply, Grammar.lineContent, hg, stripLinePrefix?, List.find?_cons,
      startsWith_markedLine]
    exact stripMark_markedLine hne (ht line hl)

omit hg hb in
/-- Written with line comments, a content stands between two bare marks. -/
theorem map_trim_wrap_mark {lines : List Text} (ht : ∀ line ∈ lines, trim line = line) :
    ((⟨mark, mark, mark⟩ : WriteForm).wrap lines).map trim =
      ([] :: (lines ++ [[]])).map (markedLine mark) := by
  have hbody : lines.map (fun line =>
      trim ((⟨mark, mark, mark⟩ : WriteForm).contentLine line)) = lines.map (markedLine mark) := by
    apply List.map_congr_left
    intro line hl
    exact trim_contentLine (b := []) rfl rfl hm hne (ht line hl)
  simpa [WriteForm.wrap, hm, markedLine] using hbody

/-- A header of line comments is one block when an empty line or nothing follows it. -/
theorem directScan_header_run {lines : List Text} (ht : ∀ line ∈ lines, trim line = line)
    (number : Int) {rest : List Text} (hrest : ∀ line ∈ rest.head?, line = []) :
    directScan g number (((⟨mark, mark, mark⟩ : WriteForm).wrap lines).map trim ++ rest) =
      ⟨[] :: lines.map (stripMark mark) ++ [[]], number, number + (lines.length + 1 : Nat), false,
          none⟩ :: directScan g (number + (lines.length + 2 : Nat)) rest := by
  have ho := openerOn?_eq_none_of_blockComments_eq_nil hb
  have htrim : ∀ line ∈ [] :: (lines ++ [[]]), trim line = line := by
    intro line hl
    simp only [List.mem_cons, List.mem_append, List.not_mem_nil, or_false] at hl
    rcases hl with rfl | hl | rfl
    · exact trim_nil
    · exact ht line hl
    · exact trim_nil
  obtain ⟨hcomment, hcontent⟩ := lineContent_marked hg hne htrim
  have hnil : stripMark mark [] = [] :=
    stripMark_of_startsWith_eq_false (startsWith_nil_eq_false hne)
  have hstrip : ([] :: (lines ++ [[]])).map (stripMark mark) =
      [] :: lines.map (stripMark mark) ++ [[]] := by
    simp [hnil]
  rw [hstrip] at hcontent
  have hlen : ((lines ++ [[]]).map (markedLine mark)).length = lines.length + 1 := by simp
  rw [map_trim_wrap_mark hm hne ht]
  rw [List.map_cons] at hcomment hcontent ⊢
  cases rest with
  | nil =>
    rw [List.append_nil, directScan_openRun number (ho _) hcomment, hcontent, hlen, directScan_nil]
  | cons next rest =>
    obtain rfl := hrest next rfl
    have hplain := isLineComment_nil_eq_false hg hne
    have hn : number + ((lines.length + 1 : Nat) : Int) + 1 + 1 =
        number + (lines.length + 2 : Nat) + 1 := by omega
    rw [List.cons_append, directScan_run number (ho _) hcomment hplain, hcontent, hlen,
      directScan_code _ (ho _) hplain, hn]

end Run

end LicenseAudit
