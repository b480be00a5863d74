import LicenseAudit.Header.Rebuild
import LicenseAudit.Proofs.Header.Builtin

/-!
# Taking a rebuilt file apart

A file that was taken apart and rebuilt with a header comes apart again into the same byte order
mark and directive, and its lines are exactly those that were put together
(`Document.Physical.parse_rebuild`). A header line may hold a carriage return within, but never
ends with one, and the lines of a file joined by line feeds hold none (`Document.Physical`), so no
line ending is read where none was written.
-/

namespace LicenseAudit

open Text

/-! ## Physical lines -/

/-- Lines that come apart again when they are joined with the line ending. -/
structure Joinable (ending : LineEnding) (lines : List Text) : Prop where
  inLine : ∀ line ∈ lines, '\n' ∉ line
  last : ending = .lf → ∀ line ∈ lines, line.getLast? ≠ some '\r'

theorem Joinable.append {ending : LineEnding} {front back : List Text}
    (hf : Joinable ending front) (hb : Joinable ending back) : Joinable ending (front ++ back) where
  inLine line hl := (List.mem_append.1 hl).elim (hf.inLine line) (hb.inLine line)
  last he line hl := (List.mem_append.1 hl).elim (hf.last he line) (hb.last he line)

theorem Joinable.mono {ending : LineEnding} {front back : List Text}
    (h : Joinable ending back) (hs : ∀ line ∈ front, line ∈ back) : Joinable ending front where
  inLine line hl := h.inLine line (hs line hl)
  last he line hl := h.last he line (hs line hl)

theorem joinable_of_eq_nil {ending : LineEnding} {lines : List Text}
    (h : ∀ line ∈ lines, line = []) : Joinable ending lines where
  inLine line hl := by simp [h line hl]
  last _ line hl := by simp [h line hl]

theorem splitLines_append_ending {ending : LineEnding} {line : Text} (hn : '\n' ∉ line)
    (hr : ending = .lf → line.getLast? ≠ some '\r') (s : Text) :
    splitLines (line ++ (ending.text ++ s)) = line :: splitLines s := by
  cases ending with
  | lf =>
    exact splitLines_append_lf hn (fun r he => hr rfl (List.getLast?_eq_some_iff.2 ⟨r, he⟩)) s
  | crlf => exact splitLines_append_crlf hn s

/-- Joined lines come apart again. -/
theorem Joinable.splitLines_joinWith {ending : LineEnding} {lines : List Text}
    (h : Joinable ending lines) (hne : lines ≠ []) :
    splitLines (joinWith ending.text lines) = lines := by
  induction lines with
  | nil => exact absurd rfl hne
  | cons line rest ih =>
    have hn := h.inLine line (List.mem_cons_self ..)
    cases rest with
    | nil => exact splitLines_of_not_mem hn
    | cons next rest =>
      rw [joinWith, List.append_assoc,
        splitLines_append_ending hn fun he => h.last he line (List.mem_cons_self ..),
        ih (h.mono fun _ => List.mem_cons_of_mem _) (by simp)]

theorem joinWith_ending_cons (ending : LineEnding) (line : Text) {rest : List Text}
    (h : rest ≠ []) : joinWith ending.text (line :: rest) =
      line ++ (ending.text ++ joinWith ending.text rest) := by
  rw [joinWith_cons_of_ne_nil _ _ h, List.append_assoc]

/-! ## A file taken apart -/

namespace Document

/-- What holds of the parts of every file that was taken apart. -/
structure Physical (d : Document) : Prop where
  byteOrderMark : d.byteOrderMark = [] ∨ d.byteOrderMark = ['\ufeff']
  directive : ∀ s ∈ d.directive, startsWith "#!" s = true ∧ ∀ c ∈ s, isInLine c = true
  joinable : Joinable d.lineEnding d.lines

theorem splitByteOrderMark_fst (s : Text) :
    (splitByteOrderMark s).1 = [] ∨ (splitByteOrderMark s).1 = ['\ufeff'] := by
  cases s with
  | nil => exact .inl rfl
  | cons c s =>
    rw [splitByteOrderMark]
    split
    · next h => exact .inr (by rw [h])
    · exact .inl rfl

theorem startsWith_takeWhile_isInLine {s : Text} (h : startsWith "#!" s = true) :
    startsWith "#!" (s.takeWhile isInLine) = true := by
  obtain ⟨r, rfl⟩ := startsWith_iff.1 h
  exact startsWith_iff.2 ⟨r.takeWhile isInLine, rfl⟩

theorem mem_of_mem_splitDirective {s : Text} {c : Char} (h : c ∈ (splitDirective s).2) : c ∈ s := by
  unfold splitDirective at h
  split at h
  · exact (List.dropWhile_suffix _).subset h
  · exact h

theorem physical_parse (g : Grammar) (s : Text) : (parse g s).Physical where
  byteOrderMark := splitByteOrderMark_fst s
  directive line hl := by
    change line ∈ (splitDirective (splitByteOrderMark s).2).1 at hl
    unfold splitDirective at hl
    split at hl
    · next h =>
      obtain rfl := Option.some.inj hl
      exact ⟨startsWith_takeWhile_isInLine h, fun c => List.mem_takeWhile_imp⟩
    · cases hl
  joinable :=
    { inLine := fun line hl => (chars_of_mem_splitLines hl).1
      last := fun he line hl => by
        intro hlast
        have hmem := (chars_of_mem_splitLines hl).2 '\r' (List.mem_of_getLast? hlast)
        have hnone : (splitByteOrderMark s).2.contains '\r' = true :=
          List.contains_iff_mem.2 (mem_of_mem_splitDirective hmem)
        change (if (splitByteOrderMark s).2.contains '\r' then LineEnding.crlf else .lf) = .lf at he
        rw [if_pos hnone] at he
        cases he }

theorem mem_of_mem_keepLines {removed : List Block} {number : Int} {lines : List Text}
    {line : Text} (h : line ∈ keepLines removed number lines) : line ∈ lines := by
  induction lines generalizing number with
  | nil => cases h
  | cons first rest ih =>
    unfold keepLines at h
    split at h
    · exact List.mem_cons_of_mem _ (ih h)
    · rcases List.mem_cons.1 h with rfl | h
      · exact List.mem_cons_self ..
      · exact List.mem_cons_of_mem _ (ih h)

end Document

/-! ## The header's lines -/

section Header

variable {g : Grammar} (license : Text)

/-- The forms in which the built-in grammars write headers. -/
def headerForms : List WriteForm :=
  [starBlock.writeForm, markupBlock.writeForm, ⟨"#", "#", "#"⟩]

theorem BuiltinSyntax.exists_renderHeader_eq_wrap (hg : BuiltinSyntax g) :
    ∃ form ∈ headerForms, renderHeader g license = form.wrap (contentLines license) := by
  cases hg with
  | slash _ hb => exact ⟨_, by simp [headerForms], renderHeader_of_blockComments hb⟩
  | hash hl hb => exact ⟨_, by simp [headerForms], renderHeader_of_lineComments hl hb⟩
  | star _ hb => exact ⟨_, by simp [headerForms], renderHeader_of_blockComments hb⟩
  | markup _ hb => exact ⟨_, by simp [headerForms], renderHeader_of_blockComments hb⟩

/-- Whether the fixed parts of a header's lines can be joined. -/
def WriteForm.isJoinable (form : WriteForm) : Bool :=
  [form.opener, form.closer, form.linePrefix].all fun s =>
    !s.contains '\n' && s.getLast? != some '\r'

/-- A line of content holds no line feed and ends with no carriage return. -/
theorem ends_of_mem_contentLines {line : Text} (hl : line ∈ contentLines license) :
    '\n' ∉ line ∧ line.getLast? ≠ some '\r' := by
  obtain ⟨raw, hraw, rfl⟩ := List.mem_map.1 hl
  constructor
  · intro h
    obtain ⟨a, b, he, -, -⟩ := exists_eq_append_trim raw
    exact (chars_of_mem_splitLines hraw).1 (he ▸ by simp [h])
  · intro h
    obtain ⟨r, hr⟩ := List.getLast?_eq_some_iff.1 h
    have hblank := trim_last_not_blank hr
    revert hblank
    decide

/-- Neither does it when it is written with a prefix of that kind. -/
theorem ends_contentLine {form : WriteForm} {line : Text}
    (hp : '\n' ∉ form.linePrefix ∧ form.linePrefix.getLast? ≠ some '\r')
    (hl : '\n' ∉ line ∧ line.getLast? ≠ some '\r') :
    '\n' ∉ form.contentLine line ∧ (form.contentLine line).getLast? ≠ some '\r' := by
  unfold WriteForm.contentLine
  split
  · exact hl
  · split
    · exact hp
    · next he =>
      obtain ⟨c, rest, rfl⟩ := List.exists_cons_of_ne_nil (l := line) (by simpa using he)
      refine ⟨by simpa [hp.1] using hl.1, ?_⟩
      rw [List.getLast?_append]
      simpa [List.getLast?_cons_cons] using hl.2

theorem joinable_wrap {form : WriteForm} (hf : form.isJoinable = true) (ending : LineEnding) :
    Joinable ending (form.wrap (contentLines license)) := by
  have hfixed : ∀ s ∈ [form.opener, form.closer, form.linePrefix],
      '\n' ∉ s ∧ s.getLast? ≠ some '\r' := by
    intro s hs
    simpa using List.all_eq_true.1 hf s hs
  have hall : ∀ line ∈ form.wrap (contentLines license),
      '\n' ∉ line ∧ line.getLast? ≠ some '\r' := by
    intro line hl
    simp only [WriteForm.wrap, List.mem_append, List.mem_cons, List.mem_map, List.not_mem_nil,
      or_false] at hl
    rcases hl with (rfl | ⟨s, hs, rfl⟩) | rfl
    · exact hfixed _ (by simp)
    · exact ends_contentLine (hfixed _ (by simp)) (ends_of_mem_contentLines license hs)
    · exact hfixed _ (by simp)
  constructor
  · intro line hl
    exact (hall line hl).1
  · intro _ line hl
    exact (hall line hl).2

theorem isJoinable_of_mem_headerForms : ∀ form ∈ headerForms, form.isJoinable = true := by decide

theorem BuiltinSyntax.joinable_renderHeader (hg : BuiltinSyntax g) (ending : LineEnding) :
    Joinable ending (renderHeader g license) := by
  obtain ⟨form, hf, h⟩ := hg.exists_renderHeader_eq_wrap license
  exact h ▸ joinable_wrap license (isJoinable_of_mem_headerForms form hf) ending

/-- A text that a header opens starts neither with a byte order mark nor with a directive. -/
theorem opener_of_mem_headerForms (ending : LineEnding) (s : Text) : ∀ form ∈ headerForms,
    (form.opener ++ (ending.text ++ s)).head? ≠ some '\ufeff' ∧
      startsWith "#!" (form.opener ++ (ending.text ++ s)) = false := by
  intro form hf
  simp only [headerForms, List.mem_cons, List.not_mem_nil, or_false] at hf
  rcases hf with rfl | rfl | rfl <;> cases ending <;>
    exact ⟨fun h => absurd (Option.some.inj h) (by decide), rfl⟩

end Header

/-! ## A file put together and taken apart again -/

theorem splitByteOrderMark_append {mark s : Text} (hm : mark = [] ∨ mark = ['\ufeff'])
    (hs : s.head? ≠ some '\ufeff') : splitByteOrderMark (mark ++ s) = (mark, s) := by
  rcases hm with rfl | rfl
  · cases s with
    | nil => rfl
    | cons c s =>
      have hc : c ≠ '\ufeff' := fun h => hs (by rw [h]; rfl)
      rw [List.nil_append, splitByteOrderMark, if_neg hc]
  · rfl

theorem splitDirective_of_not_startsWith {s : Text} (h : startsWith "#!" s = false) :
    splitDirective s = (none, s) := by
  rw [splitDirective, if_neg (Bool.eq_false_iff.1 h)]

theorem exists_ending_text_eq_cons (ending : LineEnding) :
    ∃ c s, ending.text = c :: s ∧ isInLine c = false := by
  cases ending with
  | lf => exact ⟨_, _, rfl, rfl⟩
  | crlf => exact ⟨_, _, rfl, rfl⟩

/-- A directive ends where its line does. -/
theorem splitDirective_append {directive : Text} (hs : startsWith "#!" directive = true)
    (hin : ∀ c ∈ directive, isInLine c = true) (ending : LineEnding) (rest : Text) :
    splitDirective (directive ++ (ending.text ++ rest)) =
      (some directive, ending.text ++ rest) := by
  obtain ⟨c, s, hc, hcl⟩ := exists_ending_text_eq_cons ending
  obtain ⟨r, hr⟩ := startsWith_iff.1 hs
  have hstart : startsWith "#!" (directive ++ (ending.text ++ rest)) = true :=
    startsWith_iff.2 ⟨r ++ (ending.text ++ rest), by rw [hr, List.append_assoc]⟩
  have htake : (directive ++ (ending.text ++ rest)).takeWhile isInLine = directive := by
    rw [List.takeWhile_append_of_pos hin, hc]
    simp [hcl]
  have hdrop : (directive ++ (ending.text ++ rest)).dropWhile isInLine = ending.text ++ rest := by
    rw [List.dropWhile_append_of_pos hin, hc]
    simp [hcl]
  rw [splitDirective, if_pos hstart, htake, hdrop]

namespace Document

variable {d : Document} {g : Grammar}

/-- What stands before the kept lines in a file that is rebuilt, the directive aside. -/
def leadLines (d : Document) (removed : List Block) (g : Grammar) (license : Text)
    (current : Int) : List Text :=
  List.replicate d.directiveLines.length [] ++ d.headerLines g license current ++
    separator (d.keptLines removed)

/-- The lines behind the directive of a file that is rebuilt. -/
def bodyLines (d : Document) (removed : List Block) (g : Grammar) (license : Text)
    (current : Int) : List Text :=
  d.leadLines removed g license current ++ d.keptLines removed

theorem joinable_separator (ending : LineEnding) (lines : List Text) :
    Joinable ending (separator lines) := by
  apply joinable_of_eq_nil
  intro line hl
  cases lines with
  | nil => cases hl
  | cons first rest =>
    rw [separator] at hl
    split at hl
    · cases hl
    · exact List.mem_singleton.1 hl

theorem Physical.joinable_bodyLines (hd : d.Physical) (hg : BuiltinSyntax g)
    (removed : List Block) (license : Text) (current : Int) :
    Joinable d.lineEnding (d.bodyLines removed g license current) :=
  (((joinable_of_eq_nil fun _ => List.eq_of_mem_replicate).append
    (hg.joinable_renderHeader _ _)).append (joinable_separator _ _)).append
      (hd.joinable.mono fun _ => mem_of_mem_keepLines)

/-- Lines that come apart again and start with those of a header are read as a text without a byte
order mark and a directive. -/
theorem splitDirective_header {form : WriteForm} (hf : form ∈ headerForms) {ending : LineEnding}
    {content rest : List Text} (h : Joinable ending (form.wrap content ++ rest)) :
    (joinWith ending.text (form.wrap content ++ rest)).head? ≠ some '\ufeff' ∧
      ∃ body, splitDirective (joinWith ending.text (form.wrap content ++ rest)) = (none, body) ∧
        splitLines body = form.wrap content ++ rest := by
  have hcons : form.wrap content ++ rest =
      form.opener :: (content.map form.contentLine ++ [form.closer] ++ rest) := by
    simp [WriteForm.wrap]
  obtain ⟨hmark, hstart⟩ := opener_of_mem_headerForms ending (joinWith ending.text
    (content.map form.contentLine ++ [form.closer] ++ rest)) form hf
  rw [← joinWith_ending_cons _ _ (by simp), ← hcons] at hmark hstart
  exact ⟨hmark, _, splitDirective_of_not_startsWith hstart, h.splitLines_joinWith (by simp [hcons])⟩

/-- Behind a directive, an empty line stands for the rest of its line. -/
theorem splitDirective_directive {directive : Text} (hs : startsWith "#!" directive = true)
    (hin : ∀ c ∈ directive, isInLine c = true) {ending : LineEnding} {rest : List Text}
    (h : Joinable ending ([] :: [] :: rest)) :
    (joinWith ending.text (directive :: [] :: rest)).head? ≠ some '\ufeff' ∧
      ∃ body, splitDirective (joinWith ending.text (directive :: [] :: rest)) =
          (some directive, body) ∧ splitLines body = [] :: [] :: rest := by
  have hsplit := h.splitLines_joinWith (by simp)
  rw [joinWith_ending_cons _ _ (by simp), List.nil_append] at hsplit
  rw [joinWith_ending_cons _ _ (by simp)]
  refine ⟨?_, _, splitDirective_append hs hin _ _, hsplit⟩
  obtain ⟨r, rfl⟩ := startsWith_iff.1 hs
  simp

/-- The rebuilt lines start with a directive or a header, and are cut behind the directive. -/
theorem Physical.splitDirective_rebuiltLines (hd : d.Physical) (hg : BuiltinSyntax g)
    (removed : List Block) (license : Text) (current : Int) :
    (joinWith d.lineEnding.text (d.rebuiltLines removed g license current)).head? ≠
        some '\ufeff' ∧
      ∃ body, splitDirective (joinWith d.lineEnding.text
          (d.rebuiltLines removed g license current)) = (d.directive, body) ∧
        splitLines body = d.bodyLines removed g license current := by
  have hbody := hd.joinable_bodyLines hg removed license current
  obtain ⟨form, hf, hform⟩ := hg.exists_renderHeader_eq_wrap
    (expandYears license d.startYear current)
  cases hdir : d.directive with
  | none =>
    have hlines : d.rebuiltLines removed g license current =
        form.wrap (contentLines (expandYears license d.startYear current)) ++
          (separator (d.keptLines removed) ++ d.keptLines removed) := by
      simp [rebuiltLines, directiveLines, hdir, headerLines, hform]
    have hsame : d.bodyLines removed g license current =
        d.rebuiltLines removed g license current := by
      simp [rebuiltLines, bodyLines, leadLines, directiveLines, hdir]
    rw [hsame, hlines] at hbody ⊢
    exact splitDirective_header hf hbody
  | some directive =>
    obtain ⟨hs, hin⟩ := hd.directive directive hdir
    have hlines : d.rebuiltLines removed g license current =
        directive :: [] :: (d.headerLines g license current ++
          separator (d.keptLines removed) ++ d.keptLines removed) := by
      simp [rebuiltLines, directiveLines, hdir]
    have hcons : d.bodyLines removed g license current =
        [] :: [] :: (d.headerLines g license current ++
          separator (d.keptLines removed) ++ d.keptLines removed) := by
      simp [bodyLines, leadLines, directiveLines, hdir, List.replicate_succ]
    rw [hcons] at hbody ⊢
    rw [hlines]
    exact splitDirective_directive hs hin hbody

/-- **A rebuilt file comes apart into what it was put together from.** -/
theorem Physical.parse_rebuild (hd : d.Physical) (hg : BuiltinSyntax g) (removed : List Block)
    (license : Text) (current : Int) :
    (parse g (d.rebuild removed g license current)).byteOrderMark = d.byteOrderMark ∧
      (parse g (d.rebuild removed g license current)).directive = d.directive ∧
      (parse g (d.rebuild removed g license current)).lines =
        d.bodyLines removed g license current := by
  obtain ⟨hmark, body, hdir, hlines⟩ := hd.splitDirective_rebuiltLines hg removed license current
  have hparse : ∀ s, (parse g s).byteOrderMark = (splitByteOrderMark s).1 ∧
      (parse g s).directive = (splitDirective (splitByteOrderMark s).2).1 ∧
      (parse g s).lines = splitLines (splitDirective (splitByteOrderMark s).2).2 :=
    fun _ => ⟨rfl, rfl, rfl⟩
  have h := hparse (d.rebuild removed g license current)
  rw [rebuild, splitByteOrderMark_append hd.byteOrderMark hmark, hdir, hlines] at h
  exact h

end Document

end LicenseAudit
