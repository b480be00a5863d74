import LicenseAudit.Proofs.Comment.Segments
import LicenseAudit.Proofs.Comment.Stripping
import LicenseAudit.Proofs.Verdict.Settled

/-!
# Content and lines

What a block says stands on the lines that it spans, line for line. `Transcribes` has one
constructor for each way in which content comes about: from line comments, from a block comment,
and from a block comment whose closing line says nothing and is left out of the content. Every
content line is a trimmed part of its line, and what was stripped from it is not in front of it any
more (`TakenFrom`).

The blocks of a file transcribe their spans (`Document.transcribes_parse`). The proof follows the
segments of the scanner: a block is found in front of a segment, and the segments after it only add
lines behind.
-/

namespace LicenseAudit

open Text

/-! ## Transcripts -/

/-- The text is what the line says as a line comment, without the prefix that starts it. -/
def Grammar.Comments (g : Grammar) (line text : Text) : Prop :=
  ∃ mark, g.lineComments.find? (fun mark => startsWith mark (trim line)) = some mark ∧
    mark ≠ [] ∧ TakenFrom mark line text

/-- The text is what the line says within a block comment, without its decoration. -/
def BlockDelimiters.Says (d : BlockDelimiters) (line text : Text) : Prop :=
  TakenFrom (d.decoration.getD []) line text

/-- A block comment opens on the first of these lines and closes on the last. -/
structure Grammar.Encloses (g : Grammar) (d : BlockDelimiters) (line : Text) (later : List Text) :
    Prop where
  opens : g.openerOn? (trim line) = some d
  closes : d.closesAfter? (d.behindOpener (trim line)) (later.map trim) = some later.length

/-- The lines are a comment that says the content. -/
inductive Transcribes (g : Grammar) : List Text → List Text → Prop
  /-- Line comments, each of them a content line, if only an empty one. -/
  | run {line : Text} {later content : List Text} (ho : g.openerOn? (trim line) = none)
      (h : List.Forall₂ g.Comments (line :: later) content) :
      Transcribes g (line :: later) content
  /-- A block comment on one line, or one whose closing line says something. -/
  | block {d : BlockDelimiters} {line : Text} {later content : List Text}
      (hd : g.Encloses d line later)
      (hlast : ∀ last ∈ later.getLast?, d.lastContent (trim last) ≠ [])
      (h : List.Forall₂ d.Says (line :: later) content) : Transcribes g (line :: later) content
  /-- A block comment whose closing line says nothing. -/
  | bareEnd {d : BlockDelimiters} {line last : Text} {later content : List Text}
      (hd : g.Encloses d line (later ++ [last])) (hlast : d.lastContent (trim last) = [])
      (h : List.Forall₂ d.Says (line :: later) content) :
      Transcribes g (line :: (later ++ [last])) content

/-- The lines are a block comment of more than one line that closes on a line that says nothing. -/
def Grammar.EndsBare (g : Grammar) (span : List Text) : Prop :=
  ∃ d line later last, span = line :: (later ++ [last]) ∧ g.Encloses d line (later ++ [last]) ∧
    d.lastContent (trim last) = []

namespace Transcribes

variable {g : Grammar} {span content : List Text}

/-- A comment says something, -/
theorem content_ne_nil (h : Transcribes g span content) : content ≠ [] := by
  rintro rfl
  cases h with
  | run _ h => cases h
  | block _ _ h => cases h
  | bareEnd _ _ h => cases h

/-- line for line, but for a closing line that says nothing. -/
theorem length_content (h : Transcribes g span content) :
    (¬ g.EndsBare span ∧ content.length = span.length) ∨
      g.EndsBare span ∧ content.length + 1 = span.length := by
  cases h with
  | run ho h =>
    refine .inl ⟨?_, h.length_eq.symm⟩
    rintro ⟨d, line, later, last, hspan, hd, -⟩
    obtain ⟨rfl, -⟩ := List.cons.inj hspan
    rw [hd.opens] at ho
    cases ho
  | block hd hlast h =>
    refine .inl ⟨?_, h.length_eq.symm⟩
    rintro ⟨d', line, later, last, hspan, hd', hbare⟩
    obtain ⟨rfl, rfl⟩ := List.cons.inj hspan
    obtain rfl := Option.some.inj (hd.opens.symm.trans hd'.opens)
    exact hlast last (by simp) hbare
  | bareEnd hd hlast h =>
    refine .inr ⟨⟨_, _, _, _, rfl, hd, hlast⟩, ?_⟩
    have hlength := h.length_eq
    simp only [List.length_cons, List.length_append, List.length_nil] at hlength ⊢
    omega

end Transcribes

/-! ## Segments as transcripts -/

section Segments

variable {g : Grammar} {d : BlockDelimiters} {line : Text} {later : List Text}

theorem BlockDelimiters.says_stripDecoration {part : Text} (h : part <:+: line) :
    d.Says line (stripDecoration d.decoration part) :=
  takenFrom_stripMark _ ((trim_isInfix part).trans h) (trim_trim part)

theorem BlockDelimiters.says_lastContent {part : Text} (h : part <:+: line) :
    d.Says line (d.lastContent part) := by
  refine says_stripDecoration (List.IsInfix.trans ?_ h)
  cases hb : before? d.closer part with
  | none => exact List.infix_rfl
  | some inner => exact ⟨[], d.closer, (before?_eq_some_iff.1 hb).symm⟩

theorem BlockDelimiters.behindOpener_isInfix (line : Text) :
    d.behindOpener (trim line) <:+: line :=
  (List.drop_suffix _ _).isInfix.trans (trim_isInfix line)

theorem BlockDelimiters.forall₂_says (later : List Text) :
    List.Forall₂ d.Says later ((later.map trim).map (stripDecoration d.decoration)) := by
  rw [List.forall₂_map_right_iff, List.forall₂_map_right_iff, List.forall₂_same]
  exact fun line _ => says_stripDecoration (trim_isInfix line)

/-- A block comment is a transcript of its lines. -/
theorem Grammar.Encloses.transcribes (hd : g.Encloses d line later) :
    Transcribes g (line :: later) (d.content (d.behindOpener (trim line)) (later.map trim)) := by
  have hfirst := BlockDelimiters.behindOpener_isInfix (d := d) line
  rcases List.eq_nil_or_concat later with rfl | ⟨later, last, rfl⟩
  · exact .block hd (by simp) (.cons (BlockDelimiters.says_lastContent hfirst) .nil)
  · rw [List.concat_eq_append] at hd ⊢
    have hcontent : d.content (d.behindOpener (trim line)) ((later ++ [last]).map trim) =
        stripDecoration d.decoration (d.behindOpener (trim line)) ::
          ((later.map trim).map (stripDecoration d.decoration) ++ d.laterContent [trim last]) := by
      rw [BlockDelimiters.content, if_neg (by simp), List.map_append, List.map_singleton,
        BlockDelimiters.laterContent_concat]
    have hlater : List.Forall₂ d.Says (line :: later) _ :=
      .cons (BlockDelimiters.says_stripDecoration hfirst) (BlockDelimiters.forall₂_says later)
    rw [hcontent, BlockDelimiters.laterContent]
    by_cases hlast : d.lastContent (trim last) = []
    · rw [hlast, List.isEmpty_nil, if_pos rfl, List.append_nil]
      exact .bareEnd hd hlast hlater
    · rw [if_neg (by simpa using hlast)]
      have hsays := BlockDelimiters.says_lastContent (d := d) (trim_isInfix last)
      exact .block hd (by simpa using hlast) (List.rel_append hlater (.cons hsays .nil))

theorem Grammar.comments_lineContent (hg : [] ∉ g.lineComments)
    (h : g.isLineComment (trim line) = true) : g.Comments line (g.lineContent (trim line)) := by
  have hsome : (g.lineComments.find? fun mark => startsWith mark (trim line)).isSome = true := by
    rw [List.find?_isSome]
    exact List.any_eq_true.1 h
  obtain ⟨mark, hmark⟩ := Option.isSome_iff_exists.1 hsome
  have hcontent : g.lineContent (trim line) = stripMark mark (trim line) := by
    simp [Grammar.lineContent, stripLinePrefix?, hmark]
  refine ⟨mark, hmark, ne_of_mem_of_not_mem (List.mem_of_find?_eq_some hmark) hg, ?_⟩
  rw [hcontent]
  exact takenFrom_stripMark mark (trim_isInfix line) (trim_trim line)

/-- Line comments are a transcript of their lines. -/
theorem transcribes_run (hg : [] ∉ g.lineComments) (ho : g.openerOn? (trim line) = none)
    (hr : ∀ l ∈ (line :: later).map trim, g.isLineComment l = true) :
    Transcribes g (line :: later) (((line :: later).map trim).map g.lineContent) := by
  refine .run ho ?_
  rw [List.forall₂_map_right_iff, List.forall₂_map_right_iff, List.forall₂_same]
  intro l hl
  exact g.comments_lineContent hg (hr _ (List.mem_map_of_mem hl))

end Segments

/-! ## The blocks of a file -/

/-- Among lines numbered from `number` on, the block spans lines that it is a transcript of. -/
def Block.StandsOn (b : Block) (g : Grammar) (number : Int) (lines : List Text) : Prop :=
  ∃ front span back, lines = front ++ span ++ back ∧ b.startLine = number + front.length ∧
    b.endLine + 1 = number + front.length + span.length ∧ Transcribes g span b.lines

namespace Block.StandsOn

variable {b : Block} {g : Grammar} {number : Int} {lines : List Text}

/-- A block on the first lines. -/
theorem of_transcribes {span content : List Text} (h : Transcribes g span content) {last : Int}
    (hlast : last + 1 = number + span.length) (back : List Text) :
    StandsOn ⟨content, number, last, false, none⟩ g number (span ++ back) := by
  refine ⟨[], span, back, rfl, by simp, ?_, h⟩
  simpa using hlast

/-- Lines in front of a block do not change where it stands, when they are counted too. -/
theorem append (front : List Text) (h : b.StandsOn g (number + front.length) lines) :
    b.StandsOn g number (front ++ lines) := by
  obtain ⟨front', span, back, rfl, hstart, hend, hspan⟩ := h
  refine ⟨front ++ front', span, back, by simp, ?_, ?_, hspan⟩
  · rw [hstart, List.length_append]
    omega
  · rw [hend, List.length_append]
    omega

end Block.StandsOn

/-- **What is found among lines is what they say.** -/
theorem standsOn_of_mem_directScan {g : Grammar} (hg : [] ∉ g.lineComments) {number : Int}
    {lines : List Text} {b : Block} (hb : b ∈ directScan g number (lines.map trim)) :
    b.StandsOn g number lines := by
  obtain ⟨trimmed, htrimmed⟩ : ∃ trimmed, lines.map trim = trimmed := ⟨_, rfl⟩
  rw [htrimmed] at hb
  induction segmented g trimmed generalizing number lines with
  | nil => simp [directScan_nil] at hb
  | code ho hc _ ih =>
    obtain ⟨line, rest, rfl, rfl, hrest⟩ := List.map_eq_cons_iff.1 htrimmed
    rw [directScan_code number ho hc] at hb
    exact (ih hb hrest).append [line]
  | unclosed ho hk => simp [directScan_unclosed number ho hk] at hb
  | closed ho hk _ ih =>
    obtain ⟨line, behind, rfl, rfl, hbehind⟩ := List.map_eq_cons_iff.1 htrimmed
    obtain ⟨later, rest, rfl, rfl, hrest⟩ := List.map_eq_append_iff.1 hbehind
    rw [directScan_closed number ho hk, List.length_map] at hb
    rw [List.length_map] at hk
    rcases List.mem_cons.1 hb with rfl | hb
    · have hd : g.Encloses _ line later := ⟨ho, hk⟩
      exact .of_transcribes hd.transcribes (by rw [List.length_cons]; omega) rest
    · have hnumber : number + (line :: later).length = number + later.length + 1 := by
        rw [List.length_cons]
        omega
      exact .append (line :: later) (ih (hnumber ▸ hb) hrest)
  | openRun ho hr =>
    obtain ⟨line, later, rfl, rfl, rfl⟩ := List.map_eq_cons_iff.1 htrimmed
    rw [directScan_openRun number ho hr, List.length_map, List.mem_singleton] at hb
    subst hb
    have h : Transcribes g (line :: later) _ := transcribes_run hg ho hr
    simpa using Block.StandsOn.of_transcribes h (by rw [List.length_cons]; omega) []
  | run ho hr hn _ ih =>
    obtain ⟨line, behind, rfl, rfl, hbehind⟩ := List.map_eq_cons_iff.1 htrimmed
    obtain ⟨later, tail, rfl, rfl, htail⟩ := List.map_eq_append_iff.1 hbehind
    obtain ⟨next, rest, rfl, rfl, hrest⟩ := List.map_eq_cons_iff.1 htail
    rw [directScan_run number ho hr hn, List.length_map] at hb
    rcases List.mem_cons.1 hb with rfl | hb
    · have h : Transcribes g (line :: later) _ := transcribes_run hg ho hr
      exact .of_transcribes h (by rw [List.length_cons]; omega) (next :: rest)
    · have hnumber : number + (line :: (later ++ [next])).length =
          number + later.length + 1 + 1 := by
        simp only [List.length_cons, List.length_append, List.length_nil]
        omega
      have h := Block.StandsOn.append (line :: (later ++ [next])) (ih (hnumber ▸ hb) hrest)
      simpa using h

/-- **The blocks of a file say what stands on their lines**: every block says something, on each of
its lines, but for a closing line that says nothing and is left out. -/
theorem Document.transcribes_parse {g : Grammar} (hg : [] ∉ g.lineComments) (s : Text) :
    ∀ b ∈ (parse g s).blocks, b.lines ≠ [] ∧
      ∃ front span back, (parse g s).lines = front ++ span ++ back ∧
        b.startLine = front.length + 1 ∧ b.endLine = front.length + span.length ∧
        Transcribes g span b.lines ∧
        ((¬ g.EndsBare span ∧ (b.lines.length : Int) = b.endLine - b.startLine + 1) ∨
          g.EndsBare span ∧ b.startLine < b.endLine ∧
            (b.lines.length : Int) = b.endLine - b.startLine) := by
  intro b hb
  rw [blocks_parse] at hb
  obtain ⟨found, hfound, rfl⟩ := List.mem_map.1 hb
  obtain ⟨hstart, hend⟩ := Prod.mk.inj found.extent_annotate
  rw [hstart, hend, found.lines_annotate]
  obtain ⟨front, span, back, hlines, hfirst, hlast, h⟩ := standsOn_of_mem_directScan hg hfound
  refine ⟨h.content_ne_nil, front, span, back, hlines, by omega, by omega, h, ?_⟩
  have hpos := List.length_pos_of_ne_nil h.content_ne_nil
  rcases h.length_content with ⟨hbare, hcount⟩ | ⟨hbare, hcount⟩
  · exact .inl ⟨hbare, by omega⟩
  · exact .inr ⟨hbare, by omega, by omega⟩

/-- A block comment with stars on its lines, the last of which says nothing. -/
def starredText : Text := "/**\n * Some notice\n */\nint x;\n"

theorem Document.transcribes_parse_starredText :
    [] ∉ (slashGrammar "c" ["c"]).lineComments ∧
    ⟨[[], "Some notice"], 1, 3, false, none⟩ ∈
      (parse (slashGrammar "c" ["c"]) starredText).blocks ∧
    Transcribes (slashGrammar "c" ["c"]) ["/**", " * Some notice", " */"] [[], "Some notice"] := by
  have hg : [] ∉ (slashGrammar "c" ["c"]).lineComments := by decide
  have hb : ⟨[[], "Some notice"], 1, 3, false, none⟩ ∈
      (parse (slashGrammar "c" ["c"]) starredText).blocks := by decide +kernel
  refine ⟨hg, hb, ?_⟩
  obtain ⟨-, front, span, back, hlines, hstart, hend, h, -⟩ :=
    transcribes_parse hg starredText _ hb
  have hfront : front = [] := by
    apply List.length_eq_zero_iff.1
    dsimp only at hstart
    omega
  have hspan : span.length = 3 := by
    rw [hfront, List.length_nil] at hend
    dsimp only at hend
    omega
  have htake : span = (parse (slashGrammar "c" ["c"]) starredText).lines.take 3 := by
    rw [hlines, hfront, List.nil_append, ← hspan, List.take_left]
  rw [htake] at h
  exact h

end LicenseAudit
