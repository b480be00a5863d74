import LicenseAudit.Proofs.Verdict.Settled

/-!
# Spans

A scanner that has taken in the lines `1` to `n` keeps its books in order (`Scanner.Sound`): the
blocks it has found lie one behind the other within these lines (`Spaced`), an open comment starts
behind them and reaches to line `n`, and an idle machine holds nothing of a comment. One line
preserves this (`Scanner.Sound.feed`), and so do all of them and the end of the input
(`Scanner.Sound.feedAll`, `Scanner.Sound.finish`).

So the blocks of a file lie one behind the other within its lines (`Document.spaced_parse`).
-/

namespace LicenseAudit

open Text

/-! ## Blocks one behind the other -/

/-- Blocks that lie one behind the other within the lines `1` to `count`. -/
structure Spaced (count : Nat) (blocks : List Block) : Prop where
  within : ∀ b ∈ blocks, 1 ≤ b.startLine ∧ b.startLine ≤ b.endLine ∧ b.endLine ≤ count
  apart : blocks.Pairwise fun b c => b.endLine < c.startLine

namespace Spaced

variable {count : Nat} {blocks : List Block}

theorem nil (count : Nat) : Spaced count [] := ⟨by simp, .nil⟩

theorem succ (h : Spaced count blocks) : Spaced (count + 1) blocks where
  within b hb := by
    obtain ⟨h₁, h₂, h₃⟩ := h.within b hb
    omega
  apart := h.apart

/-- One more block, behind all the others. -/
theorem concat (h : Spaced count blocks) {first last : Int} (content : List Text)
    (hb : ∀ b ∈ blocks, b.endLine < first) (h₁ : 1 ≤ first) (h₂ : first ≤ last)
    (h₃ : last ≤ count) :
    Spaced count (blocks ++ [⟨content, first, last, false, none⟩]) where
  within b hm := by
    rcases List.mem_append.1 hm with hm | hm
    · exact h.within b hm
    · rw [List.mem_singleton.1 hm]
      exact ⟨h₁, h₂, h₃⟩
  apart := by
    refine List.pairwise_append.2 ⟨h.apart, List.pairwise_singleton _ _, fun b hm c hc => ?_⟩
    rw [List.mem_singleton.1 hc]
    exact hb b hm

/-- The marks that annotation adds do not move a block. -/
theorem map_annotate (h : Spaced count blocks) : Spaced count (blocks.map Block.annotate) where
  within b hb := by
    obtain ⟨c, hc, rfl⟩ := List.mem_map.1 hb
    obtain ⟨hs, he⟩ := Prod.mk.inj c.extent_annotate
    rw [hs, he]
    exact h.within c hc
  apart := by
    refine List.pairwise_map.2 (h.apart.imp fun {b c} hbc => ?_)
    rwa [(Prod.mk.inj b.extent_annotate).2, (Prod.mk.inj c.extent_annotate).1]

end Spaced

/-! ## The table of actions -/

theorem mem_of_openerOn?_eq_some {g : Grammar} {line : Text} {d : BlockDelimiters}
    (h : g.openerOn? line = some d) : d ∈ g.blockComments :=
  List.mem_of_find?_eq_some h

/-- A line that is no block comment has an action outside of block comments. -/
theorem exists_action_classifyPlain (g : Grammar) (line : Text) {state : ScanState}
    (hs : state = .idle ∨ state = .inRun) :
    ∃ action, Action.of? state (classifyPlain g line).kind = some action ∧ action ≠ .openBlock := by
  rw [classifyPlain_eq]
  rcases hs with rfl | rfl <;> split
  · exact ⟨.openRun, rfl, by decide⟩
  · exact ⟨.skip, rfl, by decide⟩
  · exact ⟨.append, rfl, by decide⟩
  · exact ⟨.closeRun, rfl, by decide⟩

/-- The table has an action for every line in every state, and only delimiters of the grammar open
a block comment. -/
theorem exists_action_classify (g : Grammar) (state : ScanState) (line : Text) :
    ∃ action, Action.of? state (classify g state line).kind = some action ∧
      (action = .openBlock → ∃ d ∈ g.blockComments,
        (classify g state line).delimiters = some d) := by
  cases state with
  | inBlock d =>
    rw [classify]
    split
    · exact ⟨.closeBlock, rfl, by simp⟩
    · exact ⟨.append, rfl, by simp⟩
  | inRun =>
    obtain ⟨action, ha, hn⟩ := exists_action_classifyPlain g line (.inr rfl)
    exact ⟨action, ha, fun h => absurd h hn⟩
  | idle =>
    rw [classify, openerOf?_eq]
    cases ho : g.openerOn? line with
    | none =>
      obtain ⟨action, ha, hn⟩ := exists_action_classifyPlain g line (.inl rfl)
      exact ⟨action, ha, fun h => absurd h hn⟩
    | some d =>
      dsimp only [Option.map_some]
      split
      · exact ⟨.emitOneLiner, rfl, by simp⟩
      · exact ⟨.openBlock, rfl, fun _ => ⟨d, mem_of_openerOn?_eq_some ho, rfl⟩⟩

/-! ## The books of a scanner -/

namespace Scanner

/-- What holds of a machine that has taken in the lines `1` to `count`. -/
structure Sound (g : Grammar) (count : Nat) (m : Scanner) : Prop where
  spaced : Spaced count m.blocks
  /-- An idle machine holds nothing of a comment. -/
  idle : m.state = .idle → m.content = [] ∧ m.startLine = 0 ∧ m.endLine = 0
  /-- An open comment says something, -/
  content : m.state ≠ .idle → m.content ≠ []
  /-- reaches to the last line, -/
  extent : m.state ≠ .idle → 1 ≤ m.startLine ∧ m.startLine ≤ m.endLine ∧ m.endLine = count
  /-- starts behind the blocks found before, -/
  behind : m.state ≠ .idle → ∀ b ∈ m.blocks, b.endLine < m.startLine
  /-- and was opened by delimiters of the grammar. -/
  delimiters : ∀ d, m.state = .inBlock d → d ∈ g.blockComments

variable {g : Grammar} {count : Nat} {blocks : List Block}

theorem sound_idle (h : Spaced count blocks) : Sound g count { blocks } where
  spaced := h
  idle _ := ⟨rfl, rfl, rfl⟩
  content hs := absurd rfl hs
  extent hs := absurd rfl hs
  behind hs := absurd rfl hs
  delimiters _ hs := by cases hs

theorem sound_open {state : ScanState} {content : List Text} {first : Int}
    (h : Spaced count blocks) (hs : state ≠ .idle) (hc : content ≠ []) (h₁ : 1 ≤ first)
    (h₂ : first ≤ count) (hb : ∀ b ∈ blocks, b.endLine < first)
    (hd : ∀ d, state = .inBlock d → d ∈ g.blockComments) :
    Sound g count ⟨state, content, first, count, blocks⟩ where
  spaced := h
  idle hi := absurd hi hs
  content _ := hc
  extent _ := ⟨h₁, h₂, rfl⟩
  behind _ := hb
  delimiters := hd

variable {m : Scanner}

/-- An idle machine is known by its blocks. -/
theorem Sound.eq_of_idle (h : m.Sound g count) (hs : m.state = .idle) :
    m = { blocks := m.blocks } := by
  obtain ⟨hc, h₁, h₂⟩ := h.idle hs
  cases m
  simp_all

/-- Blocks found among the lines so far end before the next line. -/
theorem Sound.lt_of_mem (h : m.Sound g count) :
    ∀ b ∈ m.blocks, b.endLine < ((count + 1 : Nat) : Int) := by
  intro b hb
  have := (h.spaced.within b hb).2.2
  omega

theorem Sound.feed_of_idle (h : m.Sound g count) (hs : m.state = .idle) (line : Text) :
    (m.feed g (count + 1 : Nat) line).Sound g (count + 1) := by
  have hb := h.lt_of_mem
  have hspaced := h.spaced.succ
  rw [h.eq_of_idle hs, feed_idle]
  split
  · next d ho =>
    split
    · exact sound_idle (hspaced.concat _ hb (by omega) (Int.le_refl _) (Int.le_refl _))
    · refine sound_open hspaced (by simp) (by simp) (by omega) (Int.le_refl _) hb ?_
      rintro d' hd
      obtain rfl := ScanState.inBlock.inj hd
      exact mem_of_openerOn?_eq_some ho
  · split
    · exact sound_open hspaced (by simp) (by simp) (by omega) (Int.le_refl _) hb (by simp)
    · exact sound_idle hspaced

/-- In an open comment a line is added to it, or ends it. -/
theorem Sound.feed_of_open (h : m.Sound g count) (hs : m.state ≠ .idle) (line : Text) :
    (m.feed g (count + 1 : Nat) line).Sound g (count + 1) := by
  have hspaced := h.spaced.succ
  have hcontent := h.content hs
  have hbehind := h.behind hs
  have hdelimiters := h.delimiters
  obtain ⟨h₁, h₂, h₃⟩ := h.extent hs
  obtain ⟨state, content, first, last, blocks⟩ := m
  dsimp only at hs hspaced hcontent hbehind hdelimiters h₁ h₂ h₃
  cases state with
  | idle => exact absurd rfl hs
  | inRun =>
    rw [feed_inRun]
    split
    · exact sound_open hspaced (by simp) (by simp) h₁ (by omega) hbehind (by simp)
    · exact sound_idle (hspaced.concat _ hbehind h₁ h₂ (by omega))
  | inBlock d =>
    rw [feed_inBlock]
    split
    · exact sound_idle (hspaced.concat _ hbehind h₁ (by omega) (Int.le_refl _))
    · exact sound_open hspaced (by simp) (by simp) h₁ (by omega) hbehind hdelimiters

/-- **One line keeps the books in order.** -/
theorem Sound.feed (h : m.Sound g count) (line : Text) :
    (m.feed g (count + 1 : Nat) line).Sound g (count + 1) := by
  by_cases hs : m.state = .idle
  · exact h.feed_of_idle hs line
  · exact h.feed_of_open hs line

/-- So do the lines that follow. -/
theorem Sound.feedAll (h : m.Sound g count) (lines : List Text) :
    (m.feedAll g (count + 1 : Nat) lines).Sound g (count + lines.length) := by
  induction lines generalizing m count with
  | nil => exact h
  | cons line rest ih =>
    have hrest := ih (h.feed line)
    rwa [Nat.add_assoc, Nat.add_comm 1] at hrest

/-- At the end of the input an open comment is dropped or becomes the last block. -/
theorem Sound.finish (h : m.Sound g count) :
    m.finish.Sound g count ∧ m.finish.state = .idle ∧
      ∃ last : Option Block, m.finish.blocks = m.blocks ++ last.toList := by
  have hspaced := h.spaced
  rw [Scanner.finish]
  split
  · next hs => exact ⟨h, hs, none, by simp⟩
  · next hs =>
    have hne : m.state ≠ .idle := by simp [hs]
    obtain ⟨h₁, h₂, h₃⟩ := h.extent hne
    exact ⟨sound_idle (hspaced.concat _ (h.behind hne) h₁ h₂ (by omega)), rfl, some _, rfl⟩
  · exact ⟨sound_idle hspaced, rfl, none, by simp [reset]⟩

end Scanner

/-! ## The blocks of a file -/

/-- The blocks of a file lie one behind the other within its lines. -/
theorem Document.spaced_parse (g : Grammar) (s : Text) :
    Spaced (parse g s).lines.length (parse g s).blocks := by
  have hm := (Scanner.sound_idle (g := g) (.nil 0)).feedAll (parse g s).lines
  rw [Nat.zero_add] at hm
  exact hm.finish.1.spaced.map_annotate

/-- **The books of a scanner are in order after every line and at the end of the input**, and each
line has an action. -/
theorem sound_feedAll_and_spaced_parse (g : Grammar) :
    (∀ lines : List Text,
      let m := Scanner.feedAll g {} 1 lines
      m.Sound g lines.length ∧
      (∀ line, ∃ action, Action.of? m.state (classify g m.state (trim line)).kind = some action ∧
        (action = .openBlock → ∃ d ∈ g.blockComments,
          (classify g m.state (trim line)).delimiters = some d)) ∧
      m.finish.Sound g lines.length ∧ m.finish.state = .idle ∧
      ∃ last : Option Block, m.finish.blocks = m.blocks ++ last.toList) ∧
    ∀ s, Spaced (Document.parse g s).lines.length (Document.parse g s).blocks := by
  refine ⟨fun lines => ?_, Document.spaced_parse g⟩
  have hm := (Scanner.sound_idle (g := g) (.nil 0)).feedAll lines
  rw [Nat.zero_add] at hm
  exact ⟨hm, fun line => exists_action_classify g _ (trim line), hm.finish⟩

end LicenseAudit
