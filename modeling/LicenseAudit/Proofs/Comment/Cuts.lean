import LicenseAudit.Proofs.Comment.Segments
import LicenseAudit.Proofs.Document.Spans

/-!
# Lines cut out

Where no comment is open, the scanner holds nothing of the lines before but the blocks in them
(`Scanner.feedAll_of_idle`), and from there it goes on as a fresh one does, with larger line numbers
(`directScan_shift`). So lines between two such places can be cut out: the blocks among them are
gone, those before stay and those behind move up (`scanLines_append_append_of_idle`).

Both places matter. After the last line of a run the run is still open, and the line that ends it is
passed over; cut out without that line, the run leaves a line behind that is now looked at.
-/

namespace LicenseAudit

open Text

/-! ## Blocks further down -/

namespace Block

/-- The block as many lines further down. -/
def shift (count : Int) (b : Block) : Block :=
  { b with startLine := b.startLine + count, endLine := b.endLine + count }

theorem shift_shift (i j : Int) (b : Block) : (b.shift i).shift j = b.shift (i + j) := by
  simp [shift, Int.add_assoc]

end Block

/-- What becomes of blocks when `count` lines are cut out behind the first `front` ones: the blocks
among them are gone, and those behind move up. -/
def cutOut (front count : Nat) (blocks : List Block) : List Block :=
  blocks.filterMap fun b : Block =>
    if b.endLine ≤ front then some b
    else if b.startLine ≤ front + count then none
    else some (b.shift (-count))

section CutOut

variable {front count : Nat} {blocks blocks' : List Block}

theorem cutOut_append : cutOut front count (blocks ++ blocks') =
    cutOut front count blocks ++ cutOut front count blocks' := List.filterMap_append

theorem cutOut_eq_self (h : ∀ b ∈ blocks, b.endLine ≤ front) :
    cutOut front count blocks = blocks := by
  rw [cutOut, ← List.filterMap_some (l := blocks), List.filterMap_filterMap]
  refine List.filterMap_congr fun b hb => ?_
  simp [h b hb]

theorem cutOut_eq_nil (h : ∀ b ∈ blocks, front < b.endLine ∧ b.startLine ≤ front + count) :
    cutOut front count blocks = [] := by
  refine List.filterMap_eq_nil_iff.2 fun b hb => ?_
  obtain ⟨h₁, h₂⟩ := h b hb
  rw [if_neg (by omega), if_pos h₂]

theorem cutOut_map_shift (h : ∀ b ∈ blocks, 1 ≤ b.startLine ∧ b.startLine ≤ b.endLine) :
    cutOut front count (blocks.map (Block.shift (front + count))) =
      blocks.map (Block.shift front) := by
  rw [cutOut, List.filterMap_map, ← List.filterMap_eq_map]
  refine List.filterMap_congr fun b hb => ?_
  obtain ⟨h₁, h₂⟩ := h b hb
  have hend : ¬(b.shift (front + count)).endLine ≤ front := by
    simp only [Block.shift]
    omega
  have hstart : ¬(b.shift (front + count)).startLine ≤ front + count := by
    simp only [Block.shift]
    omega
  rw [Function.comp_apply, if_neg hend, if_neg hstart, Block.shift_shift, Int.add_neg_cancel_right,
    Function.comp_apply]

end CutOut

/-! ## Scanning from another line on -/

variable {g : Grammar}

/-- With larger line numbers the blocks are the same, further down. -/
theorem directScan_shift (number count : Int) (lines : List Text) :
    directScan g (number + count) lines = (directScan g number lines).map (Block.shift count) := by
  induction segmented g lines generalizing number with
  | nil => simp [directScan_nil]
  | code ho hc _ ih =>
    rw [directScan_code _ ho hc, directScan_code _ ho hc, ← ih, Int.add_right_comm]
  | unclosed ho hk => simp [directScan_unclosed _ ho hk]
  | closed ho hk _ ih =>
    rw [directScan_closed _ ho hk, directScan_closed _ ho hk, List.map_cons, ← ih]
    simp only [Block.shift, Int.add_right_comm _ count]
  | openRun ho hr =>
    rw [directScan_openRun _ ho hr, directScan_openRun _ ho hr, List.map_singleton]
    simp only [Block.shift, Int.add_right_comm _ count]
  | run ho hr hn _ ih =>
    rw [directScan_run _ ho hr hn, directScan_run _ ho hr hn,
      List.map_cons (f := Block.shift count), ← ih]
    simp only [Block.shift, Int.add_right_comm _ count]

/-- The blocks of a file's lines lie among them. -/
theorem bounds_of_mem_scanLines {lines : List Text} {b : Block} (hb : b ∈ scanLines g lines) :
    1 ≤ b.startLine ∧ b.startLine ≤ b.endLine ∧ b.endLine ≤ lines.length := by
  rw [scanLines_eq_directScan] at hb
  obtain ⟨h₁, h₂, h₃⟩ := bounds_of_mem_directScan hb
  rw [List.length_map] at h₃
  exact ⟨h₁, h₂, by omega⟩

/-! ## Places where no comment is open -/

namespace Scanner

theorem feedAll_append (m : Scanner) (number : Int) (front back : List Text) :
    m.feedAll g number (front ++ back) =
      (m.feedAll g number front).feedAll g (number + front.length) back := by
  induction front generalizing m number with
  | nil => simp [feedAll]
  | cons line front ih =>
    rw [List.cons_append, feedAll, ih, feedAll]
    congr 1
    simp only [List.length_cons]
    omega

/-- Where no comment is open, a scanner holds the blocks of the lines that it has taken in and
nothing else. -/
theorem feedAll_of_idle {lines : List Text} (h : (feedAll g {} 1 lines).state = .idle) :
    feedAll g {} 1 lines = { blocks := scanLines g lines } := by
  have hm := (sound_idle (g := g) (.nil 0)).feedAll lines
  have hfinish : (feedAll g {} 1 lines).finish = feedAll g {} 1 lines := by rw [finish, h]
  rw [scanLines, hfinish]
  exact hm.eq_of_idle h

end Scanner

/-- Behind a place where no comment is open, the blocks are those of the lines behind it, further
down. -/
theorem scanLines_append_of_idle {front : List Text}
    (h : (Scanner.feedAll g {} 1 front).state = .idle) (back : List Text) :
    scanLines g (front ++ back) =
      scanLines g front ++ (scanLines g back).map (Block.shift front.length) := by
  rw [scanLines, Scanner.feedAll_append, Scanner.feedAll_of_idle h, Scanner.feedAll_idle,
    directScan_shift, ← scanLines_eq_directScan]

/-- **Lines between two places where no comment is open can be cut out.** The blocks of all lines
are those of the three pieces, each further down by the lines before it; without the piece in the
middle its blocks are gone and the ones behind it move up. -/
theorem scanLines_append_append_of_idle {front middle : List Text}
    (hfront : (Scanner.feedAll g {} 1 front).state = .idle)
    (hmiddle : (Scanner.feedAll g {} 1 (front ++ middle)).state = .idle) (back : List Text) :
    scanLines g (front ++ middle ++ back) =
      scanLines g front ++ (scanLines g middle).map (Block.shift front.length) ++
        (scanLines g back).map (Block.shift (front.length + middle.length)) ∧
    scanLines g (front ++ back) =
      cutOut front.length middle.length (scanLines g (front ++ middle ++ back)) := by
  have hall : scanLines g (front ++ middle ++ back) =
      scanLines g front ++ (scanLines g middle).map (Block.shift front.length) ++
        (scanLines g back).map (Block.shift (front.length + middle.length)) := by
    rw [scanLines_append_of_idle hmiddle, scanLines_append_of_idle hfront, List.length_append]
    rfl
  refine ⟨hall, ?_⟩
  have hbefore : ∀ b ∈ scanLines g front, b.endLine ≤ front.length :=
    fun b hb => (bounds_of_mem_scanLines hb).2.2
  have hamong : ∀ b ∈ (scanLines g middle).map (Block.shift front.length),
      front.length < b.endLine ∧ b.startLine ≤ front.length + middle.length := by
    intro b hb
    obtain ⟨c, hc, rfl⟩ := List.mem_map.1 hb
    obtain ⟨h₁, h₂, h₃⟩ := bounds_of_mem_scanLines hc
    simp only [Block.shift]
    omega
  have hbehind : ∀ b ∈ scanLines g back, 1 ≤ b.startLine ∧ b.startLine ≤ b.endLine := fun b hb =>
    ⟨(bounds_of_mem_scanLines hb).1, (bounds_of_mem_scanLines hb).2.1⟩
  rw [hall, cutOut_append, cutOut_append, cutOut_eq_self hbefore, cutOut_eq_nil hamong,
    cutOut_map_shift hbehind, List.append_nil, scanLines_append_of_idle hfront]

-- A run that is cut out without the line that ends it: this line is looked at now.
example : scanLines (slashGrammar "c" ["c"]) ["/* b */"] ≠
    cutOut 0 1 (scanLines (slashGrammar "c" ["c"]) ["// a", "/* b */"]) := by decide +kernel

/-- Lines of a file with a run, a block comment and a run that reaches the end. -/
def mixedLines : List Text := ["// a", "", "/*", " * b", " */", "// c"]

theorem scanLines_append_append_of_idle_mixed :
    (Scanner.feedAll (slashGrammar "c" ["c"]) {} 1 (mixedLines.take 2)).state = .idle ∧
    (Scanner.feedAll (slashGrammar "c" ["c"]) {} 1 (mixedLines.take 5)).state = .idle ∧
    scanLines (slashGrammar "c" ["c"]) (mixedLines.take 2 ++ mixedLines.drop 5) =
      [⟨["a"], 1, 1, false, none⟩, ⟨["c"], 3, 3, false, none⟩] := by
  have hfront :
      (Scanner.feedAll (slashGrammar "c" ["c"]) {} 1 (mixedLines.take 2)).state = .idle := by
    decide +kernel
  have hmiddle : (Scanner.feedAll (slashGrammar "c" ["c"]) {} 1
      (mixedLines.take 2 ++ (mixedLines.drop 2).take 3)).state = .idle := by decide +kernel
  refine ⟨hfront, hmiddle, ?_⟩
  rw [(scanLines_append_append_of_idle hfront hmiddle (mixedLines.drop 5)).2]
  decide +kernel

end LicenseAudit
