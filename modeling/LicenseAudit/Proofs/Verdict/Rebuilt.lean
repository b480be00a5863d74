import LicenseAudit.Proofs.Comment.Exposure
import LicenseAudit.Proofs.Comment.Remainder
import LicenseAudit.Proofs.Header.Reassembly
import LicenseAudit.Proofs.Verdict.Settled

/-!
# The blocks of a rebuilt file

A rebuilt file starts with its header, and every other block in it is one of the blocks that were
left in place (`Document.Survives`) or was exposed by the removal (`Document.Exposes`):
`Document.ReadBy.exists_blocks_parse_rebuild`. When the grammar has comments of one kind only,
nothing is exposed (`Document.not_exposes`), and every block that was left in place is there
(`Document.ReadBy.exists_contents_parse_rebuild`).
-/

namespace LicenseAudit

open Text

namespace Document

/-! ## Documents read by a grammar -/

/-- The parts of a file that was taken apart by a grammar, whatever its start year. -/
structure ReadBy (d : Document) (g : Grammar) : Prop extends d.Physical where
  blocks : d.blocks = (directScan g 1 (d.lines.map trim)).map Block.annotate

theorem readBy_parse (g : Grammar) (s : Text) : (parse g s).ReadBy g where
  toPhysical := physical_parse g s
  blocks := blocks_parse g s

theorem ReadBy.settleYear {d : Document} {g : Grammar} (h : d.ReadBy g) (order : Order) :
    (d.settleYear order).ReadBy g where
  byteOrderMark := h.byteOrderMark
  directive := h.directive
  joinable := h.joinable
  blocks := h.blocks

/-- A block of a rebuilt file says what a block said that was not removed. -/
def Survives (d : Document) (removed : List Block) (b : Block) : Prop :=
  ∃ c ∈ d.blocks, c ∉ removed ∧ c.lines = b.lines ∧ c.isLicense = b.isLicense

/-- Line `number` of the old file was kept, and is line `number'` of the new file, which ends with
the lines that were kept. -/
def KeptAs (d : Document) (removed : List Block) (d' : Document) (number number' : Int) : Prop :=
  ∃ front, d'.lines = front ++ d.keptLines removed ∧
    KeptAt removed 1 d.lines (1 + front.length) number number'

/-- A block of the new file that begins at a kept line on which no block of the old file began. -/
def BeginsAnew (d : Document) (removed : List Block) (d' : Document) (b : Block) : Prop :=
  ∃ number, d.KeptAs removed d' number b.startLine ∧ ∀ c ∈ d.blocks, c.startLine ≠ number

/-- A block of the new file that begins at a line which opens a block comment and came directly
after a removed run of line comments. -/
def BeginsHidden (g : Grammar) (d : Document) (removed : List Block) (d' : Document) (b : Block) :
    Prop :=
  ∃ number, Hidden g removed 1 (d.lines.map trim) number ∧ d.KeptAs removed d' number b.startLine

/-- A block of the new file that came into view: at it or in front of it is a block that begins at
a hidden line, and all blocks from that one on to this one begin anew. -/
def Exposes (g : Grammar) (d : Document) (removed : List Block) (d' : Document) (b : Block) :
    Prop :=
  ∃ f ∈ d'.blocks, BeginsHidden g d removed d' f ∧ f.startLine ≤ b.startLine ∧
    ∀ e ∈ d'.blocks, f.startLine ≤ e.startLine → e.startLine ≤ b.startLine →
      d.BeginsAnew removed d' e

theorem Exposes.beginsAnew {g : Grammar} {d d' : Document} {removed : List Block} {b : Block}
    (h : Exposes g d removed d' b) (hb : b ∈ d'.blocks) : d.BeginsAnew removed d' b := by
  obtain ⟨f, -, -, hfb, hrow⟩ := h
  exact hrow b hb hfb (Int.le_refl _)

/-- Where there is one kind of comments, no comment comes into view. -/
theorem not_exposes {g : Grammar} (h : g.lineComments = [] ∨ g.blockComments = [])
    (d : Document) (removed : List Block) (d' : Document) (b : Block) :
    ¬ Exposes g d removed d' b := by
  rintro ⟨f, -, ⟨number, ⟨r, -, -, ⟨first, -, -, hc⟩, next, -, hopen⟩, -⟩, -⟩
  rw [openerOn?_eq_none_of_isLineComment h hc next] at hopen
  cases hopen

/-! ## The blocks behind the header -/

variable {d : Document} {g : Grammar} {removed : List Block}

theorem map_lines_annotate (blocks : List Block) :
    (blocks.map Block.annotate).map (·.lines) = blocks.map (·.lines) := by
  rw [List.map_map]
  exact List.map_congr_left fun b _ => b.lines_annotate

theorem contentsLeft_annotate (removed blocks : List Block) :
    contentsLeft removed (blocks.map Block.annotate) = contentsLeft removed blocks := by
  have hextent : (fun b : Block => decide (b.extent ∉ removed.map Block.extent)) ∘ Block.annotate =
      fun b => decide (b.extent ∉ removed.map Block.extent) :=
    funext fun b => by rw [Function.comp_apply, Block.extent, Block.extent_annotate]; rfl
  rw [contentsLeft, List.filter_map, map_lines_annotate, hextent]
  rfl

theorem ReadBy.removedAmong (h : d.ReadBy g) (hr : ∀ r ∈ removed, r ∈ d.blocks) (number : Int) :
    RemovedAmong removed (directScan g 1 (d.lines.map trim)) number := by
  intro r hmem
  have hb := hr r hmem
  rw [h.blocks] at hb
  obtain ⟨b, hscan, rfl⟩ := List.mem_map.1 hb
  exact .inr ⟨b, hscan, (Block.extent_annotate b).symm⟩

/-- The separator puts an empty line behind the header, and is passed over itself. -/
theorem directScan_separator (hg : BuiltinSyntax g) (kept : List Text) (number : Int) :
    (∀ line ∈ ((separator kept ++ kept).map trim).head?, line = []) ∧
      directScan g number ((separator kept ++ kept).map trim) =
        directScan g (number + (separator kept).length) (kept.map trim) := by
  cases kept with
  | nil => simp [separator]
  | cons line rest =>
    rw [separator]
    split
    · next hb => simp [trim_eq_nil_iff.2 hb]
    · refine ⟨by simp [trim_nil], ?_⟩
      have hcode := hg.code_nil
      exact directScan_code number hcode.1 hcode.2

/-- The lines of a rebuilt file are scanned as the header and then as the lines that were kept. -/
theorem directScan_bodyLines (hg : BuiltinSyntax g) {license : Text} (hs : DelimiterSafe g license)
    (d : Document) (removed : List Block) (current : Int) :
    ∃ header : Block, header.IsHeader g (expandYears license d.startYear current)
        (1 + d.directiveLines.length) ∧
      directScan g 1 ((d.bodyLines removed g license current).map trim) =
        header :: directScan g (1 + (d.leadLines removed g license current).length)
          ((d.keptLines removed).map trim) := by
  have htrim : (d.bodyLines removed g license current).map trim =
      List.replicate d.directiveLines.length [] ++ ((d.headerLines g license current).map trim ++
        (separator (d.keptLines removed) ++ d.keptLines removed).map trim) := by
    simp [bodyLines, leadLines, trim_nil]
  obtain ⟨hhead, hsep⟩ := directScan_separator hg (d.keptLines removed)
    (1 + d.directiveLines.length + (d.headerLines g license current).length)
  obtain ⟨header, hheader, hscan⟩ := directScan_renderHeader
    (hs.expandYears hg d.startYear current) (1 + d.directiveLines.length) hg hhead
  have hnumber : 1 + (d.directiveLines.length : Int) + (d.headerLines g license current).length +
      (separator (d.keptLines removed)).length =
        1 + ((d.leadLines removed g license current).length : Nat) := by
    simp only [leadLines, List.length_append, List.length_replicate]
    omega
  refine ⟨header, hheader, ?_⟩
  rw [htrim, hg.directScan_replicate, ← hnumber, ← hsep]
  exact hscan

theorem ReadBy.survives_of_mem (h : d.ReadBy g) {number : Int} {lines : List Text}
    {b c : Block} (hb : b ∈ directScan g 1 (d.lines.map trim))
    (hm : b.extent ∉ removed.map Block.extent) (hc : c ∈ directScan g number lines)
    (hl : b.lines = c.lines) : d.Survives removed c.annotate := by
  refine ⟨b.annotate, h.blocks ▸ List.mem_map_of_mem hb, fun hr => hm ?_, ?_, ?_⟩
  · exact List.mem_map.2 ⟨_, hr, Block.extent_annotate b⟩
  · rw [Block.lines_annotate, Block.lines_annotate, hl]
  · rw [Block.isLicense_annotate (isLicense_of_mem_directScan hb),
      Block.isLicense_annotate (isLicense_of_mem_directScan hc), Block.normalized,
      Block.normalized, hl]

/-- What comes into view among the kept lines comes into view in a file that ends with them. -/
theorem ReadBy.exposes_of_exposed (h : d.ReadBy g) {d' : Document} {front : List Text}
    {header b : Block} (hlines : d'.lines = front ++ d.keptLines removed)
    (hblocks : d'.blocks = header.annotate ::
      (directScan g (1 + front.length) (keepLines removed 1 (d.lines.map trim))).map
        Block.annotate)
    (hheader : header.startLine < 1 + front.length)
    (he : Exposed g removed 1 (d.lines.map trim) (1 + front.length) b) :
    Exposes g d removed d' b.annotate := by
  have hkeptAs : ∀ {number number'}, KeptAt removed 1 (d.lines.map trim) (1 + front.length)
      number number' → d.KeptAs removed d' number number' :=
    fun hk => ⟨front, hlines, (keptAt_map trim).1 hk⟩
  obtain ⟨f, hf, ⟨m, hhidden, hkept⟩, hfb, hrow⟩ := he
  refine ⟨f.annotate, ?_, ⟨m, hhidden, ?_⟩, ?_, fun e he hfe heb => ?_⟩
  · exact hblocks ▸ List.mem_cons_of_mem _ (List.mem_map_of_mem hf)
  · exact f.startLine_annotate ▸ hkeptAs hkept
  · rw [Block.startLine_annotate, Block.startLine_annotate]
    exact hfb
  · rw [hblocks] at he
    rcases List.mem_cons.1 he with rfl | he
    · -- the header is in front of all that was kept
      have := hkept.bounds.2
      rw [Block.startLine_annotate, Block.startLine_annotate] at hfe
      omega
    · obtain ⟨c, hc, rfl⟩ := List.mem_map.1 he
      rw [Block.startLine_annotate, Block.startLine_annotate] at hfe heb
      obtain ⟨number, hn, hnone⟩ := hrow c hc hfe heb
      refine ⟨number, c.startLine_annotate ▸ hkeptAs hn, fun old hold => ?_⟩
      rw [h.blocks] at hold
      obtain ⟨found, hfound, rfl⟩ := List.mem_map.1 hold
      exact found.startLine_annotate ▸ hnone found hfound

/-- The blocks of a rebuilt file are its header and what a scan of the kept lines finds. -/
theorem ReadBy.exists_scan_parse_rebuild (h : d.ReadBy g) (hg : BuiltinSyntax g) {license : Text}
    (hs : DelimiterSafe g license) (removed : List Block) (current : Int) :
    ∃ (header : Block) (front : List Text),
      header.IsHeader g (expandYears license d.startYear current)
        (1 + d.directiveLines.length) ∧
      header.startLine < 1 + front.length ∧
      (parse g (d.rebuild removed g license current)).lines = front ++ d.keptLines removed ∧
      (parse g (d.rebuild removed g license current)).blocks = header.annotate ::
        (directScan g (1 + front.length) (keepLines removed 1 (d.lines.map trim))).map
          Block.annotate := by
  have hlines := (h.toPhysical.parse_rebuild hg removed license current).2.2
  have hkept : (d.keptLines removed).map trim = keepLines removed 1 (d.lines.map trim) :=
    map_keepLines removed 1 trim d.lines
  obtain ⟨header, hheader, hscan⟩ := directScan_bodyLines hg hs d removed current
  have hbounds := bounds_of_mem_directScan (hscan ▸ List.mem_cons_self ..)
  rw [← hlines, hkept] at hscan
  refine ⟨header, d.leadLines removed g license current, hheader, ?_, hlines, ?_⟩
  · have hend := hheader.endLine
    simp only [leadLines, headerLines, List.length_append, List.length_replicate]
    omega
  · rw [blocks_parse, hscan, List.map_cons]

/-- **A rebuilt file is its header and the blocks that were left in place**, but for what the
removal exposed. -/
theorem ReadBy.exists_blocks_parse_rebuild (h : d.ReadBy g) (hg : BuiltinSyntax g)
    (hr : ∀ r ∈ removed, r ∈ d.blocks) {license : Text} (hs : DelimiterSafe g license)
    (current : Int) :
    ∃ (header : Block) (rest : List Block),
      (parse g (d.rebuild removed g license current)).blocks = header.annotate :: rest ∧
      header.IsHeader g (expandYears license d.startYear current)
        (1 + d.directiveLines.length) ∧
      ∀ b ∈ rest, d.Survives removed b ∨
        Exposes g d removed (parse g (d.rebuild removed g license current)) b := by
  obtain ⟨header, front, hheader, hlt, hlines, hblocks⟩ :=
    h.exists_scan_parse_rebuild hg hs removed current
  refine ⟨header, _, hblocks, hheader, fun b hb => ?_⟩
  obtain ⟨c, hc, rfl⟩ := List.mem_map.1 hb
  rcases accounted _ (h.removedAmong hr 1) c hc with ⟨b, hb, hm, hl⟩ | he
  · exact .inl (h.survives_of_mem hb hm hc hl)
  · exact .inr (h.exposes_of_exposed hlines hblocks hlt he)

/-- Where there is one kind of comments, all the blocks that were left in place are there, in their
order. -/
theorem ReadBy.exists_contents_parse_rebuild (h : d.ReadBy g) (hg : BuiltinSyntax g)
    (hkind : g.lineComments = [] ∨ g.blockComments = []) (hr : ∀ r ∈ removed, r ∈ d.blocks)
    {license : Text} (hs : DelimiterSafe g license) (current : Int) :
    ∃ (header : Block) (rest : List Block),
      (parse g (d.rebuild removed g license current)).blocks = header.annotate :: rest ∧
      header.IsHeader g (expandYears license d.startYear current)
        (1 + d.directiveLines.length) ∧
      rest.map (·.lines) = contentsLeft removed d.blocks := by
  obtain ⟨header, front, hheader, -, -, hblocks⟩ :=
    h.exists_scan_parse_rebuild hg hs removed current
  refine ⟨header, _, hblocks, hheader, ?_⟩
  rw [map_lines_annotate, h.blocks, contentsLeft_annotate]
  exact contents_directScan_keepLines hkind _ (h.removedAmong hr 1)

end Document

end LicenseAudit
