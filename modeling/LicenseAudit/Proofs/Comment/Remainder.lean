import LicenseAudit.Proofs.Comment.Excision

/-!
# What a removal leaves

Where there is one kind of comments, taking the lines of some blocks out of a file takes these
blocks out of the scan and changes nothing else: a scan of the lines that are kept finds the other
blocks, in their order and with their content (`contents_directScan_keepLines`).

A line that ended a removed run is looked at for the first time. It is no line comment, or it would
have been part of the run, and where there are line comments nothing else opens one.
-/

namespace LicenseAudit

open Text

/-- The contents of the blocks that are not removed. -/
def contentsLeft (removed blocks : List Block) : List (List Text) :=
  (blocks.filter fun b => b.extent ∉ removed.map Block.extent).map (·.lines)

theorem contentsLeft_cons (removed : List Block) (content : List Text) (first last : Int)
    (blocks : List Block) :
    contentsLeft removed (⟨content, first, last, false, none⟩ :: blocks) =
      if (first, last) ∈ removed.map Block.extent then contentsLeft removed blocks
      else content :: contentsLeft removed blocks := by
  have hextent : Block.extent ⟨content, first, last, false, none⟩ = (first, last) := rfl
  rw [contentsLeft, List.filter_cons, hextent]
  by_cases h : (first, last) ∈ removed.map Block.extent
  · rw [if_neg (by simpa using h), if_pos h]
    rfl
  · rw [if_pos (by simpa using h), if_neg h]
    rfl

theorem mem_contentsLeft {removed blocks : List Block} {content : List Text} :
    content ∈ contentsLeft removed blocks ↔
      ∃ b ∈ blocks, b.extent ∉ removed.map Block.extent ∧ b.lines = content := by
  simp only [contentsLeft, List.mem_map, List.mem_filter, decide_eq_true_eq, and_assoc]

theorem openerOn?_eq_none_of_isLineComment {g : Grammar} {line : Text}
    (hkind : g.lineComments = [] ∨ g.blockComments = []) (hc : g.isLineComment line = true)
    (next : Text) : g.openerOn? next = none := by
  rcases hkind with h | h
  · simp [Grammar.isLineComment, h] at hc
  · simp [Grammar.openerOn?, h]

section Remainder

variable {g : Grammar} {removed : List Block} {number number' : Int}
variable (hkind : g.lineComments = [] ∨ g.blockComments = [])
include hkind

/-- **The blocks that are not removed are all found again, and no others.** -/
theorem contents_directScan_keepLines (lines : List Text)
    (h : RemovedAmong removed (directScan g number lines) number) :
    (directScan g number' (Document.keepLines removed number lines)).map (·.lines) =
      contentsLeft removed (directScan g number lines) := by
  induction segmented g lines generalizing number number' with
  | nil => simp [Document.keepLines, directScan_nil, contentsLeft]
  | @code line rest ho hc _ ih =>
    rw [directScan_code number ho hc] at h ⊢
    have hkeep : Document.keepLines removed number [line] = [line] :=
      keepLines_singleton (any_covers_eq_false h (Int.le_refl _) fun _ hb _ =>
        lt_startLine_of_mem_directScan hb)
    rw [← List.singleton_append, Document.keepLines_append, hkeep, List.singleton_append,
      directScan_code number' ho hc]
    exact ih (h.mono (by omega))
  | @unclosed line rest d ho hk =>
    rw [directScan_unclosed number ho hk] at h ⊢
    rw [Document.keepLines_eq_self fun k h₁ _ => any_covers_eq_false h h₁ (by simp),
      directScan_unclosed number' ho hk]
    rfl
  | @closed line later rest d ho hk _ ih =>
    rw [directScan_closed number ho hk] at h ⊢
    have hkeep := keepLines_extent line h fun _ => lt_startLine_of_mem_directScan
    have hrest : ∀ n,
        (directScan g n
            (Document.keepLines removed (number + later.length + 1) rest)).map (·.lines) =
          contentsLeft removed (directScan g (number + later.length + 1) rest) :=
      fun _ => ih (h.tail (by omega) (by dsimp only; omega))
    have hnumber : number + ((line :: later).length : Int) = number + later.length + 1 := by
      simp only [List.length_cons]
      omega
    rw [← List.cons_append, Document.keepLines_append, hkeep, hnumber, contentsLeft_cons]
    split
    · rw [List.nil_append, hrest]
    · rw [List.cons_append, directScan_closed number' ho hk, List.map_cons, hrest]
  | @openRun line later ho hr =>
    rw [directScan_openRun number ho hr] at h ⊢
    rw [keepLines_extent line h (by simp), contentsLeft_cons]
    split
    · rw [directScan_nil]
      rfl
    · rw [directScan_openRun number' ho hr]
      rfl
  | @run line next later rest ho hr hn _ ih =>
    rw [directScan_run number ho hr hn] at h ⊢
    have hkeep := keepLines_run line next h fun _ => lt_startLine_of_mem_directScan
    have hrest : ∀ n,
        (directScan g n
            (Document.keepLines removed (number + later.length + 1 + 1) rest)).map (·.lines) =
          contentsLeft removed (directScan g (number + later.length + 1 + 1) rest) :=
      fun _ => ih (h.tail (by omega) (by dsimp only; omega))
    have hsplit : line :: (later ++ next :: rest) = line :: (later ++ [next]) ++ rest := by simp
    have hnumber : number + ((line :: (later ++ [next])).length : Int) =
        number + later.length + 1 + 1 := by
      simp only [List.length_cons, List.length_append, List.length_nil]
      omega
    rw [hsplit, Document.keepLines_append, hkeep, hnumber, contentsLeft_cons]
    split
    · -- the line behind a removed run is code
      have ho' := openerOn?_eq_none_of_isLineComment hkind (hr line (List.mem_cons_self ..)) next
      rw [List.singleton_append, directScan_code number' ho' hn]
      exact hrest (number' + 1)
    · rw [List.cons_append, List.append_assoc, List.singleton_append,
        directScan_run number' ho hr hn, List.map_cons, hrest]

end Remainder

end LicenseAudit
