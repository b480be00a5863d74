import LicenseAudit.Header.Rebuild
import LicenseAudit.Proofs.Comment.Segments

/-!
# The lines that are kept

When the lines of some blocks are taken out of a file, the lines of one block are kept together or
removed together (`keepLines_extent`), and the line that ends a run is kept in both cases
(`keepLines_run`). It is enough for this that the removed blocks are among the blocks of the file as
far as they reach (`RemovedAmong`), which is how the lemmas go along with a scan.
-/

namespace LicenseAudit

open Text

/-- The first and the last line of a block. -/
def Block.extent (b : Block) : Int × Int := (b.startLine, b.endLine)

theorem Block.covers_eq_true_iff {b : Block} {k : Int} :
    b.covers k = true ↔ b.startLine ≤ k ∧ k ≤ b.endLine := by
  simp [Block.covers]

/-! ## The lines that are kept -/

namespace Document

variable (removed : List Block) (number : Int)

theorem keepLines_append (front back : List Text) :
    keepLines removed number (front ++ back) =
      keepLines removed number front ++ keepLines removed (number + front.length) back := by
  induction front generalizing number with
  | nil => simp [keepLines]
  | cons line front ih =>
    have hn : number + 1 + (front.length : Int) = number + ((front.length : Int) + 1) := by omega
    simp only [List.cons_append, keepLines, ih, hn, List.length_cons, Int.natCast_add,
      Int.natCast_one]
    split <;> rfl

theorem map_keepLines (f : Text → Text) (lines : List Text) :
    (keepLines removed number lines).map f = keepLines removed number (lines.map f) := by
  induction lines generalizing number with
  | nil => rfl
  | cons line rest ih =>
    simp only [keepLines, List.map_cons, ← ih]
    split <;> rfl

variable {removed number} {lines : List Text}

theorem keepLines_eq_nil (h : ∀ k, number ≤ k → k < number + lines.length →
    removed.any (·.covers k) = true) : keepLines removed number lines = [] := by
  induction lines generalizing number with
  | nil => rfl
  | cons line rest ih =>
    simp only [List.length_cons] at h
    rw [keepLines, if_pos (h number (by omega) (by omega))]
    apply ih
    intro k h₁ h₂
    exact h k (by omega) (by omega)

theorem keepLines_eq_self (h : ∀ k, number ≤ k → k < number + lines.length →
    removed.any (·.covers k) = false) : keepLines removed number lines = lines := by
  induction lines generalizing number with
  | nil => rfl
  | cons line rest ih =>
    simp only [List.length_cons] at h
    rw [keepLines, if_neg (by simp [h number (by omega) (by omega)])]
    rw [ih fun k h₁ h₂ => h k (by omega) (by omega)]

end Document

/-! ## Removed blocks among the blocks of a file -/

/-- The removed blocks that reach as far as `number` are among the given blocks. -/
def RemovedAmong (removed blocks : List Block) (number : Int) : Prop :=
  ∀ r ∈ removed, r.endLine < number ∨ ∃ b ∈ blocks, b.extent = r.extent

section RemovedAmong

variable {removed blocks : List Block} {number number' k : Int} {b : Block}

theorem any_covers_eq_false (h : RemovedAmong removed blocks number) (hk : number ≤ k)
    (hb : ∀ b ∈ blocks, b.extent ∈ removed.map Block.extent → k < b.startLine) :
    removed.any (·.covers k) = false := by
  rw [List.any_eq_false]
  intro r hr hc
  rw [Block.covers_eq_true_iff] at hc
  rcases h r hr with hr' | ⟨b, hbm, hs⟩
  · omega
  · have hlt := hb b hbm (hs ▸ List.mem_map_of_mem hr)
    have : b.startLine = r.startLine := congrArg Prod.fst hs
    omega

theorem any_covers_eq_true (hb : b.extent ∈ removed.map Block.extent) (h₁ : b.startLine ≤ k)
    (h₂ : k ≤ b.endLine) : removed.any (·.covers k) = true := by
  obtain ⟨r, hr, hs⟩ := List.mem_map.1 hb
  have hs₁ : r.startLine = b.startLine := congrArg Prod.fst hs
  have hs₂ : r.endLine = b.endLine := congrArg Prod.snd hs
  exact List.any_eq_true.2 ⟨r, hr, Block.covers_eq_true_iff.2 (by omega)⟩

theorem RemovedAmong.mono (h : RemovedAmong removed blocks number) (hn : number ≤ number') :
    RemovedAmong removed blocks number' :=
  fun r hr => (h r hr).imp (fun h => by omega) id

theorem RemovedAmong.tail (h : RemovedAmong removed (b :: blocks) number)
    (hn : number ≤ number') (hb : b.endLine < number') :
    RemovedAmong removed blocks number' := by
  intro r hr
  rcases h r hr with h | ⟨c, hc, hs⟩
  · exact .inl (by omega)
  · rcases List.mem_cons.1 hc with rfl | hc
    · have : c.endLine = r.endLine := congrArg Prod.snd hs
      exact .inl (by omega)
    · exact .inr ⟨c, hc, hs⟩

end RemovedAmong

/-! ## The lines of a segment -/

section KeepLines

variable {removed : List Block} {number : Int}

/-- A line outside all blocks is kept. -/
theorem keepLines_singleton {line : Text} (h : removed.any (·.covers number) = false) :
    Document.keepLines removed number [line] = [line] := by
  simp [Document.keepLines, h]

/-- The lines of a block are kept together or removed together. -/
theorem keepLines_extent (line : Text) {later : List Text} {lines : List Text}
    {blocks : List Block}
    (h : RemovedAmong removed
      (⟨lines, number, number + later.length, false, none⟩ :: blocks) number)
    (hb : ∀ c ∈ blocks, number + later.length < c.startLine) :
    Document.keepLines removed number (line :: later) =
      if (number, number + (later.length : Int)) ∈ removed.map Block.extent then []
      else line :: later := by
  split
  · next hm =>
    apply Document.keepLines_eq_nil
    intro k h₁ h₂
    simp only [List.length_cons] at h₂
    exact any_covers_eq_true (b := ⟨lines, _, _, false, none⟩) hm h₁ (by dsimp only; omega)
  · next hm =>
    apply Document.keepLines_eq_self
    intro k h₁ h₂
    apply any_covers_eq_false h h₁
    intro c hc hs
    simp only [List.length_cons] at h₂
    rcases List.mem_cons.1 hc with rfl | hc
    · exact absurd hs hm
    · have := hb c hc
      omega

/-- The line that ends a run is kept, whether the run is or not. -/
theorem keepLines_run (line next : Text) {later lines : List Text} {blocks : List Block}
    (h : RemovedAmong removed
      (⟨lines, number, number + later.length, false, none⟩ :: blocks) number)
    (hb : ∀ c ∈ blocks, number + later.length + 1 < c.startLine) :
    Document.keepLines removed number (line :: (later ++ [next])) =
      if (number, number + (later.length : Int)) ∈ removed.map Block.extent then [next]
      else line :: (later ++ [next]) := by
  have hrun := keepLines_extent line h fun c hc => by
    have := hb c hc
    omega
  have hgone : RemovedAmong removed blocks (number + later.length + 1) :=
    h.tail (by omega) (by dsimp only; omega)
  have hnext : Document.keepLines removed (number + later.length + 1) [next] = [next] :=
    keepLines_singleton (any_covers_eq_false hgone (Int.le_refl _) fun c hc _ => hb c hc)
  rw [← List.cons_append, Document.keepLines_append, List.length_cons, Int.natCast_succ,
    ← Int.add_assoc, hnext, hrun]
  split <;> rfl

end KeepLines

end LicenseAudit
