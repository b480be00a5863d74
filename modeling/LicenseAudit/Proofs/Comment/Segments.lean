import LicenseAudit.Proofs.Comment.DirectScan
import Mathlib.Data.List.TakeWhile

/-!
# Segments

The direct scanner reads its lines in segments: a line of code, a closed block comment, a run of
line comments with the line that ends it, or the rest of the file from an opener on that is never
closed. Every list of lines is made of segments (`segmented`), and there is one equation of
`directScan` for each kind (`directScan_code`, `directScan_closed`, …).

The first use is `bounds_of_mem_directScan`: blocks lie among the lines they were found in.
-/

namespace LicenseAudit

open Text

/-- Trimmed lines taken apart into segments. -/
inductive Segmented (g : Grammar) : List Text → Prop
  | nil : Segmented g []
  | code {line : Text} {rest : List Text} (ho : g.openerOn? line = none)
      (hc : g.isLineComment line = false) (h : Segmented g rest) : Segmented g (line :: rest)
  | unclosed {line : Text} {rest : List Text} {d : BlockDelimiters}
      (ho : g.openerOn? line = some d)
      (hk : d.closesAfter? (d.behindOpener line) rest = none) : Segmented g (line :: rest)
  | closed {line : Text} {later rest : List Text} {d : BlockDelimiters}
      (ho : g.openerOn? line = some d)
      (hk : d.closesAfter? (d.behindOpener line) later = some later.length)
      (h : Segmented g rest) : Segmented g (line :: (later ++ rest))
  | openRun {line : Text} {later : List Text} (ho : g.openerOn? line = none)
      (hr : ∀ l ∈ line :: later, g.isLineComment l = true) : Segmented g (line :: later)
  | run {line next : Text} {later rest : List Text} (ho : g.openerOn? line = none)
      (hr : ∀ l ∈ line :: later, g.isLineComment l = true)
      (hn : g.isLineComment next = false) (h : Segmented g rest) :
      Segmented g (line :: (later ++ next :: rest))

/-! ## Where a comment closes -/

namespace BlockDelimiters

variable {d : BlockDelimiters} {inner : Text} {later rest : List Text} {k : Nat}

theorem closesAfter?_append (h : d.closesAfter? inner later = some k) :
    d.closesAfter? inner (later ++ rest) = some k := by
  rw [closesAfter?] at h ⊢
  rw [← List.cons_append, List.findIdx?_append, h]
  rfl

theorem le_length_of_closesAfter? (h : d.closesAfter? inner rest = some k) : k ≤ rest.length := by
  obtain ⟨hk, -⟩ := List.findIdx?_eq_some_iff_getElem.1 h
  simpa [Nat.lt_succ_iff] using hk

theorem closesAfter?_take (h : d.closesAfter? inner rest = some k) :
    d.closesAfter? inner (rest.take k) = some k := by
  rw [closesAfter?] at h ⊢
  rw [← List.take_succ_cons, List.findIdx?_take, h]
  simp

/-- What the lines after the first say, the closing line being `last`. -/
theorem laterContent_concat (lines : List Text) (last : Text) :
    d.laterContent (lines ++ [last]) =
      lines.map (stripDecoration d.decoration) ++ d.laterContent [last] := by
  induction lines with
  | nil => rfl
  | cons line lines ih =>
    have h : d.laterContent (line :: (lines ++ [last])) =
        stripDecoration d.decoration line :: d.laterContent (lines ++ [last]) := by
      cases lines <;> rfl
    rw [List.cons_append, h, ih]
    rfl

end BlockDelimiters

/-! ## One equation for each kind of segment -/

section Equations

variable {g : Grammar} {line next : Text} {later rest : List Text} {d : BlockDelimiters}
variable (number : Int)

theorem directScan_nil : directScan g number [] = [] := by rw [directScan]

theorem directScan_code (ho : g.openerOn? line = none) (hc : g.isLineComment line = false) :
    directScan g number (line :: rest) = directScan g (number + 1) rest := by
  rw [directScan]
  simp [ho, hc]

theorem directScan_unclosed (ho : g.openerOn? line = some d)
    (hk : d.closesAfter? (d.behindOpener line) rest = none) :
    directScan g number (line :: rest) = [] := by
  rw [directScan]
  simp [ho, hk]

theorem directScan_closed (ho : g.openerOn? line = some d)
    (hk : d.closesAfter? (d.behindOpener line) later = some later.length) :
    directScan g number (line :: (later ++ rest)) =
      ⟨d.content (d.behindOpener line) later, number, number + later.length, false, none⟩ ::
        directScan g (number + later.length + 1) rest := by
  rw [directScan]
  simp [ho, BlockDelimiters.closesAfter?_append hk]

theorem directScan_openRun (ho : g.openerOn? line = none)
    (hr : ∀ l ∈ line :: later, g.isLineComment l = true) :
    directScan g number (line :: later) =
      [⟨(line :: later).map g.lineContent, number, number + later.length, false, none⟩] := by
  have ht : (line :: later).takeWhile g.isLineComment = line :: later :=
    List.takeWhile_eq_self_iff.2 hr
  have hl : number + ((later.length : Int) + 1) - 1 = number + later.length := by omega
  have hd : later.drop (later.length + 1) = [] := List.drop_eq_nil_of_le (by omega)
  rw [directScan, ho]
  simp [ht, hl, hd, hr line, directScan_nil]

theorem directScan_run (ho : g.openerOn? line = none)
    (hr : ∀ l ∈ line :: later, g.isLineComment l = true) (hn : g.isLineComment next = false) :
    directScan g number (line :: (later ++ next :: rest)) =
      ⟨(line :: later).map g.lineContent, number, number + later.length, false, none⟩ ::
        directScan g (number + later.length + 1 + 1) rest := by
  have ht : (line :: (later ++ next :: rest)).takeWhile g.isLineComment = line :: later := by
    rw [← List.cons_append, List.takeWhile_append_of_pos hr]
    simp [hn]
  have hl : number + ((later.length : Int) + 1) = number + later.length + 1 := by omega
  rw [directScan, ho]
  simp [ht, hl, hr line]

end Equations

/-- Every list of lines is made of segments. -/
theorem segmented (g : Grammar) (lines : List Text) : Segmented g lines := by
  fun_induction directScan g 0 lines with
  | case1 => exact .nil
  | case2 _ line rest d ho hk => exact .unclosed ho hk
  | case3 _ line rest d ho k hk ih =>
    have hl := BlockDelimiters.le_length_of_closesAfter? hk
    rw [← List.take_append_drop k rest]
    refine .closed ho ?_ ih
    rw [List.length_take_of_le hl]
    exact BlockDelimiters.closesAfter?_take hk
  | case4 _ line rest ho hc run ih =>
    obtain ⟨later, hlater⟩ : ∃ later, rest.takeWhile g.isLineComment = later := ⟨_, rfl⟩
    have hl : ∀ l ∈ line :: later, g.isLineComment l = true := by
      simpa [hc, ← hlater] using fun l hl => List.mem_takeWhile_imp hl
    have hr : run = line :: later := hlater ▸ List.takeWhile_cons_of_pos hc
    have hs := List.takeWhile_append_dropWhile (p := g.isLineComment) (l := rest)
    rw [hlater] at hs
    cases hd : rest.dropWhile g.isLineComment with
    | nil =>
      rw [hd, List.append_nil] at hs
      exact hs ▸ .openRun ho hl
    | cons next back =>
      have hn : g.isLineComment next = false := by
        simpa [hd] using List.head_dropWhile_not (l := rest) g.isLineComment (by simp [hd])
      rw [hd] at hs
      rw [hr, ← hs] at ih
      rw [← hs]
      exact .run ho hl hn (by simpa using ih)
  | case5 _ line rest ho hc ih => exact .code ho (by simpa using hc) ih

/-- Blocks stand in good order among the lines they were found in. -/
theorem bounds_of_mem_directScan {g : Grammar} {number : Int} {lines : List Text} {b : Block}
    (hb : b ∈ directScan g number lines) :
    number ≤ b.startLine ∧ b.startLine ≤ b.endLine ∧ b.endLine < number + lines.length := by
  induction segmented g lines generalizing number with
  | nil => simp [directScan_nil] at hb
  | code ho hc _ ih =>
    rw [directScan_code number ho hc] at hb
    obtain ⟨h₁, h₂, h₃⟩ := ih hb
    simp only [List.length_cons]
    omega
  | unclosed ho hk => simp [directScan_unclosed number ho hk] at hb
  | closed ho hk _ ih =>
    rw [directScan_closed number ho hk] at hb
    simp only [List.length_cons, List.length_append]
    rcases List.mem_cons.1 hb with rfl | hb
    · dsimp only
      omega
    · obtain ⟨h₁, h₂, h₃⟩ := ih hb
      omega
  | openRun ho hr =>
    rw [directScan_openRun number ho hr, List.mem_singleton] at hb
    subst hb
    simp only [List.length_cons]
    omega
  | run ho hr hn _ ih =>
    rw [directScan_run number ho hr hn] at hb
    simp only [List.length_cons, List.length_append]
    rcases List.mem_cons.1 hb with rfl | hb
    · dsimp only
      omega
    · obtain ⟨h₁, h₂, h₃⟩ := ih hb
      omega

theorem lt_startLine_of_mem_directScan {g : Grammar} {number : Int} {lines : List Text} {b : Block}
    (hb : b ∈ directScan g (number + 1) lines) : number < b.startLine := by
  have := (bounds_of_mem_directScan hb).1
  omega

end LicenseAudit
