import LicenseAudit.Proofs.Text.Trimming
import LicenseAudit.Text.Lines
import Mathlib.Data.List.Forall2

/-!
# Laws of lines

`splitLines` undoes joining with either line ending, for lines without a line feed that do not end
with a carriage return where a line feed alone joins them (`splitLines_append_lf`,
`splitLines_append_crlf`).

A carriage return is a blank, so up to trimming the lines of a text are what stands between its
line feeds (`map_trim_splitLines`); and blanks around a text only add empty lines at its two ends
(`exists_map_trim_splitLines_eq`).

`splitAtBreaks` undoes joining with a line feed for lines that hold no boundary, but for an empty
line at the end (`exists_splitAtBreaks_joinWith`).
-/

namespace LicenseAudit.Text

/-! ## Lines put together and cut again -/

theorem splitLines_cons {c : Char} {s : Text} (hc : c ≠ '\n')
    (hs : c = '\r' → ∀ r, s ≠ '\n' :: r) :
    splitLines (c :: s) = (splitLines s).modifyHead (c :: ·) := by
  rw [splitLines.eq_4]
  · exact hc
  · exact fun r hr => hs hr r

/-- No line holds a line feed, and lines hold only characters of the text. -/
theorem chars_of_mem_splitLines {s line : Text} (h : line ∈ splitLines s) :
    '\n' ∉ line ∧ ∀ c ∈ line, c ∈ s := by
  fun_induction splitLines s generalizing line with
  | case1 => simp_all
  | case2 s ih =>
    rcases List.mem_cons.1 h with rfl | h
    · simp
    · exact ⟨(ih h).1, fun c hc => List.mem_cons_of_mem _ ((ih h).2 c hc)⟩
  | case3 s ih =>
    rcases List.mem_cons.1 h with rfl | h
    · simp
    · exact ⟨(ih h).1,
        fun c hc => List.mem_cons_of_mem _ (List.mem_cons_of_mem _ ((ih h).2 c hc))⟩
  | case4 c s hc _ ih =>
    obtain ⟨first, rest, hs⟩ := List.exists_cons_of_ne_nil (splitLines_ne_nil s)
    rw [hs] at h ih
    rcases List.mem_cons.1 h with rfl | h
    · obtain ⟨h₁, h₂⟩ := ih (List.mem_cons_self ..)
      refine ⟨by simp [h₁, Ne.symm hc], fun d hd => ?_⟩
      rcases List.mem_cons.1 hd with rfl | hd
      · simp
      · exact List.mem_cons_of_mem _ (h₂ d hd)
    · obtain ⟨h₁, h₂⟩ := ih (List.mem_cons_of_mem _ h)
      exact ⟨h₁, fun d hd => List.mem_cons_of_mem _ (h₂ d hd)⟩

theorem splitLines_of_not_mem {line : Text} (h : '\n' ∉ line) : splitLines line = [line] := by
  induction line with
  | nil => rfl
  | cons c line ih =>
    rw [List.mem_cons, not_or] at h
    rw [splitLines_cons (Ne.symm h.1) fun _ r hr => h.2 (by simp [hr]), ih h.2]
    rfl

/-- A line feed ends a line that does not end with a carriage return. -/
theorem splitLines_append_lf {line : Text} (h : '\n' ∉ line) (hr : ∀ r, line ≠ r ++ ['\r'])
    (s : Text) : splitLines (line ++ '\n' :: s) = line :: splitLines s := by
  induction line with
  | nil => rfl
  | cons c line ih =>
    rw [List.mem_cons, not_or] at h
    have hs : c = '\r' → ∀ r, line ++ '\n' :: s ≠ '\n' :: r := by
      rintro rfl r he
      cases line with
      | nil => exact hr [] rfl
      | cons d line => exact h.2 (by simp [(List.cons.inj he).1])
    rw [List.cons_append, splitLines_cons (Ne.symm h.1) hs,
      ih h.2 fun r hl => hr (c :: r) (by rw [hl]; rfl)]
    rfl

/-- A carriage return and a line feed end any line. -/
theorem splitLines_append_crlf {line : Text} (h : '\n' ∉ line) (s : Text) :
    splitLines (line ++ '\r' :: '\n' :: s) = line :: splitLines s := by
  induction line with
  | nil => rfl
  | cons c line ih =>
    rw [List.mem_cons, not_or] at h
    have hs : ∀ r, line ++ '\r' :: '\n' :: s ≠ '\n' :: r := by
      intro r he
      cases line with
      | nil => cases he
      | cons d line => exact h.2 (by simp [(List.cons.inj he).1])
    rw [List.cons_append, splitLines_cons (Ne.symm h.1) fun _ => hs, ih h.2]
    rfl

/-! ## Lines up to trimming -/

/-- Cut at the line feeds alone, a line may keep a blank at its end. -/
theorem forall₂_splitLines_splitOnChar (s : Text) :
    List.Forall₂ (fun p q => ∃ b, b.all isBlank = true ∧ q = p ++ b) (splitLines s)
      (splitOnChar '\n' s) := by
  fun_induction splitLines s with
  | case1 => exact .cons ⟨[], rfl, rfl⟩ .nil
  | case2 s ih =>
    rw [splitOnChar, if_pos rfl]
    exact .cons ⟨[], rfl, rfl⟩ ih
  | case3 s ih =>
    rw [splitOnChar, if_neg (by decide), splitOnChar, if_pos rfl]
    exact .cons ⟨['\r'], by decide, rfl⟩ ih
  | case4 c s hc _ ih =>
    rw [splitOnChar, if_neg hc]
    obtain ⟨first, rest, hs⟩ := List.exists_cons_of_ne_nil (splitLines_ne_nil s)
    obtain ⟨first', rest', hs'⟩ := List.exists_cons_of_ne_nil (splitOnChar_ne_nil '\n' s)
    rw [hs, hs'] at ih ⊢
    obtain ⟨⟨b, hb, rfl⟩, hrest⟩ := List.forall₂_cons.1 ih
    exact .cons ⟨b, hb, rfl⟩ hrest

/-- Trimmed, the lines are what stands between the line feeds. -/
theorem map_trim_splitLines (s : Text) :
    (splitLines s).map trim = (splitOnChar '\n' s).map trim := by
  have h := forall₂_splitLines_splitOnChar s
  generalize splitLines s = ps at h
  generalize splitOnChar '\n' s = qs at h
  induction h with
  | nil => rfl
  | cons hpq _ ih =>
    obtain ⟨b, hb, rfl⟩ := hpq
    rw [List.map_cons, List.map_cons, ih, trim_append_blank hb]

/-! ## Joined pieces -/

theorem mem_joinWith {sep : Text} {pieces : List Text} {c : Char}
    (h : c ∈ joinWith sep pieces) : c ∈ sep ∨ ∃ p ∈ pieces, c ∈ p := by
  induction pieces with
  | nil => cases h
  | cons p rest ih =>
    by_cases hr : rest = []
    · subst hr
      exact .inr ⟨p, List.mem_cons_self .., h⟩
    · rw [joinWith_cons_of_ne_nil _ _ hr, List.mem_append, List.mem_append] at h
      rcases h with (h | h) | h
      · exact .inr ⟨p, List.mem_cons_self .., h⟩
      · exact .inl h
      · exact (ih h).imp id fun ⟨q, hq, hc⟩ => ⟨q, List.mem_cons_of_mem _ hq, hc⟩

theorem mem_joinWith_of_mem {sep p : Text} {pieces : List Text} {c : Char} (hp : p ∈ pieces)
    (hc : c ∈ p) : c ∈ joinWith sep pieces := by
  induction pieces with
  | nil => simp at hp
  | cons q rest ih =>
    rcases rest with _ | ⟨r, rest⟩
    · rwa [List.mem_singleton.1 hp] at hc
    · rw [joinWith, List.mem_append, List.mem_append]
      rcases List.mem_cons.1 hp with rfl | hp
      · exact .inl (.inl hc)
      · exact .inr (ih hp)

theorem joinWith_ne_nil {sep : Text} {pieces : List Text} (hne : pieces ≠ [])
    (h : ∀ p ∈ pieces, p ≠ []) : joinWith sep pieces ≠ [] := by
  obtain ⟨p, rest, rfl⟩ := List.exists_cons_of_ne_nil hne
  have hp := h p (List.mem_cons_self ..)
  cases rest with
  | nil => simpa [joinWith] using hp
  | cons q rest => simp [joinWith, hp]

theorem joinWith_append (sep : Text) {front back : List Text} (hfront : front ≠ [])
    (hback : back ≠ []) :
    joinWith sep (front ++ back) = joinWith sep front ++ sep ++ joinWith sep back := by
  induction front with
  | nil => exact absurd rfl hfront
  | cons p front ih =>
    rw [List.cons_append, joinWith_cons_of_ne_nil _ _ (List.append_ne_nil_of_right_ne_nil _ hback)]
    by_cases hf : front = []
    · simp [hf, joinWith]
    · rw [ih hf, joinWith_cons_of_ne_nil _ _ hf]
      simp only [List.append_assoc]

/-! ## Cutting at a character -/

variable (sep : Char)

theorem splitOnChar_of_not_mem {s : Text} (h : sep ∉ s) : splitOnChar sep s = [s] := by
  induction s with
  | nil => rfl
  | cons c s ih =>
    rw [List.mem_cons, not_or] at h
    rw [splitOnChar, if_neg (Ne.symm h.1), ih h.2]
    rfl

/-- A separator ends a piece, whatever stands around it. -/
theorem splitOnChar_append_cons (s t : Text) :
    splitOnChar sep (s ++ sep :: t) = splitOnChar sep s ++ splitOnChar sep t := by
  induction s with
  | nil => simp [splitOnChar]
  | cons c s ih =>
    rw [List.cons_append, splitOnChar, splitOnChar, ih]
    obtain ⟨first, rest, hs⟩ := List.exists_cons_of_ne_nil (splitOnChar_ne_nil sep s)
    rw [hs]
    split <;> rfl

theorem splitOnChar_append {s : Text} (h : sep ∉ s) (t : Text) :
    splitOnChar sep (s ++ sep :: t) = s :: splitOnChar sep t := by
  rw [splitOnChar_append_cons, splitOnChar_of_not_mem sep h, List.singleton_append]

/-- Joined with the separator, texts are cut as each of them is. -/
theorem splitOnChar_joinWith_eq_flatMap {texts : List Text} (hne : texts ≠ []) :
    splitOnChar sep (joinWith [sep] texts) = texts.flatMap (splitOnChar sep) := by
  induction texts with
  | nil => exact absurd rfl hne
  | cons s rest ih =>
    cases rest with
    | nil => simp [joinWith]
    | cons t rest =>
      rw [joinWith, List.append_assoc, List.singleton_append, splitOnChar_append_cons,
        ih (by simp)]
      rfl

/-- Joined with the separator, pieces without it are cut as they were. -/
theorem splitOnChar_joinWith {pieces : List Text} (hne : pieces ≠ [])
    (h : ∀ p ∈ pieces, sep ∉ p) : splitOnChar sep (joinWith [sep] pieces) = pieces := by
  rw [splitOnChar_joinWith_eq_flatMap sep hne,
    List.flatMap_congr fun p hp => splitOnChar_of_not_mem sep (h p hp), List.flatMap_singleton']

/-- What a text is cut into has no other characters. -/
theorem mem_of_mem_splitOnChar {s p : Text} {c : Char} (hp : p ∈ splitOnChar sep s) (hc : c ∈ p) :
    c ∈ s := by
  rw [← joinWith_splitOnChar sep s]
  exact mem_joinWith_of_mem hp hc

theorem not_mem_of_mem_splitOnChar {s p : Text} (h : p ∈ splitOnChar sep s) : sep ∉ p := by
  induction s generalizing p with
  | nil => simp_all [splitOnChar]
  | cons c s ih =>
    unfold splitOnChar at h
    split at h
    · rcases List.mem_cons.1 h with rfl | h
      · simp
      · exact ih h
    · next hc =>
      obtain ⟨first, rest, hs⟩ := List.exists_cons_of_ne_nil (splitOnChar_ne_nil sep s)
      rw [hs] at h ih
      rcases List.mem_cons.1 h with rfl | h
      · simpa [Ne.symm hc] using ih (List.mem_cons_self ..)
      · exact ih (List.mem_cons_of_mem _ h)

/-! ## Blanks around a text -/

theorem map_trim_modifyHead_cons {c : Char} (hc : isBlank c = true) (pieces : List Text) :
    (pieces.modifyHead (c :: ·)).map trim = pieces.map trim := by
  cases pieces with
  | nil => rfl
  | cons p rest => rw [List.modifyHead_cons, List.map_cons, List.map_cons, trim_cons_blank hc]

theorem exists_map_trim_splitOnChar_blank_append {a : Text} (ha : a.all isBlank = true)
    (s : Text) : ∃ k, (splitOnChar sep (a ++ s)).map trim =
      List.replicate k [] ++ (splitOnChar sep s).map trim := by
  induction a with
  | nil => exact ⟨0, rfl⟩
  | cons c a ih =>
    rw [List.all_cons, Bool.and_eq_true] at ha
    obtain ⟨k, hk⟩ := ih ha.2
    rw [List.cons_append, splitOnChar]
    split
    · exact ⟨k + 1, by rw [List.map_cons, hk]; rfl⟩
    · exact ⟨k, by rw [map_trim_modifyHead_cons ha.1, hk]⟩

/-- One more character either opens a new piece or goes to the end of the last. -/
theorem splitOnChar_concat (s : Text) (c : Char) :
    ∃ front last, splitOnChar sep s = front ++ [last] ∧
      splitOnChar sep (s ++ [c]) =
        if c = sep then front ++ [last] ++ [[]] else front ++ [last ++ [c]] := by
  induction s with
  | nil => exact ⟨[], [], rfl, by simp only [List.nil_append, splitOnChar]; split <;> rfl⟩
  | cons d s ih =>
    obtain ⟨front, last, hs, hc⟩ := ih
    simp only [List.cons_append, splitOnChar, hs, hc]
    split
    · exact ⟨[] :: front, last, rfl, by split <;> rfl⟩
    · cases front with
      | nil => exact ⟨[], d :: last, rfl, by split <;> rfl⟩
      | cons p front => exact ⟨(d :: p) :: front, last, rfl, by split <;> rfl⟩

theorem exists_map_trim_splitOnChar_append_blank {b : Text} (hb : b.all isBlank = true)
    (s : Text) : ∃ k, (splitOnChar sep (s ++ b)).map trim =
      (splitOnChar sep s).map trim ++ List.replicate k [] := by
  induction b generalizing s with
  | nil => exact ⟨0, by simp⟩
  | cons c b ih =>
    rw [List.all_cons, Bool.and_eq_true] at hb
    obtain ⟨k, hk⟩ := ih hb.2 (s ++ [c])
    obtain ⟨front, last, hs, hc⟩ := splitOnChar_concat sep s c
    rw [List.append_assoc, List.singleton_append] at hk
    rw [hk, hc, hs]
    split
    · refine ⟨k + 1, ?_⟩
      simp [trim_nil, List.replicate_succ]
    · exact ⟨k, by simp [trim_append_blank (b := [c]) (by simpa using hb.1)]⟩

/-- Blanks around a text add empty lines at its two ends, up to trimming. -/
theorem exists_map_trim_splitLines_eq (s : Text) :
    ∃ j k, (splitLines s).map trim =
      List.replicate j [] ++ (splitLines (trim s)).map trim ++ List.replicate k [] := by
  obtain ⟨a, b, hs, ha, hb⟩ := exists_eq_append_trim s
  obtain ⟨k, hk⟩ := exists_map_trim_splitOnChar_append_blank '\n' hb (a ++ trim s)
  obtain ⟨j, hj⟩ := exists_map_trim_splitOnChar_blank_append '\n' ha (trim s)
  refine ⟨j, k, ?_⟩
  rw [← hs, hj] at hk
  rw [map_trim_splitLines, map_trim_splitLines, hk]

/-! ## Cutting at every boundary -/

section Breaks

variable {line : Text}

theorem isBlank_of_isBreak {c : Char} (h : isBreak c = true) : isBlank c = true := by
  simp only [isBreak, isBlank, Bool.or_eq_true, Bool.and_eq_true, decide_eq_true_eq,
    beq_iff_eq] at h ⊢
  omega

theorem splitAtBreaks_cons {c : Char} (hc : isBreak c = false) (s : Text) :
    splitAtBreaks (c :: s) = match splitAtBreaks s with
      | [] => [[c]]
      | line :: rest => (c :: line) :: rest := by
  have hreturn : ∀ r, c = '\r' → s = '\n' :: r → False := by
    rintro r rfl -
    simp [isBreak] at hc
  exact (splitAtBreaks.eq_3 c s hreturn).trans (if_neg (by simp [hc]))

/-- A line feed ends a line without boundaries. -/
theorem splitAtBreaks_append_lf (h : ∀ c ∈ line, isBreak c = false) (s : Text) :
    splitAtBreaks (line ++ '\n' :: s) = line :: splitAtBreaks s := by
  induction line with
  | nil => rfl
  | cons c line ih =>
    rw [List.cons_append, splitAtBreaks_cons (h c (List.mem_cons_self ..)),
      ih fun d hd => h d (List.mem_cons_of_mem _ hd)]

theorem splitAtBreaks_of_ne_nil (h : ∀ c ∈ line, isBreak c = false) (hne : line ≠ []) :
    splitAtBreaks line = [line] := by
  induction line with
  | nil => exact absurd rfl hne
  | cons c line ih =>
    rw [splitAtBreaks_cons (h c (List.mem_cons_self ..))]
    rcases line with _ | ⟨d, line⟩
    · rfl
    · rw [ih (fun e he => h e (List.mem_cons_of_mem _ he)) (by simp)]

/-- Lines without boundaries come back from between line feeds, but for an empty one at the end. -/
theorem exists_splitAtBreaks_joinWith {lines : List Text}
    (h : ∀ line ∈ lines, ∀ c ∈ line, isBreak c = false) :
    ∃ k, lines = splitAtBreaks (joinWith ['\n'] lines) ++ List.replicate k [] := by
  induction lines with
  | nil => exact ⟨0, rfl⟩
  | cons line rest ih =>
    have hline := h line (List.mem_cons_self ..)
    rcases rest with _ | ⟨next, rest⟩
    · rcases line with _ | ⟨c, line⟩
      · exact ⟨1, rfl⟩
      · exact ⟨0, by rw [joinWith, splitAtBreaks_of_ne_nil hline (by simp)]; rfl⟩
    · obtain ⟨k, hk⟩ := ih fun l hl => h l (List.mem_cons_of_mem _ hl)
      refine ⟨k, ?_⟩
      rw [joinWith, List.append_assoc, List.singleton_append, splitAtBreaks_append_lf hline,
        List.cons_append, ← hk]

theorem unifyNewlines_append (h : '\r' ∉ line) (s : Text) :
    unifyNewlines (line ++ s) = line ++ unifyNewlines s := by
  induction line with
  | nil => rfl
  | cons c line ih =>
    rw [List.mem_cons, not_or] at h
    have hc : c = '\r' → False := fun hc => h.1 hc.symm
    rw [List.cons_append, unifyNewlines.eq_4 c _ (fun _ hr _ => hc hr) hc, ih h.2, List.cons_append]

/-- Lines that are joined with a line end are joined with a line feed when it is unified. -/
theorem unifyNewlines_joinWith {sep : Text} {lines : List Text}
    (hsep : ∀ s, unifyNewlines (sep ++ s) = '\n' :: unifyNewlines s)
    (h : ∀ line ∈ lines, '\r' ∉ line) :
    unifyNewlines (joinWith sep lines) = joinWith ['\n'] lines := by
  induction lines with
  | nil => rfl
  | cons line rest ih =>
    have hline := h line (List.mem_cons_self ..)
    rcases rest with _ | ⟨next, rest⟩
    · rw [joinWith, ← List.append_nil line, unifyNewlines_append hline]
      simp [unifyNewlines, joinWith]
    · rw [joinWith, List.append_assoc, unifyNewlines_append hline, hsep,
        ih fun l hl => h l (List.mem_cons_of_mem _ hl), joinWith, List.append_assoc,
        List.singleton_append]

end Breaks

end LicenseAudit.Text
