import LicenseAudit.Text.Blank

/-!
# Laws of trimming

Blanks at the ends of a text do not matter to `trim` (`trim_blank_append`, `trim_append_blank`),
so a text is trimmed exactly when it neither starts nor ends with a blank (`trim_eq_self_iff`),
and nothing is left exactly of blanks (`trim_eq_nil_iff`).
-/

namespace LicenseAudit.Text

theorem trim_nil : trim [] = [] := rfl

theorem trim_isInfix (s : Text) : trim s <:+: s := by
  obtain ⟨a, b, h, -, -⟩ := exists_eq_append_trim s
  exact ⟨a, b, h.symm⟩

theorem trim_blank_append {a : Text} (ha : a.all isBlank = true) (s : Text) :
    trim (a ++ s) = trim s := by
  rw [trim, trim, trimLeft, trimLeft, List.dropWhile_append_of_pos (by simpa using ha)]

theorem trimRight_append_blank {b : Text} (hb : b.all isBlank = true) (s : Text) :
    trimRight (s ++ b) = trimRight s := by
  rw [trimRight, trimRight, List.reverse_append,
    List.dropWhile_append_of_pos (by simpa using hb)]

theorem trim_append_blank {b : Text} (hb : b.all isBlank = true) (s : Text) :
    trim (s ++ b) = trim s := by
  rw [trim, trim, trimLeft, trimLeft, List.dropWhile_append]
  split
  · next h =>
    have hn : (b ++ []).dropWhile isBlank = [].dropWhile isBlank :=
      List.dropWhile_append_of_pos (by simpa using hb)
    rw [List.append_nil, List.dropWhile_nil] at hn
    rw [hn, List.isEmpty_iff.1 h]
  · exact trimRight_append_blank hb _

theorem trim_cons_blank {c : Char} (hc : isBlank c = true) (s : Text) : trim (c :: s) = trim s :=
  trim_blank_append (a := [c]) (by simpa using hc) s

theorem trim_eq_nil_of_blank {s : Text} (h : s.all isBlank = true) : trim s = [] := by
  simpa [trim_nil] using trim_blank_append h []

theorem trim_eq_nil_iff {s : Text} : trim s = [] ↔ isAllBlank s = true := by
  refine ⟨fun h => ?_, trim_eq_nil_of_blank⟩
  obtain ⟨a, b, hs, ha, hb⟩ := exists_eq_append_trim s
  rw [h] at hs
  rw [hs, isAllBlank, List.append_nil, List.all_append, ha, hb]
  rfl

theorem not_mem_of_blank {c : Char} {s : Text} (hc : isBlank c = false)
    (hs : s.all isBlank = true) : c ∉ s := by
  intro h
  rw [List.all_eq_true.1 hs c h] at hc
  cases hc

/-- A text that neither starts nor ends with a blank is trimmed. -/
theorem trim_of_ends {s : Text} (hl : ∀ c r, s = c :: r → isBlank c = false)
    (hr : ∀ c r, s = r ++ [c] → isBlank c = false) : trim s = s := by
  have h₁ : trimLeft s = s := by
    cases s with
    | nil => rfl
    | cons c r => exact trimLeft_of_head rfl (hl c r rfl)
  rw [trim, h₁]
  rcases List.eq_nil_or_concat s with h | ⟨r, c, h⟩
  · rw [h]; rfl
  · rw [List.concat_eq_append] at h
    exact trimRight_of_last h (hr c r h)

theorem trim_eq_self_iff {s : Text} :
    trim s = s ↔ (∀ c r, s = c :: r → isBlank c = false) ∧
      ∀ c r, s = r ++ [c] → isBlank c = false :=
  ⟨fun h => ⟨fun _ _ hs => trim_head_not_blank (h.trans hs),
    fun _ _ hs => trim_last_not_blank (h.trans hs)⟩, fun h => trim_of_ends h.1 h.2⟩

/-- What stands between two trimmed ends is trimmed with them. -/
theorem trim_append_of_trim {a b : Text} (ha : trim a = a) (hb : trim b = b) (hna : a ≠ [])
    (hnb : b ≠ []) (s : Text) : trim (a ++ s ++ b) = a ++ s ++ b := by
  obtain ⟨c, a, rfl⟩ := List.exists_cons_of_ne_nil hna
  obtain ⟨b, d, rfl⟩ := (List.eq_nil_or_concat b).resolve_left hnb
  rw [List.concat_eq_append] at hb ⊢
  refine trim_of_ends (fun e r h => ?_) (fun e r h => ?_)
  · rw [List.append_assoc, List.cons_append, List.cons.injEq] at h
    exact h.1 ▸ (trim_eq_self_iff.1 ha).1 c a rfl
  · rw [← List.append_assoc] at h
    obtain ⟨-, h⟩ := List.append_inj' h rfl
    rw [List.cons.injEq] at h
    exact h.1 ▸ (trim_eq_self_iff.1 hb).2 d b rfl

theorem trim_trimLeft (s : Text) : trim (trimLeft s) = trim s := by
  obtain ⟨a, hs, ha⟩ := exists_eq_append_trimLeft s
  exact ((congrArg trim hs).trans (trim_blank_append ha _)).symm

theorem trim_trimRight (s : Text) : trim (trimRight s) = trim s := by
  obtain ⟨b, hs, hb⟩ := exists_eq_trimRight_append s
  exact ((congrArg trim hs).trans (trim_append_blank hb _)).symm

/-- A character that is no blank keeps what stands before it and behind it apart. -/
theorem trim_append_cons {c : Char} (hc : isBlank c = false) (s t : Text) :
    trim (s ++ c :: t) = trimLeft s ++ c :: trimRight t := by
  obtain ⟨a, hs, ha⟩ := exists_eq_append_trimLeft s
  obtain ⟨b, ht, hb⟩ := exists_eq_trimRight_append t
  have hparts : s ++ c :: t = a ++ (trimLeft s ++ c :: trimRight t) ++ b := by
    simp only [List.append_assoc, List.cons_append, ← ht]
    rw [← List.append_assoc, ← hs]
  rw [hparts, trim_append_blank hb, trim_blank_append ha]
  refine trim_of_ends (fun d r h => ?_) (fun d r h => ?_)
  · rcases hl : trimLeft s with _ | ⟨e, l⟩ <;> rw [hl] at h
    · exact (List.cons.inj h).1 ▸ hc
    · exact (List.cons.inj h).1 ▸ trimLeft_head_not_blank hl
  · rcases List.eq_nil_or_concat (trimRight t) with hr | ⟨l, e, hr⟩ <;> rw [hr] at h
    · obtain ⟨-, h⟩ := List.append_inj' h rfl
      exact (List.cons.inj h).1 ▸ hc
    · rw [List.concat_eq_append] at hr h
      rw [← List.cons_append, ← List.append_assoc] at h
      obtain ⟨-, h⟩ := List.append_inj' h rfl
      exact (List.cons.inj h).1 ▸ trimRight_last_not_blank hr

/-- Behind a trimmed beginning only the end of a text is left to trim. -/
theorem trim_append_eq_append_trimRight {a : Text} (ha : trim a = a) (hne : a ≠ []) (s : Text) :
    trim (a ++ s) = a ++ trimRight s := by
  obtain ⟨r, c, rfl⟩ := (List.eq_nil_or_concat a).resolve_left hne
  rw [List.concat_eq_append] at ha ⊢
  have hc : isBlank c = false := trim_last_not_blank ha
  have hr : trimLeft r = r := by
    rw [trim_append_cons hc, trimRight, List.reverse_nil, List.dropWhile_nil,
      List.reverse_nil] at ha
    exact List.append_cancel_right ha
  rw [List.append_assoc, List.singleton_append, trim_append_cons hc, hr, List.append_assoc,
    List.singleton_append]

end LicenseAudit.Text
