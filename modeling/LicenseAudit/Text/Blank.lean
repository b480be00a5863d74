import LicenseAudit.Text.Basic

/-!
# Blank characters and trimming

`isBlank` is the class of white space of Unicode together with the four separators U+001C to
U+001F. `trim` drops blanks at both ends: its result neither starts nor ends with one
(`trim_head_not_blank`, `trim_last_not_blank`), is a contiguous part of the text
(`exists_eq_append_trim`), and is trimmed already (`trim_trim`).
-/

namespace LicenseAudit

/-- White space, by Unicode, and the information separators. -/
def isBlank (c : Char) : Bool :=
  let n := c.toNat
  (9 ≤ n && n ≤ 13) || (28 ≤ n && n ≤ 32) || n == 0x85 || n == 0xA0 || n == 0x1680 ||
    (0x2000 ≤ n && n ≤ 0x200A) || n == 0x2028 || n == 0x2029 || n == 0x202F || n == 0x205F ||
    n == 0x3000

namespace Text

/-- The text without the blanks it starts with. -/
def trimLeft (s : Text) : Text := s.dropWhile isBlank

/-- The text without the blanks it ends with. -/
def trimRight (s : Text) : Text := (s.reverse.dropWhile isBlank).reverse

/-- The text without the blanks at its two ends. -/
def trim (s : Text) : Text := trimRight (trimLeft s)

/-- Whether nothing but blanks is in the text. -/
def isAllBlank (s : Text) : Bool := s.all isBlank

/-! ## What trimming leaves -/

theorem exists_eq_append_trimLeft (s : Text) :
    ∃ a, s = a ++ trimLeft s ∧ a.all isBlank = true :=
  ⟨s.takeWhile isBlank, List.takeWhile_append_dropWhile.symm, List.all_takeWhile⟩

theorem exists_eq_trimRight_append (s : Text) :
    ∃ b, s = trimRight s ++ b ∧ b.all isBlank = true := by
  refine ⟨(s.reverse.takeWhile isBlank).reverse, ?_, ?_⟩
  · rw [trimRight, ← List.reverse_append, List.takeWhile_append_dropWhile, List.reverse_reverse]
  · rw [List.all_reverse]
    exact List.all_takeWhile

/-- A text is its trimmed form between two runs of blanks. -/
theorem exists_eq_append_trim (s : Text) :
    ∃ a b, s = a ++ trim s ++ b ∧ a.all isBlank = true ∧ b.all isBlank = true := by
  obtain ⟨a, ha, hab⟩ := exists_eq_append_trimLeft s
  obtain ⟨b, hb, hbb⟩ := exists_eq_trimRight_append (trimLeft s)
  exact ⟨a, b, by rw [List.append_assoc, trim, ← hb, ← ha], hab, hbb⟩

theorem length_trim_le (s : Text) : (trim s).length ≤ s.length := by
  obtain ⟨a, b, h, -, -⟩ := exists_eq_append_trim s
  have := congrArg List.length h
  rw [List.length_append, List.length_append] at this
  omega

theorem dropWhile_head_false (p : Char → Bool) (s : Text) {c : Char} {r : Text}
    (h : s.dropWhile p = c :: r) : p c = false := by
  induction s with
  | nil => simp at h
  | cons d s ih =>
    rw [List.dropWhile_cons] at h
    split at h
    · exact ih h
    · next hd => cases h; simpa using hd

theorem trimLeft_head_not_blank {s r : Text} {c : Char} (h : trimLeft s = c :: r) :
    isBlank c = false :=
  dropWhile_head_false _ s h

theorem trimRight_last_not_blank {s r : Text} {c : Char} (h : trimRight s = r ++ [c]) :
    isBlank c = false := by
  apply dropWhile_head_false isBlank s.reverse (r := r.reverse)
  have := congrArg List.reverse h
  simpa [trimRight] using this

theorem trim_last_not_blank {s r : Text} {c : Char} (h : trim s = r ++ [c]) :
    isBlank c = false :=
  trimRight_last_not_blank h

/-- A text that does not start with a blank keeps its beginning. -/
theorem trimLeft_of_head {s r : Text} {c : Char} (h : s = c :: r) (hc : isBlank c = false) :
    trimLeft s = s := by
  subst h; simp [trimLeft, hc]

theorem trimRight_of_last {s r : Text} {c : Char} (h : s = r ++ [c]) (hc : isBlank c = false) :
    trimRight s = s := by
  subst h; simp [trimRight, hc]

theorem trim_head_not_blank {s r : Text} {c : Char} (h : trim s = c :: r) :
    isBlank c = false := by
  obtain ⟨b, hb, -⟩ := exists_eq_trimRight_append (trimLeft s)
  rw [← trim, h, List.cons_append] at hb
  exact trimLeft_head_not_blank hb

/-- Trimming a trimmed text changes nothing. -/
theorem trim_trim (s : Text) : trim (trim s) = trim s := by
  have hl : trimLeft (trim s) = trim s := by
    cases h : trim s with
    | nil => rfl
    | cons c r => exact trimLeft_of_head rfl (trim_head_not_blank h)
  rw [trim, hl]
  rcases List.eq_nil_or_concat (trim s) with h | ⟨r, c, h⟩
  · rw [h]; rfl
  · rw [List.concat_eq_append] at h
    exact trimRight_of_last h (trim_last_not_blank h)

end Text

end LicenseAudit
