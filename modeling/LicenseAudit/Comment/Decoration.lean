import LicenseAudit.Text.Blank

/-!
# Stripping decoration

A content line is trimmed and then freed of its decoration as often as it starts with it, with
blanks in between. `stripMark` is that loop for one non-empty mark. Its result never starts with
the mark (`not_startsWith_stripMark`), is a contiguous part of the line
(`exists_eq_append_stripMark`), and stays trimmed (`trim_stripMark`).
-/

namespace LicenseAudit

open Text

/-- The line without the mark at its start, stripped as often as it stands there, each time with
the blanks around what is left. An empty mark strips nothing. -/
def stripMark (mark line : Text) : Text :=
  match mark with
  | [] => line
  | c :: rest =>
    match h : after? (c :: rest) line with
    | none => line
    | some r =>
      have : (trim r).length < line.length := by
        have h₁ := length_of_after? h
        have h₂ := length_trim_le r
        simp only [List.length_cons] at h₁
        omega
      stripMark (c :: rest) (trim r)
termination_by line.length

/-- The trimmed line without its decoration. -/
def stripDecoration (decoration : Option Text) (line : Text) : Text :=
  stripMark (decoration.getD []) (trim line)

/-- The content of a line comment: the first prefix that starts the line is stripped as often as
it stands there. There is none when no prefix starts the line. -/
def stripLinePrefix? (prefixes : List Text) (line : Text) : Option Text :=
  (prefixes.find? fun mark => startsWith mark line).map fun mark => stripMark mark line

theorem stripMark_nil (line : Text) : stripMark [] line = line := by rw [stripMark]

theorem stripMark_of_after?_none {mark line : Text} (h : after? mark line = none) :
    stripMark mark line = line := by
  cases mark with
  | nil => exact stripMark_nil line
  | cons c rest => rw [stripMark]; split <;> simp_all

theorem stripMark_of_after?_some {mark line r : Text} (hm : mark ≠ [])
    (h : after? mark line = some r) : stripMark mark line = stripMark mark (trim r) := by
  cases mark with
  | nil => exact absurd rfl hm
  | cons c rest => rw [stripMark]; split <;> simp_all

theorem stripMark_of_startsWith_eq_false {mark line : Text} (h : startsWith mark line = false) :
    stripMark mark line = line :=
  stripMark_of_after?_none (by simpa [startsWith] using h)

theorem stripMark_append {mark : Text} (hm : mark ≠ []) (rest : Text) :
    stripMark mark (mark ++ rest) = stripMark mark (trim rest) :=
  stripMark_of_after?_some hm (after?_eq_some_iff.2 rfl)

/-- What is left does not start with the mark. -/
theorem not_startsWith_stripMark {mark : Text} (hm : mark ≠ []) (line : Text) :
    startsWith mark (stripMark mark line) = false := by
  fun_induction stripMark mark line with
  | case1 => exact absurd rfl hm
  | case2 line c rest h => simp [startsWith, h]
  | case3 line c rest r _ _ ih => exact ih hm

/-- What is left is a contiguous part of the line. -/
theorem exists_eq_append_stripMark (mark line : Text) :
    ∃ a b, line = a ++ stripMark mark line ++ b := by
  fun_induction stripMark mark line with
  | case1 => exact ⟨[], [], by simp⟩
  | case2 => exact ⟨[], [], by simp⟩
  | case3 line c rest r h _ ih =>
    obtain ⟨a, b, hab⟩ := ih
    obtain ⟨a', b', hr, -, -⟩ := exists_eq_append_trim r
    refine ⟨c :: rest ++ a' ++ a, b ++ b', ?_⟩
    rw [after?_eq_some_iff.1 h]
    conv => lhs; rw [hr, hab]
    simp

/-- What is left of a trimmed line is trimmed. -/
theorem trim_stripMark (mark : Text) {line : Text} (h : trim line = line) :
    trim (stripMark mark line) = stripMark mark line := by
  fun_induction stripMark mark line with
  | case1 => exact h
  | case2 => exact h
  | case3 line c rest r _ _ ih => exact ih (trim_trim r)

theorem stripLinePrefix?_eq_none_iff {prefixes : List Text} {line : Text} :
    stripLinePrefix? prefixes line = none ↔ ∀ mark ∈ prefixes, startsWith mark line = false := by
  simp [stripLinePrefix?]

end LicenseAudit
