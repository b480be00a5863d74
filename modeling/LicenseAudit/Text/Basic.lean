/-!
# Texts

A text is its list of characters. The functions here are the ones the rest of the library is
written in: looking at the ends of a text (`after?`, `before?`), cutting it at a separator
(`splitOn`, `splitOnChar`) and putting it together again (`joinWith`), and writing integers
(`ofInt`).

`splitOn` and `joinWith` undo each other: `joinWith_splitOn`.
-/

namespace LicenseAudit

/-- A text is a list of characters. -/
abbrev Text := List Char

namespace Text

instance : Coe String Text := ⟨String.toList⟩

/-! ## The ends of a text -/

/-- What follows `mark` when the text starts with it. -/
def after? : Text → Text → Option Text
  | [], s => some s
  | _ :: _, [] => none
  | c :: mark, d :: s => if c = d then after? mark s else none

/-- What precedes `mark` when the text ends with it. -/
def before? (mark s : Text) : Option Text :=
  (after? mark.reverse s.reverse).map List.reverse

/-- Whether the text starts with `mark`. -/
def startsWith (mark s : Text) : Bool := (after? mark s).isSome

/-- Whether the text ends with `mark`. -/
def endsWith (mark s : Text) : Bool := (before? mark s).isSome

theorem after?_eq_some_iff {mark s r : Text} : after? mark s = some r ↔ s = mark ++ r := by
  induction mark generalizing s with
  | nil => simp [after?, eq_comm]
  | cons c mark ih =>
    cases s with
    | nil => simp [after?]
    | cons d s => by_cases h : c = d <;> simp [after?, h, ih, eq_comm]

theorem before?_eq_some_iff {mark s r : Text} : before? mark s = some r ↔ s = r ++ mark := by
  simp only [before?, Option.map_eq_some_iff, after?_eq_some_iff]
  constructor
  · rintro ⟨t, ht, rfl⟩
    have := congrArg List.reverse ht
    simpa using this
  · rintro rfl
    exact ⟨r.reverse, by simp, by simp⟩

theorem startsWith_iff {mark s : Text} : startsWith mark s = true ↔ ∃ r, s = mark ++ r := by
  simp [startsWith, Option.isSome_iff_exists, after?_eq_some_iff]

theorem endsWith_iff {mark s : Text} : endsWith mark s = true ↔ ∃ r, s = r ++ mark := by
  simp [endsWith, Option.isSome_iff_exists, before?_eq_some_iff]

theorem length_of_after? {mark s r : Text} (h : after? mark s = some r) :
    s.length = mark.length + r.length := by
  rw [after?_eq_some_iff.1 h, List.length_append]

/-! ## Cutting and joining -/

/-- The pieces between the occurrences of a separator, found from left to right without overlap.
An empty separator cuts nothing. -/
def splitOn (sep : Text) (s : Text) : List Text :=
  match sep, s with
  | [], s => [s]
  | _ :: _, [] => [[]]
  | c :: sep, d :: s =>
    match _h : after? (c :: sep) (d :: s) with
    | some r => [] :: splitOn (c :: sep) r
    | none => (splitOn (c :: sep) s).modifyHead (d :: ·)
termination_by s.length
decreasing_by
  · have := length_of_after? _h
    simp only [List.length_cons] at this ⊢
    omega
  · exact Nat.lt_succ_self _

/-- The pieces between the occurrences of one character. -/
def splitOnChar (sep : Char) : Text → List Text
  | [] => [[]]
  | c :: s =>
    if c = sep then [] :: splitOnChar sep s else (splitOnChar sep s).modifyHead (c :: ·)

/-- The pieces in order with the separator between neighbours. -/
def joinWith (sep : Text) : List Text → Text
  | [] => []
  | [s] => s
  | s :: t :: rest => s ++ sep ++ joinWith sep (t :: rest)

theorem joinWith_cons_of_ne_nil (sep s : Text) {rest : List Text} (h : rest ≠ []) :
    joinWith sep (s :: rest) = s ++ sep ++ joinWith sep rest := by
  cases rest with
  | nil => exact absurd rfl h
  | cons t rest => rfl

theorem joinWith_modifyHead_cons (sep : Text) (c : Char) {rest : List Text} (h : rest ≠ []) :
    joinWith sep (rest.modifyHead (c :: ·)) = c :: joinWith sep rest := by
  match rest with
  | [] => exact absurd rfl h
  | [s] => rfl
  | s :: t :: rest => rfl

theorem modifyHead_ne_nil {α : Type} (f : α → α) {l : List α} (h : l ≠ []) :
    l.modifyHead f ≠ [] := by
  cases l with
  | nil => exact absurd rfl h
  | cons a l => simp

theorem splitOn_ne_nil (sep s : Text) : splitOn sep s ≠ [] := by
  fun_induction splitOn sep s with
  | case1 => simp
  | case2 => simp
  | case3 => simp
  | case4 _ _ _ _ _ ih => exact modifyHead_ne_nil _ ih

/-- Cutting at a separator and joining with it gives the text back. -/
theorem joinWith_splitOn (sep s : Text) : joinWith sep (splitOn sep s) = s := by
  fun_induction splitOn sep s with
  | case1 => rfl
  | case2 => rfl
  | case3 c sep d s r h ih =>
    rw [joinWith_cons_of_ne_nil _ _ (splitOn_ne_nil _ _), ih, List.nil_append]
    exact (after?_eq_some_iff.1 h).symm
  | case4 c sep d s h ih =>
    rw [joinWith_modifyHead_cons _ _ (splitOn_ne_nil _ _), ih]

theorem splitOnChar_ne_nil (sep : Char) (s : Text) : splitOnChar sep s ≠ [] := by
  induction s with
  | nil => simp [splitOnChar]
  | cons c s ih =>
    rw [splitOnChar]
    split
    · simp
    · exact modifyHead_ne_nil _ ih

theorem joinWith_splitOnChar (sep : Char) (s : Text) :
    joinWith [sep] (splitOnChar sep s) = s := by
  induction s with
  | nil => rfl
  | cons c s ih =>
    rw [splitOnChar]
    split
    · next h => rw [joinWith_cons_of_ne_nil _ _ (splitOnChar_ne_nil _ _), ih, h]; rfl
    · rw [joinWith_modifyHead_cons _ _ (splitOnChar_ne_nil _ _), ih]

/-- Every occurrence of `old` written as `new`. -/
def replaceAll (old new s : Text) : Text := joinWith new (splitOn old s)

/-! ## Order and numbers -/

/-- Texts are ordered by their characters, a proper beginning first. -/
def precedes (a b : Text) : Bool := a < b

/-- The decimal numeral of an integer, with a minus sign before a negative one. -/
def ofInt : Int → Text
  | .ofNat n => Nat.toDigits 10 n
  | .negSucc n => '-' :: Nat.toDigits 10 (n + 1)

/-- The text padded with spaces to a width. -/
def padRight (width : Nat) (s : Text) : Text := s ++ List.replicate (width - s.length) ' '

end Text

end LicenseAudit
