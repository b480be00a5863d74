import LicenseAudit.Proofs.License.Recognition
import LicenseAudit.Proofs.Text.Lines
import LicenseAudit.Settings.YearMap

/-!
# Entries of year maps

An entry writes a path and a year. Blanks may stand around both, and `./` any number of times in
front of the path (`WritesPath`, `WritesYear`); a value of a table is a year when it is an integer
of four digits that starts with a one or a two, or a text that writes one (`Value.WritesYear`).

An entry is valid exactly when it can be cut at its only colon into a path and a year
(`YearEntry.ofText_eq_valid_iff`). Everything else is junk, which changes nothing
(`YearEntry.addTo_of_isJunk`).
-/

namespace LicenseAudit

open Text

/-! ## Paths and years as they are written -/

/-- A path that can stand in an entry and means itself there. -/
structure IsYearPath (path : Text) : Prop where
  trimmed : trim path = path
  undotted : ∀ rest, path ≠ '.' :: '/' :: rest
  colon : ':' ∉ path
  comma : ',' ∉ path
  backslash : '\\' ∉ path
  unbroken : ∀ c ∈ path, isBreak c = false

/-- Some `./` one after the other. -/
def dotSlashes : Nat → Text
  | 0 => []
  | n + 1 => '.' :: '/' :: dotSlashes n

/-- The text writes a path: blanks may stand around it and `./` in front of it. -/
def WritesPath (path s : Text) : Prop :=
  ∃ n a b, a.all isBlank = true ∧ b.all isBlank = true ∧ s = a ++ (dotSlashes n ++ path) ++ b

/-- The text writes a year, with blanks around it. -/
def WritesYear (year : Int) (s : Text) : Prop :=
  ∃ a numeral b, a.all isBlank = true ∧ b.all isBlank = true ∧ YearNumeral numeral year ∧
    s = a ++ numeral ++ b

/-- The value is a year: an integer from 1000 to 2999 or a text that writes one. -/
inductive Value.WritesYear : Value → Int → Prop
  | integer {year : Int} (h₁ : 1000 ≤ year) (h₂ : year ≤ 2999) : WritesYear (.integer year) year
  | text {s : Text} {year : Int} (h : LicenseAudit.WritesYear year s) : WritesYear (.text s) year

section Parts

variable {path s : Text} {year : Int}

theorem mem_dotSlashes {n : Nat} {c : Char} (h : c ∈ dotSlashes n) : c = '.' ∨ c = '/' := by
  induction n with
  | zero => cases h
  | succ n ih =>
    simp only [dotSlashes, List.mem_cons] at h
    rcases h with h | h | h
    · exact .inl h
    · exact .inr h
    · exact ih h

/-- With `./` in front a path is as trimmed as without. -/
theorem trim_dotSlashes_append (h : trim path = path) (n : Nat) :
    trim (dotSlashes n ++ path) = dotSlashes n ++ path := by
  rcases n with _ | n
  · exact h
  refine trim_of_ends (fun c r hs => ?_) (fun c r hs => ?_)
  · obtain rfl : '.' = c := (List.cons.inj hs).1
    rfl
  · rcases List.eq_nil_or_concat path with hp | ⟨front, d, hp⟩
    · have hc : c ∈ dotSlashes (n + 1) := by
        rw [← List.append_nil (dotSlashes (n + 1)), ← hp, hs]
        simp
      rcases mem_dotSlashes hc with rfl | rfl <;> rfl
    · rw [List.concat_eq_append] at hp
      rw [hp, ← List.append_assoc] at hs
      obtain ⟨-, hs⟩ := List.append_inj' hs rfl
      exact (List.cons.inj hs).1 ▸ (trim_eq_self_iff.1 h).2 d front hp

theorem dropDotSlashes_append (h : ∀ rest, path ≠ '.' :: '/' :: rest) (n : Nat) :
    dropDotSlashes (dotSlashes n ++ path) = path := by
  induction n with
  | zero => exact dropDotSlashes.eq_2 path fun rest hs => h rest hs
  | succ n ih => exact ih

/-- A path writes itself. -/
theorem writesPath_self (path : Text) : WritesPath path path :=
  ⟨0, [], [], rfl, rfl, by simp [dotSlashes]⟩

/-- A written path is read as what it writes. -/
theorem WritesPath.entryPath_eq (hpath : IsYearPath path) (h : WritesPath path s) :
    entryPath s = path := by
  obtain ⟨n, a, b, ha, hb, rfl⟩ := h
  have hslashes : (dotSlashes n ++ path).map (fun c => if c = '\\' then '/' else c) =
      dotSlashes n ++ path := by
    refine (List.map_congr_left fun c hc => if_neg ?_).trans (List.map_id _)
    rintro rfl
    rcases List.mem_append.1 hc with hc | hc
    · rcases mem_dotSlashes hc with hc | hc <;> simp at hc
    · exact hpath.backslash hc
  rw [entryPath, trim_append_blank hb, trim_blank_append ha, trim_dotSlashes_append hpath.trimmed,
    hslashes, dropDotSlashes_append hpath.undotted]

theorem WritesPath.not_mem_colon (hpath : IsYearPath path) (h : WritesPath path s) : ':' ∉ s := by
  obtain ⟨n, a, b, ha, hb, rfl⟩ := h
  have hdots : ':' ∉ dotSlashes n := fun hc => by
    rcases mem_dotSlashes hc with hc | hc <;> simp at hc
  simp only [List.mem_append, not_or]
  exact ⟨⟨not_mem_of_blank rfl ha, hdots, hpath.colon⟩, not_mem_of_blank rfl hb⟩

/-- A decimal digit is no blank and no mark of an entry. -/
theorem YearNumeral.not_mem {numeral : Text} (h : YearNumeral numeral year) {c : Char}
    (hc : digitValue? c = none) : c ∉ numeral := by
  cases h with
  | digits _ h h₁ h₂ h₃ =>
    simp only [List.mem_cons, List.not_mem_nil, or_false, not_or]
    refine ⟨?_, ?_, ?_, ?_⟩ <;> rintro rfl <;> simp_all

theorem YearNumeral.trim_eq {numeral : Text} (h : YearNumeral numeral year) :
    trim numeral = numeral := by
  have hblank : ∀ c ∈ numeral, isBlank c = false := fun c hc => by
    by_contra hb
    exact h.not_mem (digitValue?_of_blank (by simpa using hb)) hc
  exact trim_of_ends (fun c r hs => hblank c (by simp [hs])) fun c r hs => hblank c (by simp [hs])

theorem writesYear_ofInt (h₁ : 1000 ≤ year) (h₂ : year ≤ 2999) : WritesYear year (ofInt year) :=
  ⟨[], ofInt year, [], rfl, rfl, yearNumeral_ofInt h₁ h₂, by simp⟩

theorem writesYear_iff : WritesYear year s ↔ YearNumeral (trim s) year := by
  constructor
  · rintro ⟨a, numeral, b, ha, hb, hyear, rfl⟩
    rw [trim_append_blank hb, trim_blank_append ha, hyear.trim_eq]
    exact hyear
  · intro h
    obtain ⟨a, b, hs, ha, hb⟩ := exists_eq_append_trim s
    exact ⟨a, trim s, b, ha, hb, h, hs⟩

/-- A text is read as a year exactly when it writes one. -/
theorem yearOfText?_eq_some_iff : yearOfText? s = some year ↔ WritesYear year s := by
  rw [writesYear_iff, yearOfText?]
  constructor
  · intro h
    split at h
    · next hl =>
      cases h
      obtain ⟨numeral, hs, hyear⟩ := leadingYear?_eq_some_iff.1 hl
      rw [List.append_nil] at hs
      exact hs ▸ hyear
    · cases h
  · intro h
    have hlead : leadingYear? (trim s) = some (year, []) := by
      simpa using h.leadingYear? []
    rw [hlead]

theorem WritesYear.not_mem_colon (h : WritesYear year s) : ':' ∉ s := by
  obtain ⟨a, numeral, b, ha, hb, hyear, rfl⟩ := h
  simp only [List.mem_append, not_or]
  exact ⟨⟨not_mem_of_blank rfl ha, hyear.not_mem (by decide)⟩, not_mem_of_blank rfl hb⟩

theorem Value.year?_eq_some_iff {v : Value} : v.year? = some year ↔ v.WritesYear year := by
  constructor
  · intro h
    cases v with
    | integer n =>
      rw [year?] at h
      split at h
      · next hn => cases h; exact .integer hn.1 hn.2
      · cases h
    | text s => exact .text (yearOfText?_eq_some_iff.1 h)
    | _ => cases h
  · rintro (⟨h₁, h₂⟩ | h)
    · exact if_pos ⟨h₁, h₂⟩
    · exact yearOfText?_eq_some_iff.2 h

end Parts

/-! ## Entries and junk -/

/-- A text that is no entry: it is blank, it has not two parts around a colon, or its second part
writes no year. -/
inductive IsJunk : Text → Prop
  | blank {s : Text} (h : isAllBlank s = true) : IsJunk s
  | parts {s : Text} (h : s.count ':' ≠ 1) : IsJunk s
  | noYear {p y : Text} (h : ∀ year, ¬ WritesYear year y) : IsJunk (p ++ ':' :: y)

namespace YearEntry

variable {s path : Text} {year : Int}

/-- A valid entry is cut at its only colon into a path and a year. -/
theorem ofText_eq_valid_iff : ofText s = .valid path year ↔
    ∃ p y, s = p ++ ':' :: y ∧ ':' ∉ p ∧ ':' ∉ y ∧ entryPath p = path ∧ WritesYear year y := by
  constructor
  · intro h
    rw [ofText] at h
    split at h
    · cases h
    split at h
    · next p y hparts =>
      split at h
      · next found hyear =>
        obtain ⟨rfl, rfl⟩ := YearEntry.valid.inj h
        have hp := not_mem_of_mem_splitOnChar ':' (hparts ▸ List.mem_cons_self ..)
        have hy : ':' ∉ y := not_mem_of_mem_splitOnChar ':' (s := trim s) (by simp [hparts])
        have hentry : trim s = p ++ ':' :: y := by
          rw [← joinWith_splitOnChar ':' (trim s), hparts]
          simp [joinWith]
        obtain ⟨a, b, hs, ha, hb⟩ := exists_eq_append_trim s
        refine ⟨a ++ p, y ++ b, ?_, ?_, ?_, ?_, ?_⟩
        · rw [hs, hentry]
          simp
        · exact List.not_mem_append (not_mem_of_blank rfl ha) hp
        · exact List.not_mem_append hy (not_mem_of_blank rfl hb)
        · rw [entryPath, trim_blank_append ha, entryPath]
        · rw [← yearOfText?_eq_some_iff, yearOfText?, trim_append_blank hb, ← yearOfText?]
          exact hyear
      · cases h
    · cases h
  · rintro ⟨p, y, rfl, hp, hy, rfl, hyear⟩
    obtain ⟨a, hpa, -⟩ := exists_eq_append_trimLeft p
    obtain ⟨b, hyb, -⟩ := exists_eq_trimRight_append y
    have hp' : ':' ∉ trimLeft p := fun h => hp (by rw [hpa]; simp [h])
    have hy' : ':' ∉ trimRight y := fun h => hy (by rw [hyb]; simp [h])
    have hparts : splitOnChar ':' (trim (p ++ ':' :: y)) = [trimLeft p, trimRight y] := by
      rw [trim_append_cons rfl, splitOnChar_append ':' hp', splitOnChar_of_not_mem ':' hy']
    have hread : yearOfText? (trimRight y) = some year := by
      rw [yearOfText?, trim_trimRight, ← yearOfText?, yearOfText?_eq_some_iff]
      exact hyear
    have hpath : entryPath (trimLeft p) = entryPath p := by
      rw [entryPath, trim_trimLeft, ← entryPath]
    have hne : (trim (p ++ ':' :: y)).isEmpty = false := by
      rw [trim_append_cons rfl]
      simp
    simp only [ofText, hne, Bool.false_eq_true, if_false, hparts, hread, hpath]

theorem addTo_of_isJunk (hs : IsJunk s) (m : YearMap) : (ofText s).addTo m = m := by
  rcases h : ofText s with _ | ⟨path, year⟩ | _ | _
  · rfl
  · obtain ⟨p, y, rfl, hp, hy, -, hyear⟩ := ofText_eq_valid_iff.1 h
    generalize hs' : p ++ ':' :: y = s at hs
    cases hs with
    | blank hblank =>
      have hcolon : ':' ∈ s := by simp [← hs']
      exact absurd hcolon (not_mem_of_blank rfl hblank)
    | parts hcount =>
      subst hs'
      simp [List.count_eq_zero_of_not_mem hp, List.count_eq_zero_of_not_mem hy] at hcount
    | noYear hnone =>
      obtain ⟨-, -, rfl⟩ := (List.append_cons_inj_of_notMem hp hy).1 hs'
      exact absurd hyear (hnone _)
  · rfl
  · rfl

end YearEntry

end LicenseAudit
