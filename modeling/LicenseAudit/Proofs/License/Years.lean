import LicenseAudit.License.Template
import LicenseAudit.Proofs.Text.Replacement

/-!
# Years in license texts

A range of years is written in digits, signs, commas and blanks, with a digit at its end
(`exists_yearRange_eq_concat`). So filling in the years goes line by line and past trimming
(`map_trim_splitLines_expandYears`, `normalizeLicense_expandYears`), and neither opens nor closes
a line with a mark that no year can hold.

A year is a numeral from 1000 to 2999 (`leadingYear?_bounds`), and every such number is read back
from its decimal numeral (`leadingYear?_ofInt`).
-/

namespace LicenseAudit

open Text

/-! ## The characters of years -/

/-- The characters that years are written in. -/
def isYearChar (c : Char) : Bool := c.isDigit || c == '-' || c == ',' || c == ' '

theorem isBlank_of_isDigit {c : Char} (h : c.isDigit = true) : isBlank c = false := by
  have := Char.isDigit_iff_toNat.1 h
  have h₀ : ('0' : Char).toNat = 48 := rfl
  have h₉ : ('9' : Char).toNat = 57 := rfl
  simp only [isBlank]
  simp
  omega

theorem isDigit_of_mem_toDigits {n : Nat} {c : Char} (h : c ∈ Nat.toDigits 10 n) :
    c.isDigit = true :=
  Nat.isDigit_of_mem_toDigits (by decide) (by decide) h

theorem exists_toDigits_eq_concat (n : Nat) :
    ∃ front c, Nat.toDigits 10 n = front ++ [c] ∧ c.isDigit = true := by
  obtain ⟨front, c, h⟩ := (List.eq_nil_or_concat (Nat.toDigits 10 n)).resolve_left (by simp)
  rw [List.concat_eq_append] at h
  exact ⟨front, c, h, isDigit_of_mem_toDigits (n := n) (by simp [h])⟩

theorem exists_ofInt_eq_concat (n : Int) :
    ∃ front c, ofInt n = front ++ [c] ∧ c.isDigit = true := by
  cases n with
  | ofNat n => exact exists_toDigits_eq_concat n
  | negSucc n =>
    obtain ⟨front, c, h, hc⟩ := exists_toDigits_eq_concat (n + 1)
    exact ⟨'-' :: front, c, by rw [ofInt, h]; rfl, hc⟩

theorem exists_ofInt_eq_cons (n : Int) :
    ∃ c rest, ofInt n = c :: rest ∧ (c.isDigit = true ∨ c = '-') := by
  cases n with
  | ofNat n =>
    obtain ⟨c, rest, h⟩ := List.exists_cons_of_ne_nil (Nat.toDigits_ne_nil (n := n) (b := 10))
    exact ⟨c, rest, h, .inl (isDigit_of_mem_toDigits (n := n) (by simp [h]))⟩
  | negSucc n => exact ⟨'-', _, rfl, .inr rfl⟩

theorem isYearChar_of_mem_ofInt {n : Int} {c : Char} (h : c ∈ ofInt n) :
    isYearChar c = true := by
  cases n with
  | ofNat n => simp [isYearChar, isDigit_of_mem_toDigits h]
  | negSucc n =>
    rcases List.mem_cons.1 h with rfl | h
    · rfl
    · simp [isYearChar, isDigit_of_mem_toDigits h]

section YearRange

variable (start : Option Int) (current : Int)

theorem exists_yearRange_eq_concat :
    ∃ front c, yearRange start current = front ++ [c] ∧ c.isDigit = true := by
  obtain ⟨front, c, h, hc⟩ := exists_ofInt_eq_concat current
  simp only [yearRange]
  split
  · exact ⟨front, c, h, hc⟩
  · exact ⟨ofInt (start.getD current) ++ ", ".toList ++ front, c, by simp [h], hc⟩

theorem exists_yearRange_eq_cons :
    ∃ c rest, yearRange start current = c :: rest ∧ (c.isDigit = true ∨ c = '-') := by
  simp only [yearRange]
  split
  · exact exists_ofInt_eq_cons current
  · obtain ⟨c, rest, h, hc⟩ := exists_ofInt_eq_cons (start.getD current)
    exact ⟨c, _, by rw [h]; rfl, hc⟩

theorem yearRange_ne_nil : yearRange start current ≠ [] := by
  obtain ⟨c, rest, h, -⟩ := exists_yearRange_eq_cons start current
  simp [h]

theorem isYearChar_of_mem_yearRange {c : Char} (h : c ∈ yearRange start current) :
    isYearChar c = true := by
  simp only [yearRange] at h
  split at h
  · exact isYearChar_of_mem_ofInt h
  · simp only [List.mem_append] at h
    rcases h with (h | h) | h
    · exact isYearChar_of_mem_ofInt h
    · have : c = ',' ∨ c = ' ' := by simpa using h
      rcases this with rfl | rfl <;> rfl
    · exact isYearChar_of_mem_ofInt h

theorem trim_yearRange : trim (yearRange start current) = yearRange start current := by
  obtain ⟨d, rest, hd, hdc⟩ := exists_yearRange_eq_cons start current
  obtain ⟨front, e, he, hec⟩ := exists_yearRange_eq_concat start current
  refine trim_of_ends (fun c r h => ?_) (fun c r h => ?_)
  · rw [hd, List.cons.injEq] at h
    rw [← h.1]
    rcases hdc with hdc | rfl
    · exact isBlank_of_isDigit hdc
    · rfl
  · rw [he] at h
    obtain ⟨-, h⟩ := List.append_inj' h rfl
    rw [List.cons.injEq] at h
    exact h.1 ▸ isBlank_of_isDigit hec

end YearRange

/-! ## Filling in the years line by line -/

theorem yearsMacro_ne_nil : yearsMacro ≠ [] := by decide

theorem isBlank_of_mem_yearsMacro : ∀ c ∈ yearsMacro, isBlank c = false := by
  simp [yearsMacro, isBlank]

section ExpandYears

variable (start : Option Int) (current : Int)

theorem trim_expandYears (s : Text) :
    trim (expandYears s start current) = expandYears (trim s) start current :=
  trim_replaceAll yearsMacro_ne_nil isBlank_of_mem_yearsMacro (yearRange_ne_nil _ _)
    (trim_yearRange _ _) s

/-- The trimmed lines of a license text with years are those without, years filled in. -/
theorem map_trim_splitLines_expandYears (s : Text) :
    (splitLines (expandYears s start current)).map trim =
      ((splitLines s).map trim).map fun line => expandYears line start current := by
  have hn : '\n' ∉ yearRange start current := by
    intro h
    have := isYearChar_of_mem_yearRange start current h
    revert this
    decide
  have hcut : splitOnChar '\n' (expandYears s start current) =
      (splitOnChar '\n' s).map fun line => expandYears line start current :=
    splitOnChar_replaceAll yearsMacro_ne_nil (by decide) hn s
  rw [map_trim_splitLines, map_trim_splitLines, hcut, List.map_map, List.map_map]
  apply List.map_congr_left
  intro line _
  exact trim_expandYears start current line

/-- Filling in the years and normalizing commute. -/
theorem normalizeLicense_expandYears (s : Text) :
    normalizeLicense (expandYears s start current) =
      expandYears (normalizeLicense s) start current := by
  have hjoin : joinWith [' '] (((splitLines s).map trim).map (expandYears · start current)) =
      expandYears (joinWith [' '] ((splitLines s).map trim)) start current :=
    (replaceAll_joinWith yearsMacro_ne_nil (by decide) _).symm
  rw [normalizeLicense, map_trim_splitLines_expandYears, hjoin, trim_expandYears]
  rfl

/-- The macro of a license text is still there when the text is normalized. -/
theorem infix_normalizeLicense {s : Text} (h : yearsMacro <:+: s) :
    yearsMacro <:+: normalizeLicense s := by
  rw [← joinWith_splitOnChar '\n' s] at h
  obtain ⟨line, hl, hm⟩ := exists_infix_of_infix_joinWith yearsMacro_ne_nil (by decide) h
  have hline : trim line ∈ (splitLines s).map trim :=
    map_trim_splitLines s ▸ List.mem_map_of_mem hl
  have hm := infix_trim yearsMacro_ne_nil isBlank_of_mem_yearsMacro hm
  exact infix_trim yearsMacro_ne_nil isBlank_of_mem_yearsMacro
    (hm.trans (infix_joinWith_of_mem _ hline))

/-- A mark that no year can hold starts no line anew. -/
theorem startsWith_of_startsWith_expandYears {mark s : Text}
    (hm : ∀ c ∈ mark, isYearChar c = false)
    (h : startsWith mark (expandYears s start current) = true) : startsWith mark s = true := by
  obtain ⟨c, rest, hy, -⟩ := exists_yearRange_eq_cons start current
  have hc : isYearChar c = true := isYearChar_of_mem_yearRange start current (by simp [hy])
  rw [expandYears, hy] at h
  exact startsWith_of_startsWith_replaceAll yearsMacro_ne_nil
    (fun hcm => by simp [hm c hcm] at hc) h

/-- A mark without digits ends no line anew. -/
theorem endsWith_of_endsWith_expandYears {mark s : Text}
    (hm : ∀ c ∈ mark, c.isDigit = false)
    (h : endsWith mark (expandYears s start current) = true) : endsWith mark s = true := by
  obtain ⟨front, c, hy, hc⟩ := exists_yearRange_eq_concat start current
  rw [expandYears, hy] at h
  exact endsWith_of_endsWith_replaceAll yearsMacro_ne_nil
    (fun hcm => by simp [hm c hcm] at hc) h

end ExpandYears

/-! ## Reading years -/

theorem digitValue?_le {c : Char} {d : Nat} (h : digitValue? c = some d) : d ≤ 9 := by
  unfold digitValue? at h
  split at h
  · split at h
    · next hc =>
      have hd := (Char.isDigit_iff_toNat.1 hc).2
      have h₉ : ('9' : Char).toNat = 57 := rfl
      have := Option.some.inj h
      omega
    · cases h
  · obtain ⟨z, hz, rfl⟩ := Option.map_eq_some_iff.1 h
    have := List.find?_some hz
    simp only [Bool.and_eq_true, decide_eq_true_eq] at this
    omega

theorem digitValue?_of_blank {c : Char} (h : isBlank c = true) : digitValue? c = none := by
  have hzeros : ∀ z ∈ digitZeros, z + 9 < 0x85 ∨ (0xA0 < z ∧ z + 9 < 0x1680) ∨
      (0x1680 < z ∧ z + 9 < 0x2000) ∨ 0x3000 < z := by decide
  simp only [isBlank, Bool.or_eq_true, Bool.and_eq_true, decide_eq_true_eq, beq_iff_eq] at h
  rw [digitValue?]
  split
  · next hn =>
    rw [if_neg]
    intro hd
    have hlow : 48 ≤ c.toNat := Char.isDigit_iff_toNat.1 hd |>.1
    omega
  · next hn =>
    rw [Option.map_eq_none_iff, List.find?_eq_none]
    intro z hz hb
    simp only [Bool.and_eq_true, decide_eq_true_eq] at hb
    have := hzeros z hz
    omega

theorem digitValue?_lt_three {c : Char} {d : Nat} (hc : c = '1' ∨ c = '2')
    (h : digitValue? c = some d) : 1 ≤ d ∧ d ≤ 2 := by
  rcases hc with rfl | rfl
  · obtain rfl : 1 = d := Option.some.inj h
    decide
  · obtain rfl : 2 = d := Option.some.inj h
    decide

theorem readDigits?_cons {acc n : Nat} {c : Char} {s : Text}
    (h : readDigits? acc (c :: s) = some n) :
    ∃ d, digitValue? c = some d ∧ readDigits? (10 * acc + d) s = some n := by
  unfold readDigits? at h
  split at h
  · next d hd => exact ⟨d, hd, h⟩
  · cases h

/-- A year is a numeral of four digits that starts with a one or a two. -/
theorem leadingYear?_bounds {s rest : Text} {year : Int}
    (h : leadingYear? s = some (year, rest)) : 1000 ≤ year ∧ year ≤ 2999 := by
  match s, h with
  | c :: c₁ :: c₂ :: c₃ :: s, h =>
    rw [leadingYear?] at h
    split at h
    · next hc =>
      obtain ⟨n, hn, hy⟩ := Option.map_eq_some_iff.1 h
      obtain ⟨d, hd, hn⟩ := readDigits?_cons hn
      obtain ⟨d₁, hd₁, hn⟩ := readDigits?_cons hn
      obtain ⟨d₂, hd₂, hn⟩ := readDigits?_cons hn
      obtain ⟨d₃, hd₃, hn⟩ := readDigits?_cons hn
      have hv : 10 * (10 * (10 * (10 * 0 + d) + d₁) + d₂) + d₃ = n := Option.some.inj hn
      have hy : (n : Int) = year := congrArg Prod.fst hy
      have := digitValue?_lt_three hc hd
      have := digitValue?_le hd₁
      have := digitValue?_le hd₂
      have := digitValue?_le hd₃
      omega
    · cases h

theorem digitValue?_digitChar : ∀ d < 10, digitValue? (Nat.digitChar d) = some d := by decide

/-- A year is read back from its numeral. -/
theorem leadingYear?_ofInt {year : Int} (h₁ : 1000 ≤ year) (h₂ : year ≤ 2999) (rest : Text) :
    leadingYear? (ofInt year ++ rest) = some (year, rest) := by
  obtain ⟨n, rfl⟩ := Int.eq_ofNat_of_zero_le (a := year) (by omega)
  have hn : ofInt (n : Int) = [(n / 10 / 10 / 10).digitChar, (n / 10 / 10 % 10).digitChar,
      (n / 10 % 10).digitChar, (n % 10).digitChar] := by
    show Nat.toDigits 10 n = _
    rw [Nat.toDigits_of_base_le (by decide) (by omega),
      Nat.toDigits_of_base_le (by decide) (by omega),
      Nat.toDigits_of_base_le (by decide) (by omega), Nat.toDigits_of_lt_base (by omega)]
    rfl
  have hfirst : (n / 10 / 10 / 10).digitChar = '1' ∨ (n / 10 / 10 / 10).digitChar = '2' := by
    have : n / 10 / 10 / 10 = 1 ∨ n / 10 / 10 / 10 = 2 := by omega
    rcases this with h | h <;> simp [h]
  have hv : n = 10 * (10 * (10 * (n / 10 / 10 / 10) + n / 10 / 10 % 10) + n / 10 % 10) + n % 10 :=
    by omega
  rw [hn]
  simp only [List.cons_append, List.nil_append, leadingYear?, if_pos hfirst]
  simp only [readNumeral?, List.isEmpty_cons, Bool.false_eq_true, if_false, readDigits?,
    digitValue?_digitChar _ (show n / 10 / 10 / 10 < 10 by omega),
    digitValue?_digitChar _ (Nat.mod_lt _ (show 10 > 0 by decide)), Option.map_some]
  rw [Nat.mul_zero, Nat.zero_add, ← hv]
  rfl

end LicenseAudit
