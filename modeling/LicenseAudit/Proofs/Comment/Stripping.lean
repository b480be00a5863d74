import LicenseAudit.Comment.Decoration
import LicenseAudit.Proofs.Text.Trimming

/-!
# How stripping ends

Stripping cuts a mark off a line again and again, each time with the blanks around what is left.
`CutsTo` says after how many cuts this ends and with what. Every cut takes a whole mark, so a mark
is not cut off more often than it fits into the line (`CutsTo.count_mul_length_add_le`). The empty
mark is the exception: it stands in front of every text, and cutting it off never ends. For all
others the end is reached, and it is what `stripMark` gives (`exists_cutsTo_iff`).

What is left is in a normal form (`TakenFrom`): a trimmed part of the line that does not start with
the mark. So stripping again changes nothing, and one more decoration in front of the line makes no
difference (`stripDecoration_append`), unless trimming takes away a blank that is part of it.
-/

namespace LicenseAudit

open Text

/-! ## Cutting a mark off -/

/-- Cutting the mark off a text ends after so many cuts, with what is left then. -/
inductive CutsTo (mark : Text) : Text → Nat → Text → Prop
  /-- The mark does not stand in front. -/
  | bare {line : Text} (h : startsWith mark line = false) : CutsTo mark line 0 line
  /-- The mark goes, and the blanks around the rest. -/
  | cut {rest left : Text} {count : Nat} (h : CutsTo mark (trim rest) count left) :
      CutsTo mark (mark ++ rest) (count + 1) left

section

variable {mark line left : Text} {count : Nat}

namespace CutsTo

/-- Cutting the empty mark off never ends. -/
theorem mark_ne_nil (h : CutsTo mark line count left) : mark ≠ [] := by
  rintro rfl
  -- No text is bare of the empty mark, so that every cut would have to be followed by one more.
  induction h with
  | bare h => simp [startsWith, after?] at h
  | cut _ ih => exact ih

theorem stripMark_eq (h : CutsTo mark line count left) : stripMark mark line = left := by
  have hm := h.mark_ne_nil
  induction h with
  | bare h => exact stripMark_of_startsWith_eq_false h
  | cut _ ih => rw [stripMark_append hm, ih]

/-- The marks that are cut off and what is left have room in the line. -/
theorem count_mul_length_add_le (h : CutsTo mark line count left) :
    count * mark.length + left.length ≤ line.length := by
  induction h with
  | bare _ => simp
  | @cut rest left count _ ih =>
    have htrim := length_trim_le rest
    rw [List.length_append, Nat.succ_mul]
    omega

end CutsTo

/-- Cutting a mark off ends exactly when the mark is not empty, and then with what `stripMark`
gives. -/
theorem exists_cutsTo_iff :
    (∃ count, CutsTo mark line count left) ↔ mark ≠ [] ∧ stripMark mark line = left := by
  constructor
  · rintro ⟨count, h⟩
    exact ⟨h.mark_ne_nil, h.stripMark_eq⟩
  · rintro ⟨hm, rfl⟩
    fun_induction stripMark mark line with
    | case1 => exact absurd rfl hm
    | case2 line c rest h => exact ⟨0, .bare (by simp [startsWith, h])⟩
    | case3 line c rest r h _ ih =>
      obtain ⟨count, hcount⟩ := ih hm
      rw [after?_eq_some_iff.1 h]
      exact ⟨count + 1, .cut hcount⟩

/-- A mark that is not empty is cut off until it is gone, and no more often than it fits into the
line. -/
theorem exists_cutsTo (hm : mark ≠ []) (line : Text) :
    ∃ count, CutsTo mark line count (stripMark mark line) ∧
      count * mark.length ≤ line.length := by
  obtain ⟨count, h⟩ := exists_cutsTo_iff.2 ⟨hm, rfl⟩
  exact ⟨count, h, Nat.le_trans (Nat.le_add_right _ _) h.count_mul_length_add_le⟩

end

/-! ## What is left -/

theorem stripMark_isInfix (mark line : Text) : stripMark mark line <:+: line := by
  obtain ⟨a, b, h⟩ := exists_eq_append_stripMark mark line
  exact ⟨a, b, h.symm⟩

/-- The text is a trimmed part of the line, and the mark does not stand in front of it. -/
structure TakenFrom (mark line text : Text) : Prop where
  part : text <:+: line
  trimmed : trim text = text
  bare : mark ≠ [] → startsWith mark text = false

theorem takenFrom_stripMark (mark : Text) {part line : Text} (h : part <:+: line)
    (htrim : trim part = part) : TakenFrom mark line (stripMark mark part) where
  part := (stripMark_isInfix mark part).trans h
  trimmed := trim_stripMark mark htrim
  bare hm := not_startsWith_stripMark hm part

/-- A line need not be trimmed where a mark is cut off. -/
theorem takenFrom_stripMark_of_startsWith {mark line : Text} (hm : mark ≠ [])
    (h : startsWith mark line = true) : TakenFrom mark line (stripMark mark line) := by
  obtain ⟨rest, rfl⟩ := startsWith_iff.1 h
  rw [stripMark_append hm]
  refine takenFrom_stripMark mark ?_ (trim_trim rest)
  exact (trim_isInfix rest).trans (List.suffix_append mark rest).isInfix

theorem TakenFrom.stripMark_eq {mark line text : Text} (h : TakenFrom mark line text) :
    stripMark mark text = text := by
  cases mark with
  | nil => exact stripMark_nil text
  | cons c mark => exact stripMark_of_startsWith_eq_false (h.bare (by simp))

/-! ## Decoration -/

theorem takenFrom_stripDecoration (decoration : Option Text) (line : Text) :
    TakenFrom (decoration.getD []) line (stripDecoration decoration line) :=
  takenFrom_stripMark _ (trim_isInfix line) (trim_trim line)

theorem stripDecoration_stripDecoration (decoration : Option Text) (line : Text) :
    stripDecoration decoration (stripDecoration decoration line) =
      stripDecoration decoration line := by
  have h := takenFrom_stripDecoration decoration line
  conv => lhs; rw [stripDecoration, h.trimmed, h.stripMark_eq]

/-- One more decoration in front of a line makes no difference. -/
theorem stripDecoration_append {mark : Text} (h : trim mark = mark) (line : Text) :
    stripDecoration (some mark) (mark ++ line) = stripDecoration (some mark) line := by
  by_cases hm : mark = []
  · rw [hm]
    rfl
  · rw [stripDecoration, stripDecoration, Option.getD_some, trim_append_eq_append_trimRight h hm,
      stripMark_append hm, trim_trimRight]

-- Trimmed, the line does not start with this decoration any more.
example : stripDecoration (some "* ") "* " = "*" := by decide +kernel

/-! ## Prefixes of line comments -/

/-- The mark starts the line, and none of the prefixes in front of it does. -/
def IsFirstPrefix (prefixes : List Text) (line mark : Text) : Prop :=
  ∃ front back, prefixes = front ++ mark :: back ∧ startsWith mark line = true ∧
    ∀ other ∈ front, startsWith other line = false

namespace IsFirstPrefix

variable {prefixes : List Text} {line mark : Text}

theorem mem (h : IsFirstPrefix prefixes line mark) : mark ∈ prefixes := by
  obtain ⟨front, back, rfl, -, -⟩ := h
  simp

theorem startsWith (h : IsFirstPrefix prefixes line mark) :
    Text.startsWith mark line = true := by
  obtain ⟨-, -, -, hs, -⟩ := h
  exact hs

end IsFirstPrefix

theorem stripLinePrefix?_eq_some_iff {prefixes : List Text} {line content : Text} :
    stripLinePrefix? prefixes line = some content ↔
      ∃ mark, IsFirstPrefix prefixes line mark ∧ stripMark mark line = content := by
  have hfirst : ∀ mark, prefixes.find? (fun mark => startsWith mark line) = some mark ↔
      IsFirstPrefix prefixes line mark := by
    intro mark
    rw [List.find?_eq_some_iff_append, IsFirstPrefix]
    simp only [Bool.not_eq_true']
    exact ⟨fun ⟨hs, front, back, hp, hf⟩ => ⟨front, back, hp, hs, hf⟩,
      fun ⟨front, back, hp, hs, hf⟩ => ⟨hs, front, back, hp, hf⟩⟩
  simp only [stripLinePrefix?, Option.map_eq_some_iff, hfirst]

/-! ## Both kinds of stripping -/

/-- **Stripping ends in a normal form.** The decoration is cut off the trimmed line until the line
does not start with it any more; without decoration the line is trimmed and no more. What is left is
a trimmed part of the line that does not start with the decoration, so that stripping it again
changes nothing. A decoration without blanks around it makes no difference in front of a line. A
line comment loses the first prefix that starts it in the same way, and a line that no prefix starts
is no line comment. -/
theorem takenFrom_of_stripping :
    (∀ (decoration : Option Text) (line : Text),
      (decoration.getD [] = [] ∧ stripDecoration decoration line = trim line ∨
        ∃ count, CutsTo (decoration.getD []) (trim line) count (stripDecoration decoration line) ∧
          count * (decoration.getD []).length ≤ line.length) ∧
      TakenFrom (decoration.getD []) line (stripDecoration decoration line) ∧
      stripDecoration decoration (stripDecoration decoration line) =
        stripDecoration decoration line ∧
      ∀ mark ∈ decoration, trim mark = mark →
        stripDecoration decoration (mark ++ line) = stripDecoration decoration line) ∧
    ∀ (prefixes : List Text) (line : Text), [] ∉ prefixes →
      (stripLinePrefix? prefixes line = none ↔ ∀ mark ∈ prefixes, startsWith mark line = false) ∧
      ∀ content ∈ stripLinePrefix? prefixes line,
        ∃ mark, IsFirstPrefix prefixes line mark ∧ TakenFrom mark line content ∧
          ∃ count, CutsTo mark line count content ∧ count * mark.length ≤ line.length := by
  constructor
  · intro decoration line
    refine ⟨?_, takenFrom_stripDecoration decoration line,
      stripDecoration_stripDecoration decoration line, ?_⟩
    · by_cases hm : decoration.getD [] = []
      · left
        exact ⟨hm, by rw [stripDecoration, hm, stripMark_nil]⟩
      · right
        obtain ⟨count, hcuts, hcount⟩ := exists_cutsTo hm (trim line)
        exact ⟨count, hcuts, Nat.le_trans hcount (length_trim_le line)⟩
    · intro mark hmark htrim
      obtain rfl := Option.mem_def.1 hmark
      exact stripDecoration_append htrim line
  · intro prefixes line hp
    refine ⟨stripLinePrefix?_eq_none_iff, fun content hcontent => ?_⟩
    obtain ⟨mark, hfirst, rfl⟩ := stripLinePrefix?_eq_some_iff.1 (Option.mem_def.1 hcontent)
    have hm : mark ≠ [] := ne_of_mem_of_not_mem hfirst.mem hp
    exact ⟨mark, hfirst, takenFrom_stripMark_of_startsWith hm hfirst.startsWith,
      exists_cutsTo hm line⟩

theorem takenFrom_of_stripping_repeated :
    trim "*" = "*" ∧ stripDecoration (some "*") ("*" ++ " ** * note *  ") = "note *" ∧
    [] ∉ (["//", "#"] : List Text) ∧
    stripLinePrefix? ["//", "#"] "### note" = some "note" ∧
    ∃ mark, IsFirstPrefix ["//", "#"] "### note" mark ∧ TakenFrom mark "### note" "note" ∧
      ∃ count, CutsTo mark "### note" count "note" ∧ count * mark.length ≤ 8 := by
  obtain ⟨hdecoration, hprefixes⟩ := takenFrom_of_stripping
  have htrim : trim "*" = "*" := by decide
  have hnil : [] ∉ (["//", "#"] : List Text) := by decide
  have hnote : stripLinePrefix? ["//", "#"] "### note" = some "note" := by decide +kernel
  obtain ⟨-, -, -, happend⟩ := hdecoration (some "*") " ** * note *  "
  obtain ⟨-, hcontent⟩ := hprefixes ["//", "#"] "### note" hnil
  refine ⟨htrim, ?_, hnil, hnote, hcontent "note" (Option.mem_def.2 hnote)⟩
  rw [happend "*" rfl htrim]
  decide +kernel

end LicenseAudit
