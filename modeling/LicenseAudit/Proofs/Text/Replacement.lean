import LicenseAudit.Proofs.Text.Lines

/-!
# Laws of replacement

A text is read by `replaceAll old new` from left to right: an occurrence of `old` is written as
`new`, any other character as itself. `occurrence_induction` is induction along this reading, and
the facts below follow it.

A character that does not occur in `old` is a wall between its two sides
(`replaceAll_append_cons`), so replacing commutes with cutting at such a character and with joining
(`splitOnChar_replaceAll`, `replaceAll_joinWith`), and, for a mark without blanks and a replacement
without blanks at its ends, with trimming (`trim_replaceAll`). A replacement whose first or last
character a mark does not hold adds no beginning or end with that mark
(`startsWith_of_startsWith_replaceAll`, `endsWith_of_endsWith_replaceAll`).
-/

namespace LicenseAudit.Text

variable {old new : Text} (hold : old ≠ [])
include hold

/-- Reading a text from left to right, past an occurrence of `old` or past one character. -/
theorem occurrence_induction {motive : Text → Prop} (nil : motive [])
    (mark : ∀ r, motive r → motive (old ++ r))
    (cons : ∀ c s, startsWith old (c :: s) = false → motive s → motive (c :: s)) (s : Text) :
    motive s := by
  induction h : s.length using Nat.strongRecOn generalizing s with
  | _ n ih =>
    subst h
    cases hm : after? old s with
    | some r =>
      obtain rfl := after?_eq_some_iff.1 hm
      have hl := List.length_pos_iff.2 hold
      exact mark r (ih _ (by rw [List.length_append]; omega) r rfl)
    | none =>
      cases s with
      | nil => exact nil
      | cons c s => exact cons c s (by simp [startsWith, hm]) (ih _ (by simp) s rfl)

theorem splitOn_append (r : Text) : splitOn old (old ++ r) = [] :: splitOn old r := by
  obtain ⟨c, rest, rfl⟩ := List.exists_cons_of_ne_nil hold
  have ha : after? (c :: rest) (c :: (rest ++ r)) = some r := after?_eq_some_iff.2 rfl
  rw [List.cons_append, splitOn]
  split
  · next h => rw [Option.some.inj (ha.symm.trans h)]
  · next h => cases ha.symm.trans h

theorem splitOn_cons {c : Char} {s : Text} (h : startsWith old (c :: s) = false) :
    splitOn old (c :: s) = (splitOn old s).modifyHead (c :: ·) := by
  obtain ⟨d, rest, rfl⟩ := List.exists_cons_of_ne_nil hold
  rw [splitOn]
  split
  · next h' => simp [startsWith, h'] at h
  · rfl

theorem replaceAll_nil : replaceAll old new [] = [] := by
  obtain ⟨c, rest, rfl⟩ := List.exists_cons_of_ne_nil hold
  rw [replaceAll, splitOn]
  rfl

theorem replaceAll_append (r : Text) :
    replaceAll old new (old ++ r) = new ++ replaceAll old new r := by
  rw [replaceAll, splitOn_append hold, joinWith_cons_of_ne_nil _ _ (splitOn_ne_nil _ _)]
  rfl

theorem replaceAll_cons {c : Char} {s : Text} (h : startsWith old (c :: s) = false) :
    replaceAll old new (c :: s) = c :: replaceAll old new s := by
  rw [replaceAll, splitOn_cons hold h, joinWith_modifyHead_cons _ _ (splitOn_ne_nil _ _)]
  rfl

/-- No character of a replaced text is new but those of the replacement. -/
theorem mem_of_mem_replaceAll {s : Text} {x : Char} (h : x ∈ replaceAll old new s) :
    x ∈ s ∨ x ∈ new := by
  induction s using occurrence_induction hold with
  | nil => simp [replaceAll_nil hold] at h
  | mark r ih =>
    rw [replaceAll_append hold, List.mem_append] at h
    rw [List.mem_append]
    rcases h with h | h
    · exact .inr h
    · exact (ih h).imp .inr id
  | cons c s hs ih =>
    rw [replaceAll_cons hold hs, List.mem_cons] at h
    rw [List.mem_cons]
    rcases h with rfl | h
    · exact .inl (.inl rfl)
    · exact (ih h).imp .inr id

/-! ## Walls -/

omit hold in
/-- A mark does not reach over a character that it does not hold. -/
theorem startsWith_of_startsWith_append {a b : Text} {x : Char} (hx : x ∉ old)
    (h : startsWith old (a ++ x :: b) = true) : startsWith old a = true := by
  obtain ⟨r, hr⟩ := startsWith_iff.1 h
  rcases List.append_eq_append_iff.1 hr with ⟨m, rfl, hm⟩ | ⟨m, rfl, -⟩
  · cases m with
    | nil => exact startsWith_iff.2 ⟨[], by simp⟩
    | cons y m =>
      rw [List.cons_append, List.cons.injEq] at hm
      exact absurd (by simp [hm.1]) hx
  · exact startsWith_iff.2 ⟨m, rfl⟩

theorem replaceAll_append_cons {x : Char} (hx : x ∉ old) (a b : Text) :
    replaceAll old new (a ++ x :: b) = replaceAll old new a ++ x :: replaceAll old new b := by
  induction a using occurrence_induction hold with
  | nil =>
    have hb : startsWith old (x :: b) = false := by
      rw [Bool.eq_false_iff]
      intro h
      have := startsWith_of_startsWith_append (a := []) hx h
      obtain ⟨r, hr⟩ := startsWith_iff.1 this
      exact hold (List.append_eq_nil_iff.1 hr.symm).1
    rw [List.nil_append, replaceAll_cons hold hb, replaceAll_nil hold]
    rfl
  | mark r ih => rw [List.append_assoc, replaceAll_append hold, replaceAll_append hold, ih,
      List.append_assoc]
  | cons c s hs ih =>
    have hs' : startsWith old (c :: (s ++ x :: b)) = false := by
      rw [Bool.eq_false_iff] at hs ⊢
      intro h
      exact hs (startsWith_of_startsWith_append (a := c :: s) hx h)
    rw [List.cons_append, replaceAll_cons hold hs', replaceAll_cons hold hs, ih]
    rfl

theorem replaceAll_cons_of_not_mem {x : Char} (hx : x ∉ old) (b : Text) :
    replaceAll old new (x :: b) = x :: replaceAll old new b := by
  have h : replaceAll old new ([] ++ x :: b) = replaceAll old new [] ++ x :: replaceAll old new b :=
    replaceAll_append_cons hold hx [] b
  rwa [replaceAll_nil hold] at h

theorem replaceAll_joinWith {x : Char} (hx : x ∉ old) (pieces : List Text) :
    replaceAll old new (joinWith [x] pieces) = joinWith [x] (pieces.map (replaceAll old new)) := by
  induction pieces with
  | nil => exact replaceAll_nil hold
  | cons p rest ih =>
    cases rest with
    | nil => rfl
    | cons q rest =>
      rw [joinWith, List.append_assoc, List.singleton_append, replaceAll_append_cons hold hx, ih]
      simp [joinWith]

theorem splitOnChar_replaceAll {x : Char} (hx : x ∉ old) (hn : x ∉ new) (s : Text) :
    splitOnChar x (replaceAll old new s) = (splitOnChar x s).map (replaceAll old new) := by
  conv => lhs; rw [← joinWith_splitOnChar x s, replaceAll_joinWith hold hx]
  apply splitOnChar_joinWith x (by simpa using splitOnChar_ne_nil x s)
  intro p hp
  obtain ⟨q, hq, rfl⟩ := List.mem_map.1 hp
  intro h
  rcases mem_of_mem_replaceAll hold h with h | h
  · exact not_mem_of_mem_splitOnChar x hq h
  · exact hn h

/-! ## Occurrences -/

omit hold in
/-- An occurrence of a mark lies on one side of a character that the mark does not hold. -/
theorem infix_or_infix_of_append_cons {x : Char} (hx : x ∉ old) {a b : Text}
    (h : old <:+: a ++ x :: b) : old <:+: a ∨ old <:+: b := by
  obtain ⟨p, q, hpq⟩ := h
  rcases List.append_eq_append_iff.1 hpq with ⟨m, rfl, -⟩ | ⟨m, hm, hq⟩
  · exact .inl ⟨p, m, rfl⟩
  · cases m with
    | nil => exact .inl ⟨p, [], by rw [List.append_nil, hm, List.append_nil]⟩
    | cons y m =>
      rw [List.cons_append, List.cons.injEq] at hq
      obtain ⟨rfl, rfl⟩ := hq
      rcases List.append_eq_append_iff.1 hm with ⟨n, rfl, hn⟩ | ⟨n, rfl, hn⟩
      · exact absurd (by simp [hn]) hx
      · cases n with
        | nil => exact absurd (by simp [← show x :: m = old from hn]) hx
        | cons z n =>
          rw [List.cons_append, List.cons.injEq] at hn
          exact .inr ⟨n, q, by rw [hn.2]⟩

theorem exists_infix_of_infix_joinWith {x : Char} (hx : x ∉ old) {pieces : List Text}
    (h : old <:+: joinWith [x] pieces) : ∃ p ∈ pieces, old <:+: p := by
  induction pieces with
  | nil => exact absurd (List.infix_nil.1 h) hold
  | cons p rest ih =>
    cases rest with
    | nil => exact ⟨p, List.mem_cons_self .., h⟩
    | cons q rest =>
      rw [joinWith, List.append_assoc, List.singleton_append] at h
      rcases infix_or_infix_of_append_cons hx h with h | h
      · exact ⟨p, List.mem_cons_self .., h⟩
      · obtain ⟨r, hr, hold⟩ := ih h
        exact ⟨r, List.mem_cons_of_mem _ hr, hold⟩

omit hold in
theorem infix_joinWith_of_mem (sep : Text) {pieces : List Text} {p : Text} (h : p ∈ pieces) :
    p <:+: joinWith sep pieces := by
  induction pieces with
  | nil => cases h
  | cons q rest ih =>
    cases rest with
    | nil =>
      obtain rfl := List.mem_singleton.1 h
      exact List.infix_rfl
    | cons r rest =>
      rcases List.mem_cons.1 h with rfl | h
      · exact (List.prefix_append _ _).isInfix.trans (List.prefix_append _ _).isInfix
      · exact (ih h).trans (List.suffix_append _ _).isInfix

theorem infix_of_infix_blank_append (hb : ∀ c ∈ old, isBlank c = false) {a s : Text}
    (ha : a.all isBlank = true) (h : old <:+: a ++ s) : old <:+: s := by
  induction a with
  | nil => exact h
  | cons c a ih =>
    rw [List.all_cons, Bool.and_eq_true] at ha
    have hc : c ∉ old := fun h => by simp [hb c h] at ha
    rcases infix_or_infix_of_append_cons (a := []) hc h with h | h
    · exact absurd (List.infix_nil.1 h) hold
    · exact ih ha.2 h

theorem infix_of_infix_append_blank (hb : ∀ c ∈ old, isBlank c = false) {b s : Text}
    (hbb : b.all isBlank = true) (h : old <:+: s ++ b) : old <:+: s := by
  cases b with
  | nil => simpa using h
  | cons c b =>
    rw [List.all_cons, Bool.and_eq_true] at hbb
    have hc : c ∉ old := fun h => by simp [hb c h] at hbb
    rcases infix_or_infix_of_append_cons hc h with h | h
    · exact h
    · have := infix_of_infix_blank_append hold hb hbb.2 (s := []) (by simpa using h)
      exact absurd (List.infix_nil.1 this) hold

/-- A mark without blanks is not trimmed away. -/
theorem infix_trim (hb : ∀ c ∈ old, isBlank c = false) {s : Text} (h : old <:+: s) :
    old <:+: trim s := by
  obtain ⟨a, b, hs, ha, hbb⟩ := exists_eq_append_trim s
  rw [hs] at h
  exact infix_of_infix_blank_append hold hb ha (infix_of_infix_append_blank hold hb hbb h)

/-- Cut at a mark that occurs, a text has at least two pieces. -/
theorem two_le_length_splitOn {s : Text} (h : old <:+: s) : 2 ≤ (splitOn old s).length := by
  induction s using occurrence_induction hold with
  | nil => exact absurd (List.infix_nil.1 h) hold
  | mark r ih =>
    have := List.length_pos_iff.2 (splitOn_ne_nil old r)
    rw [splitOn_append hold, List.length_cons]
    omega
  | cons c s hs ih =>
    rw [splitOn_cons hold hs, List.length_modifyHead]
    rcases List.infix_cons_iff.1 h with ⟨r, hr⟩ | h
    · rw [startsWith_iff.2 ⟨r, hr.symm⟩] at hs
      cases hs
    · exact ih h

/-- A text without the mark is left as it is. -/
theorem replaceAll_eq_self_of_absent {s : Text} (h : ¬ old <:+: s) :
    replaceAll old new s = s := by
  induction s using occurrence_induction hold with
  | nil => exact replaceAll_nil hold
  | mark r ih => exact absurd (List.prefix_append old r).isInfix h
  | cons c s hs ih =>
    rw [replaceAll_cons hold hs, ih fun hi => h (List.infix_cons hi)]

/-! ## Trimming -/

theorem replaceAll_blank_append (hb : ∀ c ∈ old, isBlank c = false) {a : Text}
    (ha : a.all isBlank = true) (s : Text) :
    replaceAll old new (a ++ s) = a ++ replaceAll old new s := by
  induction a with
  | nil => rfl
  | cons c a ih =>
    rw [List.all_cons, Bool.and_eq_true] at ha
    have hc : c ∉ old := fun h => by simp [hb c h] at ha
    rw [List.cons_append, replaceAll_cons_of_not_mem hold hc, ih ha.2]
    rfl

theorem replaceAll_append_blank (hb : ∀ c ∈ old, isBlank c = false) {b : Text}
    (hbb : b.all isBlank = true) (s : Text) :
    replaceAll old new (s ++ b) = replaceAll old new s ++ b := by
  cases b with
  | nil => simp
  | cons c b =>
    rw [List.all_cons, Bool.and_eq_true] at hbb
    have hc : c ∉ old := fun h => by simp [hb c h] at hbb
    have hrest : replaceAll old new (b ++ []) = b ++ replaceAll old new [] :=
      replaceAll_blank_append hold hb hbb.2 []
    rw [List.append_nil, replaceAll_nil hold, List.append_nil] at hrest
    rw [replaceAll_append_cons hold hc, hrest]

/-- What a replaced text starts with is the start of the replacement or of the text. -/
theorem head_replaceAll (hn : new ≠ []) {s r : Text} {c : Char}
    (h : replaceAll old new s = c :: r) : (∃ r', new = c :: r') ∨ ∃ r', s = c :: r' := by
  induction s using occurrence_induction hold with
  | nil => simp [replaceAll_nil hold] at h
  | mark s ih =>
    obtain ⟨d, rest, rfl⟩ := List.exists_cons_of_ne_nil hn
    rw [replaceAll_append hold, List.cons_append, List.cons.injEq] at h
    exact .inl ⟨rest, by rw [h.1]⟩
  | cons d s hs ih =>
    rw [replaceAll_cons hold hs, List.cons.injEq] at h
    exact .inr ⟨s, by rw [h.1]⟩

theorem eq_nil_of_replaceAll_eq_nil (hn : new ≠ []) {s : Text}
    (h : replaceAll old new s = []) : s = [] := by
  induction s using occurrence_induction hold with
  | nil => rfl
  | mark s ih =>
    rw [replaceAll_append hold] at h
    exact absurd (List.append_eq_nil_iff.1 h).1 hn
  | cons d s hs ih =>
    rw [replaceAll_cons hold hs] at h
    cases h

/-- What a replaced text ends with is the end of the replacement or of the text. -/
theorem last_replaceAll (hn : new ≠ []) {s r : Text} {c : Char}
    (h : replaceAll old new s = r ++ [c]) :
    (∃ r', new = r' ++ [c]) ∨ ∃ r', s = r' ++ [c] := by
  induction s using occurrence_induction hold generalizing r with
  | nil => simp [replaceAll_nil hold] at h
  | mark s ih =>
    rw [replaceAll_append hold] at h
    rcases List.eq_nil_or_concat (replaceAll old new s) with hs | ⟨r', d, hs⟩
    · rw [hs, List.append_nil] at h
      exact .inl ⟨r, h⟩
    · rw [List.concat_eq_append] at hs
      rw [hs, ← List.append_assoc] at h
      obtain ⟨-, hd⟩ := List.append_inj' h rfl
      rw [hd] at hs
      exact (ih hs).imp id fun ⟨t, ht⟩ => ⟨old ++ t, by rw [ht, List.append_assoc]⟩
  | cons d s hs ih =>
    rw [replaceAll_cons hold hs] at h
    rcases List.eq_nil_or_concat (replaceAll old new s) with hr | ⟨r', e, hr⟩
    · obtain rfl := eq_nil_of_replaceAll_eq_nil hold hn hr
      rw [replaceAll_nil hold] at h
      exact .inr ⟨r, h⟩
    · rw [List.concat_eq_append] at hr
      rw [hr, ← List.cons_append] at h
      obtain ⟨-, he⟩ := List.append_inj' h rfl
      rw [he] at hr
      exact (ih hr).imp id fun ⟨t, ht⟩ => ⟨d :: t, by rw [ht]; rfl⟩

/-- Replacing a mark without blanks by a trimmed text commutes with trimming. -/
theorem trim_replaceAll (hb : ∀ c ∈ old, isBlank c = false) (hn : new ≠ [])
    (ht : trim new = new) (s : Text) :
    trim (replaceAll old new s) = replaceAll old new (trim s) := by
  obtain ⟨a, b, hs, ha, hbb⟩ := exists_eq_append_trim s
  have hnew := trim_eq_self_iff.1 ht
  have hcore := trim_eq_self_iff.1 (trim_trim s)
  conv => lhs; rw [hs, replaceAll_append_blank hold hb hbb, replaceAll_blank_append hold hb ha]
  rw [trim_append_blank hbb, trim_blank_append ha]
  refine trim_of_ends (fun c r h => ?_) (fun c r h => ?_)
  · rcases head_replaceAll hold hn h with ⟨r', hr⟩ | ⟨r', hr⟩
    · exact hnew.1 c r' hr
    · exact hcore.1 c r' hr
  · rcases last_replaceAll hold hn h with ⟨r', hr⟩ | ⟨r', hr⟩
    · exact hnew.2 c r' hr
    · exact hcore.2 c r' hr

/-! ## Beginnings and ends -/

/-- A mark without the first character of the replacement starts no replaced text anew. -/
theorem startsWith_of_startsWith_replaceAll {c : Char} {rest mark : Text} (hc : c ∉ mark)
    {s : Text} (h : startsWith mark (replaceAll old (c :: rest) s) = true) :
    startsWith mark s = true := by
  obtain ⟨r, hr⟩ := startsWith_iff.1 h
  clear h
  induction s using occurrence_induction hold generalizing mark with
  | nil =>
    rw [replaceAll_nil hold] at hr
    exact startsWith_iff.2 ⟨r, hr⟩
  | mark s ih =>
    rw [replaceAll_append hold] at hr
    cases mark with
    | nil => exact startsWith_iff.2 ⟨_, rfl⟩
    | cons d mark =>
      rw [List.cons_append, List.cons_append, List.cons.injEq] at hr
      exact absurd (by simp [hr.1]) hc
  | cons d s hs ih =>
    rw [replaceAll_cons hold hs] at hr
    cases mark with
    | nil => exact startsWith_iff.2 ⟨_, rfl⟩
    | cons e mark =>
      rw [List.cons_append, List.cons.injEq] at hr
      rw [List.mem_cons, not_or] at hc
      obtain ⟨t, ht⟩ := startsWith_iff.1 (ih hc.2 hr.2)
      exact startsWith_iff.2 ⟨t, by rw [hr.1, ht]; rfl⟩

/-- Without the last character of the replacement, a replaced text is the text itself. -/
theorem replaceAll_eq_self_of_not_mem {c : Char} {rest s : Text}
    (h : c ∉ replaceAll old (rest ++ [c]) s) : replaceAll old (rest ++ [c]) s = s := by
  induction s using occurrence_induction hold with
  | nil => exact replaceAll_nil hold
  | mark s ih =>
    rw [replaceAll_append hold] at h
    simp at h
  | cons d s hs ih =>
    rw [replaceAll_cons hold hs, List.mem_cons, not_or] at h
    rw [replaceAll_cons hold hs, ih h.2]

/-- A mark without the last character of the replacement ends no replaced text anew. -/
theorem endsWith_of_endsWith_replaceAll {c : Char} {rest mark : Text} (hc : c ∉ mark)
    {s : Text} (h : endsWith mark (replaceAll old (rest ++ [c]) s) = true) :
    endsWith mark s = true := by
  obtain ⟨r, hr⟩ := endsWith_iff.1 h
  clear h
  induction s using occurrence_induction hold generalizing r with
  | nil =>
    rw [replaceAll_nil hold] at hr
    exact endsWith_iff.2 ⟨r, hr⟩
  | mark s ih =>
    rw [replaceAll_append hold] at hr
    rcases List.append_eq_append_iff.1 hr with ⟨m, -, hm⟩ | ⟨m, hm, hmark⟩
    · obtain ⟨t, ht⟩ := endsWith_iff.1 (ih m hm)
      exact endsWith_iff.2 ⟨old ++ t, by rw [ht, List.append_assoc]⟩
    · rcases List.eq_nil_or_concat m with rfl | ⟨m', d, rfl⟩
      · obtain ⟨t, ht⟩ := endsWith_iff.1 (ih [] hmark.symm)
        exact endsWith_iff.2 ⟨old ++ t, by rw [ht, List.append_assoc]⟩
      · -- the mark would reach into the replacement and hold its last character
        rw [List.concat_eq_append, ← List.append_assoc] at hm
        obtain ⟨-, hd⟩ := List.append_inj' hm rfl
        rw [List.cons.injEq] at hd
        exact absurd (by simp [hmark, hd.1]) hc
  | cons d s hs ih =>
    rw [replaceAll_cons hold hs] at hr
    cases r with
    | nil =>
      rw [List.nil_append] at hr
      rw [← hr, List.mem_cons, not_or] at hc
      rw [replaceAll_eq_self_of_not_mem hold hc.2] at hr
      exact endsWith_iff.2 ⟨[], hr⟩
    | cons e r =>
      rw [List.cons_append, List.cons.injEq] at hr
      obtain ⟨t, ht⟩ := endsWith_iff.1 (ih r hr.2)
      exact endsWith_iff.2 ⟨d :: t, by rw [ht]; rfl⟩

end LicenseAudit.Text
