import LicenseAudit.Proofs.Header.Reassembly

/-!
# Texts that are taken apart without loss

A file that was taken apart is written again by joining its lines with its line ending behind its
byte order mark and its directive (`Document.written`). This gives the text back just when the text
uses one line ending throughout: line feeds alone and no carriage return anywhere, or line feeds
that all stand right behind a carriage return (`UniformEndings`). Carriage returns elsewhere do no
harm in the second case, since they stay in their lines.

The main statement is `written_parse_eq_iff`.
-/

namespace LicenseAudit

open Text

/-! ## Line feeds behind carriage returns -/

/-- Every line feed of the text stands right behind a carriage return. -/
def ReturnsFirst (s : Text) : Prop := ∀ a b, s = a ++ '\n' :: b → a.getLast? = some '\r'

/-- The text uses one line ending throughout. -/
def UniformEndings (s : Text) : Prop := '\r' ∉ s ∨ ReturnsFirst s

section ReturnsFirst

variable {s t : Text}

theorem returnsFirst_of_not_mem (h : '\n' ∉ s) : ReturnsFirst s :=
  fun _ _ hs => absurd (by simp [hs]) h

theorem ReturnsFirst.append (hs : ReturnsFirst s) (ht : ReturnsFirst t) :
    ReturnsFirst (s ++ t) := by
  intro a b h
  rcases List.append_eq_append_iff.1 h with ⟨c, rfl, hc⟩ | ⟨c, rfl, hc⟩
  · -- the line feed is one of `t`
    rw [List.getLast?_append, ht c b hc]
    rfl
  · cases c with
    | nil => cases ht [] b hc.symm
    | cons d c =>
      rw [List.cons_append, List.cons.injEq] at hc
      exact hs a c (by rw [hc.1])

/-- A line feed that comes first in `t` needs its carriage return in `t` as well, unless `s` ends
with one. -/
theorem ReturnsFirst.of_append (h : ReturnsFirst (s ++ t)) (hs : s.getLast? ≠ some '\r') :
    ReturnsFirst t := by
  intro a b ht
  have hlast := h (s ++ a) b (by rw [ht, List.append_assoc])
  rw [List.getLast?_append] at hlast
  cases ha : a.getLast? with
  | none => rw [ha] at hlast; exact absurd hlast hs
  | some c => rw [ha] at hlast; exact hlast

theorem returnsFirst_append_iff (hn : '\n' ∉ s) (hr : '\r' ∉ s) :
    ReturnsFirst (s ++ t) ↔ ReturnsFirst t :=
  ⟨fun h => h.of_append fun hl => hr (List.mem_of_getLast? hl),
    (returnsFirst_of_not_mem hn).append⟩

theorem returnsFirst_crlf : ReturnsFirst LineEnding.crlf.text := by
  intro a b h
  match a, h with
  | [c], h => rw [← (List.cons.inj h).1]; rfl
  | c :: d :: a, h => simp [LineEnding.text] at h

theorem returnsFirst_joinWith {lines : List Text} (h : ∀ line ∈ lines, '\n' ∉ line) :
    ReturnsFirst (joinWith LineEnding.crlf.text lines) := by
  induction lines with
  | nil => exact returnsFirst_of_not_mem (by simp [joinWith])
  | cons line rest ih =>
    have hline := returnsFirst_of_not_mem (h line (List.mem_cons_self ..))
    by_cases hr : rest = []
    · rw [hr]
      exact hline
    · rw [joinWith_cons_of_ne_nil _ _ hr]
      exact (hline.append returnsFirst_crlf).append
        (ih fun l hl => h l (List.mem_cons_of_mem _ hl))

end ReturnsFirst

/-! ## Lines cut and joined again -/

theorem joinWith_lf_splitLines {s : Text} (h : '\r' ∉ s) :
    joinWith LineEnding.lf.text (splitLines s) = s := by
  fun_induction splitLines s with
  | case1 => rfl
  | case2 s ih =>
    rw [joinWith_cons_of_ne_nil _ _ (splitLines_ne_nil s), ih (fun hr => h (by simp [hr]))]
    rfl
  | case3 s => simp at h
  | case4 c s _ _ ih =>
    rw [joinWith_modifyHead_cons _ _ (splitLines_ne_nil s), ih (fun hr => h (by simp [hr]))]

theorem joinWith_crlf_splitLines {s : Text} (h : ReturnsFirst s) :
    joinWith LineEnding.crlf.text (splitLines s) = s := by
  fun_induction splitLines s with
  | case1 => rfl
  | case2 s => cases h [] s rfl
  | case3 s ih =>
    rw [joinWith_cons_of_ne_nil _ _ (splitLines_ne_nil s),
      ih (ReturnsFirst.of_append (s := LineEnding.crlf.text) h (by decide))]
    rfl
  | case4 c s _ hcr ih =>
    have hs : ReturnsFirst s := by
      intro a b hs
      have hlast := h (c :: a) b (by rw [hs]; rfl)
      cases a with
      | nil => exact absurd hs (hcr b (Option.some.inj hlast))
      | cons d a => rwa [List.getLast?_cons_cons] at hlast
    rw [joinWith_modifyHead_cons _ _ (splitLines_ne_nil s), ih hs]

/-- Cut and joined with the line ending that it is taken to use, a text stays as it is just when it
uses that line ending throughout. -/
theorem joinWith_splitLines_eq_self_iff (s : Text) :
    joinWith (LineEnding.of s).text (splitLines s) = s ↔ UniformEndings s := by
  by_cases hr : '\r' ∈ s
  · rw [LineEnding.of, if_pos (List.contains_iff_mem.2 hr)]
    refine ⟨fun h => .inr ?_, fun h => joinWith_crlf_splitLines (h.resolve_left (not_not.2 hr))⟩
    rw [← h]
    exact returnsFirst_joinWith fun line hl => (chars_of_mem_splitLines hl).1
  · rw [LineEnding.of, if_neg fun hc => hr (List.contains_iff_mem.1 hc)]
    exact ⟨fun _ => .inl hr, fun _ => joinWith_lf_splitLines hr⟩

/-! ## Files -/

namespace Document

/-- The text that the parts of a file make. -/
def written (d : Document) : Text :=
  d.byteOrderMark ++ d.directive.getD [] ++ joinWith d.lineEnding.text d.lines

theorem splitByteOrderMark_fst_append_snd (s : Text) :
    (splitByteOrderMark s).1 ++ (splitByteOrderMark s).2 = s := by
  cases s with
  | nil => rfl
  | cons c s =>
    rw [splitByteOrderMark]
    split <;> rfl

/-- A text is its directive and what follows, and no line ends in the directive. -/
theorem exists_splitDirective_eq (s : Text) :
    ∃ front body, (splitDirective s).1.getD [] = front ∧ (splitDirective s).2 = body ∧
      s = front ++ body ∧ '\n' ∉ front ∧ '\r' ∉ front := by
  refine ⟨_, _, rfl, rfl, ?_⟩
  rw [splitDirective]
  split
  · have hline : ∀ c, isInLine c = false → c ∉ s.takeWhile isInLine := by
      intro c hc hm
      rw [List.mem_takeWhile_imp hm] at hc
      cases hc
    exact ⟨List.takeWhile_append_dropWhile.symm, hline _ (by decide), hline _ (by decide)⟩
  · exact ⟨rfl, by simp, by simp⟩

end Document

theorem uniformEndings_append_iff {s t : Text} (hn : '\n' ∉ s) (hr : '\r' ∉ s) :
    UniformEndings (s ++ t) ↔ UniformEndings t := by
  rw [UniformEndings, UniformEndings, List.mem_append, returnsFirst_append_iff hn hr]
  simp [hr]

theorem lineEnding_of_append {s : Text} (hr : '\r' ∉ s) (t : Text) :
    LineEnding.of (s ++ t) = LineEnding.of t := by
  simp [LineEnding.of, hr]

/-- **Taking a file apart loses nothing just when its text uses one line ending throughout**, its
byte order mark aside. -/
theorem written_parse_eq_iff (g : Grammar) (s : Text) :
    (Document.parse g s).written = s ↔ UniformEndings (splitByteOrderMark s).2 := by
  obtain ⟨front, body, hfront, hbody, hrest, hn, hr⟩ :=
    Document.exists_splitDirective_eq (splitByteOrderMark s).2
  have hwritten : (Document.parse g s).written = (splitByteOrderMark s).1 ++
      (front ++ joinWith (LineEnding.of body).text (splitLines body)) := by
    rw [← lineEnding_of_append hr body, ← hrest, ← hfront, ← hbody, ← List.append_assoc]
    rfl
  have hs : s = (splitByteOrderMark s).1 ++ (front ++ body) := by
    rw [← hrest, Document.splitByteOrderMark_fst_append_snd]
  calc (Document.parse g s).written = s
      ↔ (splitByteOrderMark s).1 ++
            (front ++ joinWith (LineEnding.of body).text (splitLines body)) =
          (splitByteOrderMark s).1 ++ (front ++ body) := by rw [hwritten, ← hs]
    _ ↔ joinWith (LineEnding.of body).text (splitLines body) = body := by
        rw [List.append_cancel_left_eq, List.append_cancel_left_eq]
    _ ↔ UniformEndings body := joinWith_splitLines_eq_self_iff body
    _ ↔ UniformEndings (splitByteOrderMark s).2 := by rw [hrest, uniformEndings_append_iff hn hr]

end LicenseAudit
