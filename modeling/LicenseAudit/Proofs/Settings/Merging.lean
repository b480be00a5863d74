import LicenseAudit.Settings.Draft

/-!
# Layers as a monoid

One layer over another is a layer again. In which order layers are put together makes no
difference, as long as they stay in their order (`Draft.overlay_assoc`), and the layer that sets
nothing can be left out wherever it stands: drafts are a monoid (`Draft.overlay_monoid`).

A single setting is that of the upper layer or else that of the lower, and this is associative. Two
settings need an argument. An exclude is left out when a layer below has it, but stays where a
layer repeats it, so what counts is which texts are below and not how often
(`append_absent_assoc`). The entries of year maps keep the places that the lower map gives them
and take the years of the upper one; both are seen from what paths the maps have
(`YearMap.mem_paths_overlay`) and what years they give (`YearMap.get?_overlay`).
-/

namespace LicenseAudit

/-! ## Texts that are not there yet -/

/-- Texts put behind others, without those that stand there already, one list after the other. -/
theorem append_absent_assoc (a b c : List Text) :
    let ab := a ++ b.filter fun e => !a.contains e
    let bc := b ++ c.filter fun e => !b.contains e
    ab ++ c.filter (fun e => !ab.contains e) = a ++ bc.filter fun e => !a.contains e := by
  intro ab bc
  -- of `b` only what is in `a` already is left out of `ab`
  have hmem : ∀ e, e ∈ ab ↔ e ∈ a ∨ e ∈ b := by
    intro e
    by_cases he : e ∈ a <;> simp [ab, he]
  have hc : c.filter (fun e => !ab.contains e) =
      (c.filter fun e => !b.contains e).filter fun e => !a.contains e := by
    rw [List.filter_filter]
    apply List.filter_congr
    intro e _
    simp only [List.contains_eq_mem, hmem, Bool.decide_or, Bool.not_or]
  rw [hc, List.filter_append, List.append_assoc]

/-! ## Year maps -/

namespace YearMap

attribute [ext] YearMap

variable (m n k : YearMap)

/-- An overlay has the paths of both maps. -/
theorem mem_paths_overlay {path : Text} : path ∈ (m.overlay n).entries.map Prod.fst ↔
    path ∈ m.entries.map Prod.fst ∨ path ∈ n.entries.map Prod.fst := by
  have hm : (m.entries.map fun e => (e.1, (n.get? e.1).getD e.2)).map Prod.fst =
      m.entries.map Prod.fst := by
    simp [Function.comp_def]
  rw [overlay, List.map_append, hm, List.mem_append]
  constructor
  · rintro (h | h)
    · exact .inl h
    · exact .inr ((List.filter_sublist.map Prod.fst).subset h)
  · rintro (h | h)
    · exact .inl h
    · by_cases hpath : path ∈ m.entries.map Prod.fst
      · exact .inl hpath
      · obtain ⟨e, he, rfl⟩ := List.mem_map.1 h
        refine .inr (List.mem_map_of_mem (List.mem_filter.2 ⟨he, ?_⟩))
        simpa using hpath

/-- The entries of three maps over each other, from the top or from the bottom. -/
theorem overlay_assoc : (m.overlay n).overlay k = m.overlay (n.overlay k) := by
  ext1
  have hm : ∀ e : Text × Int, ((n.overlay k).get? e.1).getD e.2 =
      (k.get? e.1).getD ((n.get? e.1).getD e.2) := by
    intro e
    rw [get?_overlay]
    cases k.get? e.1 <;> rfl
  have hk : ∀ e : Text × Int, decide (e.1 ∉ (m.overlay n).entries.map Prod.fst) =
      (decide (e.1 ∉ m.entries.map Prod.fst) && decide (e.1 ∉ n.entries.map Prod.fst)) := by
    intro e
    simp only [mem_paths_overlay, not_or, Bool.decide_and]
  calc ((m.overlay n).overlay k).entries
      = (m.overlay n).entries.map (fun e => (e.1, (k.get? e.1).getD e.2)) ++
          k.entries.filter fun e => decide (e.1 ∉ (m.overlay n).entries.map Prod.fst) := rfl
    _ = m.entries.map (fun e => (e.1, ((n.overlay k).get? e.1).getD e.2)) ++
          ((n.entries.filter fun e => decide (e.1 ∉ m.entries.map Prod.fst)).map
              (fun e => (e.1, (k.get? e.1).getD e.2)) ++
            k.entries.filter fun e => decide (e.1 ∉ m.entries.map Prod.fst) &&
              decide (e.1 ∉ n.entries.map Prod.fst)) := by
        simp only [hm, hk]
        simp [overlay, Function.comp_def]
    _ = (m.overlay (n.overlay k)).entries := by
        simp [overlay, List.filter_append, List.filter_map, Function.comp_def]

theorem empty_overlay : empty.overlay m = m := by
  ext1
  simp [overlay, empty]

theorem overlay_empty : m.overlay empty = m := by
  ext1
  simp [overlay, empty, get?]

end YearMap

/-! ## Drafts -/

namespace Draft

variable (a b c : Draft)

theorem overlay_assoc : (a.overlay b).overlay c = a.overlay (b.overlay c) := by
  unfold overlay
  simp only [mk.injEq]
  exact ⟨Option.or_assoc.symm, Option.or_assoc.symm, Option.or_assoc.symm, Option.or_assoc.symm,
    append_absent_assoc .., Option.or_assoc.symm, YearMap.overlay_assoc .., Option.or_assoc.symm,
    List.append_assoc ..⟩

/-- What is below the lowest layer makes no difference when it sets nothing, -/
theorem empty_overlay : Draft.overlay {} a = a := by
  have hexcludes : a.excludes.filter (fun _ => true) = a.excludes :=
    List.filter_eq_self.2 fun _ _ => rfl
  simp [overlay, YearMap.empty_overlay, hexcludes]

/-- nor does what is above the highest. -/
theorem overlay_empty : a.overlay {} = a := by
  simp [overlay, YearMap.overlay_empty]

/-- **Drafts are a monoid under overlaying**, in every field: the order and the repetitions of the
excludes and the order of the entries of the year map are the same too. -/
theorem overlay_monoid :
    (∀ a b c : Draft, (a.overlay b).overlay c = a.overlay (b.overlay c)) ∧
      ∀ a : Draft, Draft.overlay {} a = a ∧ a.overlay {} = a :=
  ⟨overlay_assoc, fun a => ⟨empty_overlay a, overlay_empty a⟩⟩

end Draft

end LicenseAudit
