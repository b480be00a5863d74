import LicenseAudit.Proofs.Settings.Precedence

/-!
# Freezing between layers

Settings hold less than the draft that they come from. A setting that was absent looks like one that
was set to its default, and where the standalone license is not checked its template is lost. What
is lost never shows again: drafts that freeze to the same settings do so under every further layer
too (`Draft.freeze_foldl_overlay_congr`), so layering may stop at settings anywhere and go on from
them.

The layers have to satisfy one condition, and it is the weakest one. A layer that switches the check
of the standalone license on again brings the template with it (`Draft.NamesTemplate`); one that did
not would bring back a template that settings no longer have.
-/

namespace LicenseAudit

open Text

/-- Settings come back from the layer that sets everything as they have it. -/
theorem Settings.freeze_thaw (c : Settings) : c.thaw.freeze = c := by
  rcases c with ⟨header, _ | standalone, fix, excludes, gitignore, years, logFile, sources⟩ <;> rfl

namespace Draft

variable {a b upper : Draft}

/-- A draft says that the standalone license is checked only where it names the template. -/
def NamesTemplate (d : Draft) : Prop :=
  d.disableStandalone = some false → d.standaloneLicense.isSome = true

/-! ## Layers that name templates -/

theorem IsDecided.namesTemplate (h : upper.IsDecided) : upper.NamesTemplate := by
  intro hon
  rcases h with hoff | hsame
  · simp [hoff] at hon
  · rw [hon] at hsame
    exact Option.isSome_map.symm.trans (by rw [← hsame]; rfl)

theorem namesTemplate_ofTable (base p : Path) (years : YearMap) (t : Table) :
    { Draft.ofTable base years t with sources := [p] }.NamesTemplate :=
  (isDecided_ofTable base p years t).namesTemplate

theorem namesTemplate_toDraft (o : Overrides) (years : YearMap) : (o.toDraft years).NamesTemplate :=
  (o.isDecided_toDraft years).namesTemplate

theorem namesTemplate_defaults : Draft.defaults.NamesTemplate := fun _ => rfl

theorem namesTemplate_thaw (c : Settings) : c.thaw.NamesTemplate := by
  intro hon
  simpa [Settings.thaw] using hon

/-! ## What a layer makes of settings -/

/-- What a layer says about the standalone license is laid over what the settings below say. -/
theorem standaloneLicense_freeze_overlay_eq (lower : Draft) (h : upper.NamesTemplate) :
    (lower.overlay upper).freeze.standaloneLicense =
      match upper.disableStandalone with
      | some true => none
      | some false => upper.standaloneLicense
      | none => lower.freeze.standaloneLicense.map fun p => upper.standaloneLicense.getD p := by
  rcases hd : upper.disableStandalone with _ | _ | _
  · -- only here do the layers below decide whether there is a check
    by_cases hoff : lower.disableStandalone.getD false = true
    · simp [freeze, overlay, hd, hoff]
    · simp [freeze, overlay, hd, hoff, Option.getD_or]
  · obtain ⟨p, hp⟩ := Option.isSome_iff_exists.1 (h hd)
    simp [freeze, overlay, hd, hp]
  · simp [freeze, overlay, hd]

/-- Drafts that freeze to the same settings do so under a further layer. -/
theorem freeze_overlay_congr (hab : a.freeze = b.freeze) (h : upper.NamesTemplate) :
    (a.overlay upper).freeze = (b.overlay upper).freeze := by
  have hheader : a.headerLicense.getD defaultHeaderLicense =
      b.headerLicense.getD defaultHeaderLicense := congrArg Settings.headerLicense hab
  have hfix : a.fix.getD false = b.fix.getD false := congrArg Settings.fix hab
  have hgitignore : a.useGitignore.getD true = b.useGitignore.getD true :=
    congrArg Settings.useGitignore hab
  have hexcludes : a.excludes = b.excludes := congrArg Settings.excludes hab
  have hyears : a.years = b.years := congrArg Settings.years hab
  have hlog : a.logFile = b.logFile := congrArg Settings.logFile hab
  have hsources : a.sources = b.sources := congrArg Settings.sources hab
  have hstandalone : (a.overlay upper).freeze.standaloneLicense =
      (b.overlay upper).freeze.standaloneLicense := by
    rw [standaloneLicense_freeze_overlay_eq a h, standaloneLicense_freeze_overlay_eq b h, hab]
  rw [freeze, freeze, Settings.mk.injEq]
  refine ⟨?_, hstandalone, ?_, ?_, ?_, ?_, ?_, ?_⟩ <;>
    simp only [overlay, Option.getD_or, hheader, hfix, hgitignore, hexcludes, hyears, hlog,
      hsources]

/-- So they do under any further layers. -/
theorem freeze_foldl_overlay_congr {layers : List Draft} (hab : a.freeze = b.freeze)
    (h : ∀ d ∈ layers, d.NamesTemplate) :
    (layers.foldl overlay a).freeze = (layers.foldl overlay b).freeze := by
  induction layers generalizing a b with
  | nil => exact hab
  | cons d layers ih =>
    exact ih (freeze_overlay_congr hab (h d (List.mem_cons_self ..)))
      fun e he => h e (List.mem_cons_of_mem _ he)

/-- A layer without a template that switches the check on brings back the template of a layer whose
check was switched off; settings do not have it any more. -/
theorem namesTemplate_of_forall_freeze_overlay
    (h : ∀ lower : Draft, (lower.freeze.thaw.overlay upper).freeze = (lower.overlay upper).freeze) :
    upper.NamesTemplate := by
  intro hon
  rcases hp : upper.standaloneLicense with _ | p
  · have hlost := congrArg Settings.standaloneLicense
      (h { standaloneLicense := some defaultHeaderLicense, disableStandalone := some true })
    simp [freeze, overlay, Settings.thaw, hon, hp, defaultHeaderLicense,
      defaultStandaloneLicense] at hlost
  · rfl

/-- **Freezing in the middle of layering changes nothing.** Settings come back from the layer that
they thaw to. For a layer on top it makes no difference that the layers below were frozen and thawed
before, whatever they are, if and only if it names a template where it switches the check of the
standalone license on; and then it makes none for any number of such layers. The layers of settings
files and of command lines, the defaults and thawed settings are of this kind. -/
theorem freeze_thaw_overlay :
    (∀ c : Settings, c.thaw.freeze = c) ∧
    (∀ upper : Draft, upper.NamesTemplate ↔
      ∀ lower : Draft, (lower.freeze.thaw.overlay upper).freeze = (lower.overlay upper).freeze) ∧
    (∀ (layers : List Draft) (lower : Draft), (∀ d ∈ layers, d.NamesTemplate) →
      (layers.foldl overlay lower.freeze.thaw).freeze = (layers.foldl overlay lower).freeze) ∧
    (∀ base p years t, { Draft.ofTable base years t with sources := [p] }.NamesTemplate) ∧
    (∀ (o : Overrides) years, (o.toDraft years).NamesTemplate) ∧
    Draft.defaults.NamesTemplate ∧ ∀ c : Settings, c.thaw.NamesTemplate := by
  have hthaw : ∀ lower : Draft, lower.freeze.thaw.freeze = lower.freeze := fun lower =>
    lower.freeze.freeze_thaw
  refine ⟨Settings.freeze_thaw, fun upper => ⟨fun h lower => ?_,
    namesTemplate_of_forall_freeze_overlay⟩, fun layers lower h => ?_, namesTemplate_ofTable,
    namesTemplate_toDraft, namesTemplate_defaults, namesTemplate_thaw⟩
  · exact freeze_overlay_congr (hthaw lower) h
  · exact freeze_foldl_overlay_congr (hthaw lower) h

/-- The check is switched off, frozen, and switched on again. -/
theorem freeze_thaw_overlay_reenabled :
    (∀ d ∈ [Run.upperLayer, {}], d.NamesTemplate) ∧
    ([Run.upperLayer, {}].foldl overlay Run.lowerLayer.freeze.thaw).freeze =
      ([Run.upperLayer, {}].foldl overlay Run.lowerLayer).freeze ∧
    Run.lowerLayer.freeze.standaloneLicense = none ∧
    ([Run.upperLayer, {}].foldl overlay Run.lowerLayer.freeze.thaw).freeze.standaloneLicense =
      some (Path.ofText "/MIT.txt") := by
  have hlayers : ∀ d ∈ [Run.upperLayer, {}], d.NamesTemplate := by
    simp [NamesTemplate, Run.upperLayer]
  exact ⟨hlayers, freeze_thaw_overlay.2.2.1 _ Run.lowerLayer hlayers, rfl, rfl⟩

end Draft

end LicenseAudit
