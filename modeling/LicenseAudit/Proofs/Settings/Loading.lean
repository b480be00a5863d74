import LicenseAudit.Proofs.Session.Perform
import LicenseAudit.Settings.Load

/-!
# Loading settings

Settings are loaded by looking: no step of it changes the session but for what is logged, so each
step gives what it would give on its own. So the settings of a run are what its layers come to
(`Run.fst_perform_resolveSettings`), where `Draft.stack` puts layers over the defaults; and the
layers of files are those of the tables in them (`Run.exists_ofTable_of_layers`).
-/

namespace LicenseAudit

/-- Layers put over the defaults, from the lowest to the highest. -/
def Draft.stack (layers : List Draft) : Draft := layers.foldl Draft.overlay .defaults

namespace Run

variable {s s' : Session}

theorem looks_readLines (p : Path) : Looks (readLines p) :=
  (looks_readText p).bind fun _ => looks_pure _

theorem looks_settingsContent (p : Path) : Looks (settingsContent p) := by
  refine (looks_checkPath p).bind fun _ => (looks_look _).bind fun r => ?_
  split
  · exact looks_fail
  · split
    · exact looks_fail
    · split
      · exact looks_pure _
      · exact looks_fail
      · exact looks_fail

theorem looks_yearMap (written : Text) : Looks (yearMap written) := by
  unfold yearMap
  extract_lets p finish
  have hfinish : ∀ entries, Looks (finish entries) := fun entries =>
    (looks_logAll _).bind fun _ => looks_pure _
  refine (looks_look _).bind fun isFile => Looks.ite ?_ ?_
  · exact (looks_log _ _).bind fun _ => (looks_readLines p).bind fun _ => hfinish _
  · exact hfinish _

theorem looks_tableYears (base : Path) (t : Table) : Looks (tableYears base t) := by
  rw [tableYears]
  split
  · exact looks_pure _
  · exact (looks_logAll _).bind fun _ => looks_pure _
  · exact looks_yearMap _

theorem looks_tableDraft (base : Path) (t : Table) : Looks (tableDraft base t) :=
  (looks_logAll _).bind fun _ => (looks_tableYears base t).bind fun _ =>
    (looks_logAll _).bind fun _ => looks_pure _

theorem looks_settingsFile (p : Path) : Looks (settingsFile p) := by
  refine (looks_log _ _).bind fun _ => (looks_settingsContent p).bind fun content =>
    (looks_logAll _).bind fun _ => ?_
  split
  · exact looks_pure _
  · exact looks_get_bind (fun s s' hcwd => by simp only [hcwd]) fun s =>
      (looks_tableDraft _ _).bind fun _ => looks_pure _

theorem looks_firstSettingsFile (ps : List Path) : Looks (firstSettingsFile ps) := by
  induction ps with
  | nil => exact looks_pure _
  | cons p rest ih =>
    refine (looks_isFile p).bind fun _ => Looks.ite ((looks_settingsFile p).bind fun d => ?_) ih
    cases d with
    | none => exact ih
    | some d => exact looks_pure _

theorem looks_discoverSettings (root : Path) : Looks (discoverSettings root) :=
  (looks_isDirectory root).bind fun _ => looks_firstSettingsFile _

theorem looks_overridesDraft (o : Overrides) : Looks (overridesDraft o) := by
  rw [overridesDraft]
  split
  · exact looks_pure _
  · exact looks_pure _
  · exact (looks_yearMap _).bind fun _ => looks_pure _

theorem looks_overlayDiscovered (root : Path) (d : Draft) : Looks (overlayDiscovered root d) := by
  refine (looks_discoverSettings root).bind fun found => ?_
  cases found with
  | none => exact looks_pure _
  | some found => exact (looks_log _ _).bind fun _ => looks_pure _

theorem looks_overlayNamed (p : Path) (d : Draft) : Looks (overlayNamed p d) := by
  refine (looks_settingsFile p).bind fun named => ?_
  cases named with
  | none => exact (looks_log _ _).bind fun _ => looks_pure _
  | some named => exact looks_pure _

/-! ## Layers -/

/-- The layer of the settings file in a root, where one is looked for. -/
def discoveredLayer (root : Path) (noDiscovery : Bool) : Run (Option Draft) :=
  if noDiscovery then return none else discoverSettings root

/-- The layer of the settings file that is named, where one is. -/
def namedLayer : Option Path → Run (Option Draft)
  | none => return none
  | some p => settingsFile p

theorem looks_resolveSettings (root : Path) (named : Option Path) (noDiscovery : Bool)
    (top : Draft) : Looks (resolveSettings root named noDiscovery top) := by
  unfold resolveSettings
  extract_lets finish overlayAll
  have hfinish : ∀ d, Looks (finish d) := fun d => (looks_log _ _).bind fun _ => looks_pure _
  have hall : ∀ d, Looks (overlayAll d) := fun d => by
    cases named with
    | none => exact (looks_pure _).bind hfinish
    | some p => exact (looks_overlayNamed p d).bind hfinish
  exact ((looks_pure _).bind hall).ite ((looks_overlayDiscovered root _).bind hall)

theorem fst_perform_overlayDiscovered (root : Path) (d : Draft) :
    ((overlayDiscovered root d).perform s).1 =
      ((discoverSettings root).perform s).1.map fun found =>
        found.toList.foldl Draft.overlay d := by
  rw [overlayDiscovered, perform_bind]
  rcases (discoverSettings root).perform s with ⟨_ | _ | found, s₁⟩ <;> rfl

theorem fst_perform_overlayNamed (p : Path) (d : Draft) :
    ((overlayNamed p d).perform s).1 =
      ((settingsFile p).perform s).1.map fun named => named.toList.foldl Draft.overlay d := by
  rw [overlayNamed, perform_bind]
  rcases (settingsFile p).perform s with ⟨_ | _ | named, s₁⟩ <;> rfl

/-- The settings of a run are what the layers come to, where these are all read. -/
theorem fst_perform_resolveSettings (hl : s.logFile = none) (root : Path) (named : Option Path)
    (noDiscovery : Bool) (top : Draft) :
    ((resolveSettings root named noDiscovery top).perform s).1 =
      ((discoveredLayer root noDiscovery).perform s).1.bind fun found =>
        ((namedLayer named).perform s).1.map fun explicit =>
          (Draft.stack (found.toList ++ explicit.toList ++ [top])).freeze := by
  unfold resolveSettings
  extract_lets finish overlayAll
  have hfinish : ∀ d, Looks (finish d) := fun d => (looks_log _ _).bind fun _ => looks_pure _
  have hall : ∀ d, ((overlayAll d).perform s).1 =
      ((namedLayer named).perform s).1.map fun explicit =>
        ((explicit.toList.foldl Draft.overlay d).overlay top).freeze := fun d => by
    cases named with
    | none => rfl
    | some p =>
      simp only [overlayAll]
      rw [(looks_overlayNamed p d).fst_perform_bind hfinish hl, fst_perform_overlayNamed]
      simp only [namedLayer]
      rcases ((settingsFile p).perform s).1 with _ | _ <;> rfl
  have hlooks : ∀ d, Looks (overlayAll d) := fun d => by
    cases named with
    | none => exact (looks_pure _).bind hfinish
    | some p => exact (looks_overlayNamed p d).bind hfinish
  simp only [Draft.stack, List.foldl_append]
  cases noDiscovery with
  | true => exact hall _
  | false =>
    rw [if_neg Bool.false_ne_true, (looks_overlayDiscovered root _).fst_perform_bind hlooks hl,
      fst_perform_overlayDiscovered]
    simp only [hall]
    simp only [discoveredLayer, Bool.false_eq_true, ↓reduceIte]
    rcases ((discoverSettings root).perform s).1 with _ | _ <;> rfl

/-- The years that a command line gives. -/
def overrideYears : Option Text → Run YearMap
  | none | some [] => return .empty
  | some written => yearMap written

theorem fst_perform_overridesDraft (o : Overrides) :
    ((overridesDraft o).perform s).1 = ((overrideYears o.years).perform s).1.map o.toDraft := by
  unfold overridesDraft overrideYears
  rcases o.years with _ | _ | ⟨c, written⟩
  · rfl
  · rfl
  · dsimp only
    rw [perform_bind]
    rcases (yearMap (c :: written)).perform s with ⟨_ | _, s₁⟩ <;> rfl

/-! ## Layers that are read from tables -/

/-- A settings file gives the layer of its table. -/
theorem exists_ofTable_of_settingsFile {p : Path} {d : Draft}
    (h : (settingsFile p).perform s = (.ok (some d), s')) :
    ∃ base years t, d = { Draft.ofTable base years t with sources := [p] } := by
  rw [settingsFile, perform_log_bind] at h
  obtain ⟨content, s₁, -, h⟩ := perform_bind_eq_ok_iff.1 h
  rw [perform_logAll_bind] at h
  split at h
  · simp at h
  · next t _ =>
    rw [perform_get_bind] at h
    obtain ⟨draft, s₂, hdraft, h⟩ := perform_bind_eq_ok_iff.1 h
    rw [tableDraft, perform_logAll_bind] at hdraft
    obtain ⟨years, s₃, -, hdraft⟩ := perform_bind_eq_ok_iff.1 hdraft
    rw [perform_logAll_bind, perform_pure] at hdraft
    cases hdraft
    cases h
    exact ⟨_, years, t, rfl⟩

theorem exists_settingsFile_of_firstSettingsFile {ps : List Path} {d : Draft}
    (h : (firstSettingsFile ps).perform s = (.ok (some d), s')) :
    ∃ p ∈ ps, ∃ s₁ s₂, (settingsFile p).perform s₁ = (.ok (some d), s₂) := by
  induction ps generalizing s with
  | nil => simp [firstSettingsFile] at h
  | cons p rest ih =>
    obtain ⟨isFile, s₁, -, h⟩ := perform_bind_eq_ok_iff.1 h
    cases isFile with
    | false =>
      obtain ⟨q, hq, hd⟩ := ih h
      exact ⟨q, List.mem_cons_of_mem _ hq, hd⟩
    | true =>
      obtain ⟨found, s₂, hfound, h⟩ := perform_bind_eq_ok_iff.1 h
      cases found with
      | none =>
        obtain ⟨q, hq, hd⟩ := ih h
        exact ⟨q, List.mem_cons_of_mem _ hq, hd⟩
      | some found =>
        cases h
        exact ⟨p, List.mem_cons_self .., s₁, _, hfound⟩

/-- Every layer that is found or named is that of a table. -/
theorem exists_ofTable_of_layers {root : Path} {noDiscovery : Bool} {named : Option Path}
    {found explicit : Option Draft}
    (hfound : ((discoveredLayer root noDiscovery).perform s).1 = .ok found)
    (hexplicit : ((namedLayer named).perform s).1 = .ok explicit) :
    ∀ d ∈ found.toList ++ explicit.toList,
      ∃ base years t p, d = { Draft.ofTable base years t with sources := [p] } := by
  intro d hd
  rw [List.mem_append, Option.mem_toList, Option.mem_toList] at hd
  rcases hd with rfl | rfl
  · rw [discoveredLayer] at hfound
    split at hfound
    · simp at hfound
    · obtain ⟨inDirectory, s₁, -, h⟩ := perform_bind_eq_ok_iff.1 (perform_eq_of_fst hfound)
      obtain ⟨p, -, s₂, s₃, hd⟩ := exists_settingsFile_of_firstSettingsFile h
      obtain ⟨base, years, t, hd⟩ := exists_ofTable_of_settingsFile hd
      exact ⟨base, years, t, p, hd⟩
  · cases named with
    | none => simp [namedLayer] at hexplicit
    | some p =>
      obtain ⟨base, years, t, hd⟩ := exists_ofTable_of_settingsFile (perform_eq_of_fst hexplicit)
      exact ⟨base, years, t, p, hd⟩

end Run

end LicenseAudit
