import LicenseAudit.Command.Check
import LicenseAudit.Proofs.Session.Failing
import LicenseAudit.Proofs.Tree.Locations

/-!
# Why settings cannot be put together

Every failure of the settings of a check is one that the check reports, with one exception: a table
of a settings file that defines something twice (`Run.failsFor_checkSettings`).
-/

namespace LicenseAudit

open Text

/-- Why settings cannot be put together from some settings files. -/
inductive SettingsFault (files : List Path) (s : Session) : Failure → Prop
  | file (fault : FileFault) (p : Path) : SettingsFault files s (.file fault p)
  | text (m : Utf8.Malformed) : SettingsFault files s (.malformedText m)
  | unreadable (p : Path) (fault : FileFault) : SettingsFault files s (.settingsUnreadable p fault)
  | malformed (p : Path) : SettingsFault files s (.settingsMalformed p)
  /-- A settings file is a text, but one of its tables defines something twice. -/
  | conflict {p : Path} {content : Bytes} {written : Text} {c : Toml.Conflict} (hp : p ∈ files)
    (hread : s.tree.read s.workingDirectory p = .ok content)
    (hdecode : Utf8.decode content = .ok written)
    (hparse : Toml.parse (unifyNewlines written) = .error (.conflict c)) :
    SettingsFault files s (.settingsConflict c)

/-- The settings files in a directory, in the order in which they are looked for. -/
def settingsFilesIn (directory : Path) : List Path :=
  [directory.child settingsFileName, directory.child projectFileName]

/-- The settings files that a check may read. -/
def CheckCall.settingsFiles (c : CheckCall) : List Path :=
  settingsFilesIn c.path ++ settingsFilesIn c.path.parent ++ c.settings.toList

namespace Run

variable {s s' : Session} {files : List Path} {p : Path}

theorem failsFor_settingsContent (hp : p.holdsNull = false) (hmem : p ∈ files) :
    FailsFor (SettingsFault files) (settingsContent p) s := by
  refine (failsFor_checkPath hp).bind fun _ s₁ _ => .look_bind ?_
  split
  · exact failsFor_fail (.unreadable p _)
  next content hread =>
  split
  · next m _ => exact failsFor_fail (.text m)
  next written hdecode =>
  split
  · exact failsFor_pure _
  · next c hparse => exact failsFor_fail (.conflict hmem hread hdecode hparse)
  · exact failsFor_fail (.malformed p)

theorem failsFor_yearMap (written : Text) : FailsFor (SettingsFault files) (yearMap written) s := by
  unfold yearMap
  extract_lets p finish
  have hfinish : ∀ entries s₁, FailsFor (SettingsFault files) (finish entries) s₁ :=
    fun entries s₁ => .logAll_bind (failsFor_pure _)
  refine .look_bind (.ite (fun hfile => .log_bind ?_) fun _ => hfinish _ _)
  refine FailsFor.bind ?_ fun _ s₁ _ => hfinish _ s₁
  refine (failsFor_readText (fun _ => .file) (FileTree.holdsNull_of_isFile hfile)
    fun _ m _ _ => .text m).bind fun _ _ _ => failsFor_pure _

theorem failsFor_tableDraft (base : Path) (t : Table) :
    FailsFor (SettingsFault files) (tableDraft base t) s := by
  refine .logAll_bind (FailsFor.bind ?_ fun _ _ _ => .logAll_bind (failsFor_pure _))
  rw [tableYears]
  split
  · exact failsFor_pure _
  · exact .logAll_bind (failsFor_pure _)
  · exact failsFor_yearMap _

theorem failsFor_settingsFile (hp : p.holdsNull = false) (hmem : p ∈ files) :
    FailsFor (SettingsFault files) (settingsFile p) s := by
  refine .log_bind ((failsFor_settingsContent hp hmem).bind fun content s₁ _ => .logAll_bind ?_)
  split
  · exact failsFor_pure _
  · refine FailsFor.bind (fun f s' h => by simp at h) fun session s₂ _ => ?_
    exact (failsFor_tableDraft _ _).bind fun _ _ _ => failsFor_pure _

/-- Settings files that are looked for are files where they are read, so that their paths can
name something. -/
theorem failsFor_firstSettingsFile {ps : List Path} (hps : ∀ p ∈ ps, p ∈ files) :
    FailsFor (SettingsFault files) (firstSettingsFile ps) s := by
  induction ps generalizing s with
  | nil => exact failsFor_pure _
  | cons p rest ih =>
    have hrest : ∀ s, FailsFor (SettingsFault files) (firstSettingsFile rest) s := fun s =>
      ih fun q hq => hps q (List.mem_cons_of_mem _ hq)
    refine (failsFor_isFile (fun _ => .file) p).bind fun isFile s₁ hfile => ?_
    refine .ite (fun htrue => ?_) fun _ => hrest s₁
    have hp := holdsNull_of_isFile_eq_ok hfile htrue
    refine (failsFor_settingsFile hp (hps p (List.mem_cons_self ..))).bind fun found s₂ _ => ?_
    cases found with
    | none => exact hrest s₂
    | some found => exact failsFor_pure _

theorem failsFor_discoverSettings {root : Path}
    (hfiles : ∀ p ∈ settingsFilesIn root ++ settingsFilesIn root.parent, p ∈ files) :
    FailsFor (SettingsFault files) (discoverSettings root) s := by
  refine (failsFor_isDirectory (fun _ => .file) root).bind fun inDirectory s₁ _ =>
    failsFor_firstSettingsFile fun p hp => hfiles p ?_
  rw [List.mem_append]
  cases inDirectory with
  | true => exact .inl hp
  | false => exact .inr hp

theorem failsFor_resolveSettings {root : Path} {named : Option Path} {noDiscovery : Bool}
    {top : Draft} (hfiles : ∀ p ∈ settingsFilesIn root ++ settingsFilesIn root.parent, p ∈ files)
    (hnamed : ∀ p ∈ named, p.holdsNull = false ∧ p ∈ files) :
    FailsFor (SettingsFault files) (resolveSettings root named noDiscovery top) s := by
  unfold resolveSettings
  extract_lets finish overlayAll
  have hall : ∀ d s, FailsFor (SettingsFault files) (overlayAll d) s := fun d s => by
    have hfinish : ∀ d s, FailsFor (SettingsFault files) (finish d) s := fun d s =>
      .log_bind (failsFor_pure _)
    cases named with
    | none => exact (failsFor_pure _).bind fun _ _ _ => hfinish _ _
    | some p =>
      obtain ⟨hp, hmem⟩ := hnamed p rfl
      refine FailsFor.bind ((failsFor_settingsFile hp hmem).bind fun found s₁ _ => ?_)
        fun _ _ _ => hfinish _ _
      cases found with
      | none => exact .log_bind (failsFor_pure _)
      | some found => exact failsFor_pure _
  refine .ite (fun _ => (failsFor_pure _).bind fun _ _ _ => hall _ _) fun _ =>
    FailsFor.bind ((failsFor_discoverSettings hfiles).bind fun found s₁ _ => ?_)
      fun _ _ _ => hall _ _
  cases found with
  | none => exact failsFor_pure _
  | some found => exact .log_bind (failsFor_pure _)

theorem failsFor_overridesDraft (o : Overrides) :
    FailsFor (SettingsFault files) (overridesDraft o) s := by
  rw [overridesDraft]
  split
  · exact failsFor_pure _
  · exact failsFor_pure _
  · exact (failsFor_yearMap _).bind fun _ _ _ => failsFor_pure _

/-- Why the settings of a check cannot be put together. -/
theorem failsFor_checkSettings {c : CheckCall} (hc : ∀ p ∈ c.settings, p.holdsNull = false) :
    FailsFor (SettingsFault c.settingsFiles) (checkSettings c) s :=
  (failsFor_overridesDraft _).bind fun _ _ _ => failsFor_resolveSettings
    (fun _ hp => List.mem_append_left _ hp)
    fun p hp => ⟨hc p hp, List.mem_append_right _ (Option.mem_toList.2 hp)⟩

end Run

end LicenseAudit
