import LicenseAudit.Proofs.Audit.Faults
import LicenseAudit.Proofs.Command.Changes
import LicenseAudit.Proofs.Command.DryRun

/-!
# What a check that stops has changed

A check that stops before its report has changed no file that it was to check. Where its words, its
root or its settings stop it, the tree is as it was. Later on the log file is opened, and then the
standalone license is put right, which comes before the template of the headers is looked at
(`leaves_of_stopped`). So it is not true that a check that stops has changed no file
(`not_forall_sameFiles_of_noTemplate`).
-/

namespace LicenseAudit

open Text

variable {s s' s₁ s₂ s₃ : Session} {c : CheckCall} {settings : Settings} {e : Ending}

/-- Where the log file of settings is opened, if they name one. -/
def Settings.logLocations (settings : Settings) (cwd : Location) : List Location :=
  settings.logFile.toList.map (Run.logLocation cwd)

/-- What a check may write before it comes to the files: the standalone license of its root and the
log file. -/
def CheckCall.writtenFirst (c : CheckCall) (settings : Settings) (cwd : Location) :
    List Location :=
  Run.licenseLocation cwd c.path :: settings.logLocations cwd

/-- What a check of settings leaves of a tree when it stops. -/
inductive CheckCall.Leaves (c : CheckCall) (settings : Settings) (cwd : Location) (t : FileTree) :
    Ending → FileTree → Prop
  /-- No file but the log file has changed. -/
  | untouched {e : Ending} {t' : FileTree} (h : t.SameFiles (settings.logLocations cwd) t') :
    Leaves c settings cwd t e t'
  /-- A fix may have written the standalone license before a fault of the audit stopped it. -/
  | licensed {f : Failure} {t' : FileTree} (hfix : settings.fix = true)
    (hlicense : settings.standaloneLicense.isSome = true)
    (hfiles : t.SameFiles (c.writtenFirst settings cwd) t')
    (hfault : AuditFault t (c.writtenFirst settings cwd) cwd c.path settings.auditOrder f) :
    Leaves c settings cwd t (auditEnding f) t'

namespace Task

theorem spares_openLog (hl : s.logFile = none) {r : Except Ending Unit}
    (h : (openLog settings).perform s = (r, s')) :
    s.Spares (settings.logLocations s.workingDirectory) s' := by
  rw [openLog] at h
  rcases hlog : settings.logFile with _ | p <;> rw [hlog] at h
  · cases h
    exact (Session.Keeps.refl s).spares (by simp [hl])
  · have hp : Run.logLocation s.workingDirectory p ∈
        settings.logLocations s.workingDirectory := by simp [Settings.logLocations, hlog]
    have hspares := Run.spares_openLog hp s rfl (by simp [hl])
    rwa [show ((Run.openLog p).perform s).2 = s' from congrArg Prod.snd h] at hspares

/-- Only a fix writes the standalone license, and no other file. -/
theorem spares_checkStandalone {root : Path} {but : List Location}
    {r : Except Ending (Option StandaloneOutcome)} (hl : ∀ loc ∈ s.logFile, loc ∈ but)
    (hbut : settings.fix = true → settings.standaloneLicense.isSome = true →
      Run.licenseLocation s.workingDirectory root ∈ but)
    (h : (checkStandalone root settings).perform s = (r, s')) : s.Spares but s' := by
  have hkept : s' = s ∨ ∃ template r, settings.standaloneLicense = some template ∧
      (Run.standaloneOutcome root template settings.fix).perform s = (r, s') := by
    rcases r with e | o
    · obtain ⟨template, f, hlicense, -, h⟩ := checkStandalone_eq_error_iff.1 h
      exact .inr ⟨template, _, hlicense, h⟩
    · obtain ⟨-, -, rfl⟩ | ⟨template, o, hlicense, -, h⟩ := checkStandalone_eq_ok_iff.1 h
      · exact .inl rfl
      · exact .inr ⟨template, _, hlicense, h⟩
  rcases hkept with rfl | ⟨template, r, hlicense, h⟩
  · exact (Session.Keeps.refl _).spares hl
  · have hspares : Run.Spares but s.workingDirectory
        (Run.standaloneOutcome root template settings.fix) :=
      Run.spares_standaloneOutcome fun hfix => hbut hfix (by rw [hlicense]; rfl)
    have hs' := hspares s rfl hl
    rwa [h] at hs'

end Task

section Stages

variable {r : Except Ending Unit} {standalone : Option StandaloneOutcome} {f : Failure}
  {but : List Location}

theorem spares_opened (hl : s.logFile = none) (hsettings : c.Settles s settings s₁)
    (hlog : (Task.openLog settings).perform s₁ = (r, s₂)) :
    s.Spares (settings.logLocations s.workingDirectory) s₂ := by
  have hk := (Run.looks_checkSettings c).keeps hsettings.layers
  have hspares := Task.spares_openLog (hk.logFile.trans hl) hlog
  rw [hk.workingDirectory] at hspares
  exact (hk.spares (by simp [hl])).trans hspares

/-- An audit that fails does so with a fault of its own, and nothing but what comes before it has
changed files. -/
theorem auditFault_of_stages (hl : s.logFile = none) (hsettings : c.Settles s settings s₁)
    (hlog : (Task.openLog settings).perform s₁ = (.ok (), s₂))
    (hstandalone : (Task.checkStandalone c.path settings).perform s₂ = (.ok standalone, s₃))
    (h : (Run.audit c.path settings.auditOrder).perform s₃ = (.error f, s'))
    (hlogs : ∀ loc ∈ settings.logLocations s.workingDirectory, loc ∈ but)
    (hbut : settings.fix = true → settings.standaloneLicense.isSome = true →
      Run.licenseLocation s.workingDirectory c.path ∈ but) :
    s.tree.SameFiles but s'.tree ∧
      AuditFault s.tree but s.workingDirectory c.path settings.auditOrder f := by
  have hopened := (spares_opened hl hsettings hlog).mono hlogs
  rw [← hopened.workingDirectory] at hbut
  have hprepared := hopened.trans (Task.spares_checkStandalone hopened.logFile hbut hstandalone)
  have hroot := (Run.has_eq_ok hsettings.root).2 rfl
  obtain ⟨hk, hfault⟩ := Run.failsFor_audit hprepared.files hprepared.logFile hroot f s' h
  rw [hprepared.workingDirectory] at hfault
  exact ⟨(hprepared.trans (hk.spares hprepared.logFile)).files, hfault⟩

end Stages

/-- A check that stops before it comes to settings leaves the tree as it is; what it leaves later on
is in `CheckCall.Leaves`. -/
theorem CheckCourse.leaves (hl : s.logFile = none) (hstop : ∀ code, e ≠ .exit code)
    (h : CheckCourse c s e s') :
    s'.tree = s.tree ∨ ∃ settings s₁, c.Settles s settings s₁ ∧
      c.Leaves settings s.workingDirectory s.tree e s'.tree := by
  cases h with
  | unknownRoot h => exact .inl (((Run.looks_has c.path).keeps h).tree hl)
  | noRoot h => exact .inl rfl
  | noSettings hroot h => exact .inl (((Run.looks_checkSettings c).keeps h).tree hl)
  | noLog hsettings h =>
    exact .inr ⟨_, _, hsettings, .untouched (spares_opened hl hsettings h).files⟩
  | noStandalone hsettings hlog h =>
    have hopened := spares_opened hl hsettings hlog
    obtain ⟨template, f, -, -, h⟩ := Task.checkStandalone_eq_error_iff.1 h
    have hk := Run.failsFor_keeps_standaloneOutcome f _ h
    exact .inr ⟨_, _, hsettings, .untouched (hopened.trans (hk.spares hopened.logFile)).files⟩
  | @noAudit settings _ _ _ _ _ _ hsettings hlog hstandalone h =>
    refine .inr ⟨settings, _, hsettings, ?_⟩
    by_cases hwrites : settings.fix = true ∧ settings.standaloneLicense.isSome = true
    · obtain ⟨hfiles, hfault⟩ := auditFault_of_stages hl hsettings hlog hstandalone h
        (fun _ => List.mem_cons_of_mem (Run.licenseLocation s.workingDirectory c.path))
        (fun _ _ => List.mem_cons_self ..)
      exact .licensed hwrites.1 hwrites.2 hfiles hfault
    · exact .untouched (auditFault_of_stages hl hsettings hlog hstandalone h (fun _ => id)
        fun hfix hlicense => absurd ⟨hfix, hlicense⟩ hwrites).1
  | reported => exact absurd rfl (hstop _)

/-- The same of the command line: where it is no check of a path that is there, or comes to no
settings, the tree is as it was. -/
theorem LineCourse.leaves {environment : Option Text} {words : List Text} (hl : s.logFile = none)
    (hstop : ∀ code, e ≠ .exit code) (h : LineCourse environment words s e s') :
    s'.tree = s.tree ∨ ∃ c settings, s.checkCall? words = some c ∧
      (s.tree.find? s.workingDirectory c.path).isSome = true ∧
      s.checkSettings? words = some settings ∧
      c.Leaves settings s.workingDirectory s.tree e s'.tree := by
  cases h with
  | help hk => exact absurd rfl (hstop _)
  | refused hk => exact .inl (hk.tree hl)
  | badLevel _ => exact .inl rfl
  | nullInWord _ _ hk => exact .inl (hk.tree hl)
  | @checked c _ s₁ _ hc hk hcourse =>
    have hl₁ : s₁.logFile = none := hk.logFile.trans hl
    have htree : s₁.tree = s.tree := hk.tree hl
    rcases hcourse.leaves hl₁ hstop with hsame | ⟨settings, s₂, hsettings, hleaves⟩
    · exact .inl (hsame.trans htree)
    · rw [hk.workingDirectory, htree] at hleaves
      have hroot := Run.isSome_find?_of_has hsettings.root
      rw [htree, hk.workingDirectory] at hroot
      refine .inr ⟨c, settings, hc, hroot, ?_, hleaves⟩
      refine Session.checkSettings?_eq_some_iff.2 ⟨c, hc, ?_⟩
      rw [← (Run.looks_checkSettings c).again hk hl, hsettings.layers]

/-- **A check that stops has changed no file that it was to check.** Where it comes to no settings,
or nothing stands at its path, the tree is as it was. Otherwise no file but the log file is changed,
unless a fix was ordered and a standalone license is asked for: then the license of the root may
have been written, and what stopped the check is a fault of its audit. -/
theorem leaves_of_stopped {front words : List Text} {environment : Option Text}
    {given : List GivenOption} (hl : s.logFile = none)
    (hfront : readOptions Command.program.options false front = .ok (given, []))
    (hstop : ∀ code, e ≠ .exit code)
    (h : runCommandLine (checkLine front words) environment s = (e, s')) :
    (s.checkSettings? words = none → s'.tree = s.tree) ∧
    ∀ c, s.checkCall? words = some c →
      (s.tree.find? s.workingDirectory c.path = none → s'.tree = s.tree) ∧
      ∀ settings, s.checkSettings? words = some settings →
        c.Leaves settings s.workingDirectory s.tree e s'.tree := by
  rw [runCommandLine_eq] at h
  rcases hline : (Task.commandLine (checkLine front words) environment).conclude s with ⟨e₁, s₁⟩
  rw [hline] at h
  cases h
  have hcourse := lineCourse_of_conclude (readOptions_checkLine hfront) hline
  rcases hcourse.leaves hl hstop with hsame | ⟨c, settings, hc, hroot, hsettings, hleaves⟩
  · exact ⟨fun _ => hsame, fun c _ => ⟨fun _ => hsame, fun settings _ =>
      .untouched (by rw [hsame]; exact .refl _)⟩⟩
  · refine ⟨fun hnone => by simp [hsettings] at hnone, fun c' hc' => ?_⟩
    obtain rfl := Option.some.inj (hc.symm.trans hc')
    refine ⟨fun hnone => by simp [hnone] at hroot, fun settings' hsettings' => ?_⟩
    obtain rfl := Option.some.inj (hsettings.symm.trans hsettings')
    exact hleaves

/-- A session with a template of the standalone license and a script, but no template of headers. -/
def unlicensedSession : Session where
  tree :=
    ((FileTree.empty.makeDirectory [] "licenses").putFile ["licenses"] "standalone.txt"
      (Utf8.encode "MIT\n")).putFile [] "a.sh" (Utf8.encode "echo\n")
  currentYear := 2024
  timeStamp := []

/-- A path that is not there: nothing is written. -/
theorem leaves_of_stopped_nowhere :
    (runCommandLine (checkLine [] ["--fix", "nowhere"]) none unlicensedSession).2.tree =
      unlicensedSession.tree := by
  have hend : (runCommandLine (checkLine [] ["--fix", "nowhere"]) none unlicensedSession).1 =
      .error .noInput (Failure.noRoot (Path.ofText "nowhere")).message := by decide +kernel
  have hcall : (unlicensedSession.checkCall? ["--fix", "nowhere"]).map CheckCall.path =
      some (Path.ofText "nowhere") := by decide +kernel
  obtain ⟨c, hc, hpath⟩ := Option.map_eq_some_iff.1 hcall
  have hfront : readOptions Command.program.options false [] = .ok ([], []) := by rfl
  have hleaves := leaves_of_stopped rfl hfront (by simp) (Prod.ext hend rfl)
  exact (hleaves.2 c hc).1 (by rw [hpath]; decide +kernel)

/-- A check that stops because the template of the headers is no file may have written the
standalone license. -/
theorem not_forall_sameFiles_of_noTemplate :
    ¬∀ (s s' : Session) (words : List Text) (settings : Settings), s.logFile = none →
      s.checkSettings? words = some settings →
      runCommandLine (checkLine [] words) none s =
        (.error .noInput (Failure.noTemplate settings.headerLicense).message, s') →
      s.tree.SameFiles (settings.logLocations s.workingDirectory) s'.tree := by
  intro h
  have hsettings : unlicensedSession.checkSettings? ["--fix", "."] =
      some { Draft.defaults.freeze with fix := true } := by decide +kernel
  have hend : (runCommandLine (checkLine [] ["--fix", "."]) none unlicensedSession).1 =
      .error .noInput (Failure.noTemplate defaultHeaderLicense).message := by decide +kernel
  have hwritten : (runCommandLine (checkLine [] ["--fix", "."]) none
      unlicensedSession).2.tree.get? ["LICENSE"] = some (.file (Utf8.encode "MIT\n") .full) := by
    decide +kernel
  have hfiles := h unlicensedSession _ ["--fix", "."] _ rfl hsettings (Prod.ext hend rfl)
  have hbefore := (hfiles ["LICENSE"] (by decide) _ _).1 hwritten
  revert hbefore
  decide +kernel

end LicenseAudit
