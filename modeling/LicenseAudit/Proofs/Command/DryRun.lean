import LicenseAudit.Proofs.Audit.Clean
import LicenseAudit.Proofs.Command.Words
import LicenseAudit.Proofs.Settings.Loading
import LicenseAudit.Proofs.Standalone.Repair

/-!
# Dry runs and fixes

A check with a fix goes through the same stages as the check without it, in the same tree as long as
nothing is written. Its settings are the same but for the fix
(`Run.fst_perform_checkSettings_fixing`), and where the check without it ends in success each later
stage gives the same with a fix and writes nothing. So `runCommandLine_fixing`: a clean dry run
means that a fix has nothing to do.
-/

namespace LicenseAudit

open Text

variable {s s' s₁ : Session}

/-! ## Settings with a fix -/

/-- The settings with a fix. -/
def Settings.fixing (settings : Settings) : Settings := { settings with fix := true }

namespace Run

theorem looks_checkSettings (c : CheckCall) : Looks (checkSettings c) :=
  (looks_overridesDraft _).bind fun _ => looks_resolveSettings ..

/-- The settings of a check are what its layers come to. -/
theorem fst_perform_checkSettings (hl : s.logFile = none) (c : CheckCall) :
    ((checkSettings c).perform s).1 =
      ((overrideYears c.overrides.years).perform s).1.bind fun years =>
        ((discoveredLayer c.path c.noDiscovery).perform s).1.bind fun found =>
          ((namedLayer c.settings).perform s).1.map fun explicit =>
            (Draft.stack
              (found.toList ++ explicit.toList ++ [c.overrides.toDraft years])).freeze := by
  rw [checkSettings, (looks_overridesDraft _).fst_perform_bind (fun _ => looks_resolveSettings ..)
    hl, fst_perform_overridesDraft]
  simp only [fst_perform_resolveSettings hl]
  rcases ((overrideYears c.overrides.years).perform s).1 with _ | _ <;> rfl

/-- The settings of a check with a fix are those of the check but for the fix. -/
theorem fst_perform_checkSettings_fixing (hl : s.logFile = none) (c : CheckCall) :
    ((checkSettings c.fixing).perform s).1 =
      ((checkSettings c).perform s).1.map Settings.fixing := by
  have hstack : ∀ (layers : List Draft) (years : YearMap),
      (Draft.stack (layers ++ [c.fixing.overrides.toDraft years])).freeze =
        (Draft.stack (layers ++ [c.overrides.toDraft years])).freeze.fixing := by
    intro layers years
    simp only [Draft.stack, List.foldl_append, List.foldl_cons, List.foldl_nil]
    rfl
  rw [fst_perform_checkSettings hl, fst_perform_checkSettings hl]
  simp only [hstack]
  simp only [CheckCall.fixing]
  rcases ((overrideYears c.overrides.years).perform s).1 with _ | years
  · rfl
  rcases ((discoveredLayer c.path c.noDiscovery).perform s).1 with _ | found
  · rfl
  rcases ((namedLayer c.settings).perform s).1 with _ | explicit <;> rfl

end Run

/-! ## Endings -/

theorem code_settingsEnding_ne_zero (f : Failure) : (settingsEnding f).code ≠ 0 := by
  cases f <;> simp [settingsEnding, Ending.error, Ending.code, ExitCode.toNat]

theorem code_standaloneEnding_ne_zero (f : Failure) : (standaloneEnding f).code ≠ 0 := by
  cases f <;> simp [standaloneEnding, Ending.error, Ending.code, ExitCode.toNat]

theorem code_auditEnding_ne_zero (f : Failure) : (auditEnding f).code ≠ 0 := by
  unfold auditEnding
  split <;> simp [Ending.error, Ending.code, ExitCode.toNat]

/-- A check that ends in success has a clean audit and a standalone license that needs nothing. -/
theorem clean_of_checkExit {r : AuditReport} {standalone : Option StandaloneOutcome}
    (h : (checkExit r standalone).toNat = 0) :
    r.isClean = true ∧ ∀ o ∈ standalone, o.status.needsFix = false := by
  unfold checkExit at h
  split at h
  · next f _ _ =>
    cases hstatus : f.status <;> simp [hstatus, FileStatus.exitCode, ExitCode.toNat] at h
  · next hfailures =>
    split at h
    · simp [ExitCode.toNat] at h
    · split at h
      · simp [ExitCode.toNat] at h
      · next hneeds =>
        simp only [Bool.or_eq_true, Bool.not_eq_eq_eq_not, Bool.not_true, not_or,
          Bool.not_eq_false] at hneeds
        refine ⟨by simp [AuditReport.isClean, hneeds.1, hfailures], fun o ho => ?_⟩
        rw [Option.mem_def] at ho
        simpa [ho] using hneeds.2

/-! ## The stages with a fix -/

namespace Task

variable {settings : Settings} {root : Path} {standalone : Option StandaloneOutcome}

/-- Where the standalone license needs nothing, the check looks, and a fix finds the same in every
session that was kept. -/
theorem perform_checkStandalone_fixing (hl : s.logFile = none) (hfix : settings.fix = false)
    (h : (checkStandalone root settings).perform s = (.ok standalone, s'))
    (hneeds : ∀ o ∈ standalone, o.status.needsFix = false) (hk : s.Keeps s₁) :
    s.Keeps s' ∧ ∃ s₂, (checkStandalone root settings.fixing).perform s₁ = (.ok standalone, s₂) ∧
      s.Keeps s₂ := by
  rcases checkStandalone_eq_ok_iff.1 h with
    ⟨hlicense, hnone, rfl⟩ | ⟨template, o, hlicense, hsome, houtcome⟩
  · exact ⟨.refl _, s₁, checkStandalone_eq_ok_iff.2 (.inl ⟨hlicense, hnone, rfl⟩), hk⟩
  · rw [hfix] at houtcome
    have hlooks := Run.looks_standaloneOutcome root template
    have hagain := Run.perform_eq_of_fst ((hlooks.again hk hl).trans (congrArg Prod.fst houtcome))
    have hrepair := Run.perform_standaloneOutcome_fix hagain (hneeds o hsome)
    exact ⟨hlooks.keeps houtcome, _,
      checkStandalone_eq_ok_iff.2 (.inr ⟨template, o, hlicense, hsome, hrepair⟩),
      hk.trans (hlooks.keeps hagain)⟩

/-- Where a check finds nothing to fix in any stage, the check with a fix gets through the same
stages to the same end, and it changes nothing. -/
theorem exists_conclude_check_fixing {t : Terminal} {c : CheckCall} {r : AuditReport}
    {s₂ s₃ : Session} (hl : s.logFile = none) (hfix : settings.fix = false)
    (hnolog : settings.logFile = none) (hsettings : c.Settles s settings s₁)
    (hstandalone : (checkStandalone c.path settings).perform s₁ = (.ok standalone, s₂))
    (haudit : (Run.audit c.path settings.auditOrder).perform s₂ = (.ok r, s₃))
    (hclean : r.isClean = true) (hneeds : ∀ o ∈ standalone, o.status.needsFix = false) :
    ∃ s', (check t c.fixing).conclude s = (.exit (checkExit r standalone), s') ∧
      s'.tree = s.tree := by
  have hk₁ := (Run.looks_checkSettings c).keeps hsettings.layers
  have hl₁ : s₁.logFile = none := hk₁.logFile.trans hl
  -- The settings of the other run; `s₄` to `s₇` are its sessions.
  have hlayers : ((Run.checkSettings c.fixing).perform s).1 = .ok settings.fixing := by
    rw [Run.fst_perform_checkSettings_fixing hl, hsettings.layers]
    rfl
  obtain ⟨s₄, hs₄⟩ : ∃ s₄, (Run.checkSettings c.fixing).perform s = (.ok settings.fixing, s₄) :=
    ⟨_, Run.perform_eq_of_fst hlayers⟩
  have hk₄ := (Run.looks_checkSettings c.fixing).keeps hs₄
  obtain ⟨hk₂, s₅, hs₅, hk₅⟩ := perform_checkStandalone_fixing hl₁ hfix hstandalone hneeds
    (hk₁.symm.trans hk₄)
  obtain ⟨_, hagain⟩ := Run.perform_audit_again (hk₂.logFile.trans hl₁) haudit (hk₂.symm.trans hk₅)
  obtain ⟨s₆, hs₆, hturns⟩ := Run.perform_audit_fixing (hk₅.logFile.trans hl₁) hfix hagain hclean
  have hsettles : c.fixing.Settles s settings.fixing s₄ := ⟨hsettings.root, hs₄⟩
  obtain ⟨s₇, hs₇, hk₇⟩ := exists_conclude_check (t := t) hsettles
    (openLog_eq_ok_iff.2 (.inl ⟨hnolog, rfl⟩)) hs₅ hs₆
  refine ⟨s₇, hs₇, ?_⟩
  calc s₇.tree = s₆.tree := hk₇.tree hturns.logFile
    _ = s₅.tree := hturns.tree
    _ = s₁.tree := hk₅.tree hl₁
    _ = s.tree := hk₁.tree hl

/-- A check that ends in success ends in success with a fix too, and the fix changes nothing. -/
theorem conclude_check_fixing {t : Terminal} {c : CheckCall} (hl : s.logFile = none)
    (hsettings : ∀ settings, ((Run.checkSettings c).perform s).1 = .ok settings →
      settings.fix = false ∧ settings.logFile = none)
    (h : ((check t c).conclude s).1.code = 0) :
    ((check t c.fixing).conclude s).1.code = 0 ∧
      ((check t c.fixing).conclude s).2.tree = s.tree := by
  rcases hcheck : (check t c).conclude s with ⟨e, s'⟩
  rw [hcheck] at h
  cases checkCourse_of_conclude hcheck with
  | unknownRoot _ => simp [Ending.code] at h
  | noRoot _ => simp [Ending.error, Ending.code, ExitCode.toNat] at h
  | noSettings _ _ => exact absurd h (code_settingsEnding_ne_zero _)
  | noLog _ hlog =>
    obtain ⟨p, f, -, rfl, -⟩ := openLog_eq_error_iff.1 hlog
    simp [Ending.code] at h
  | noStandalone _ _ hstandalone =>
    obtain ⟨template, f, -, rfl, -⟩ := checkStandalone_eq_error_iff.1 hstandalone
    exact absurd h (code_standaloneEnding_ne_zero f)
  | noAudit _ _ _ _ => exact absurd h (code_auditEnding_ne_zero _)
  | reported hs hlog hstandalone haudit _ =>
    obtain ⟨hfix, hnolog⟩ := hsettings _ (by rw [hs.layers])
    obtain ⟨hclean, hneeds⟩ := clean_of_checkExit h
    rcases openLog_eq_ok_iff.1 hlog with ⟨-, rfl⟩ | ⟨p, hp, -⟩
    · obtain ⟨s₂, hs₂, htree⟩ := exists_conclude_check_fixing (t := t) hl hfix hnolog hs hstandalone
        haudit hclean hneeds
      rw [hs₂]
      exact ⟨h, htree⟩
    · simp [hnolog] at hp

/-- So does the command with a fix ordered before its words. -/
theorem conclude_command_fixing {t : Terminal} {words : List Text} (hl : s.logFile = none)
    (hsettings : ∀ settings, s.checkSettings? words = some settings →
      settings.fix = false ∧ settings.logFile = none)
    (h : ((command t .check words).conclude s).1.code = 0) :
    ((command t .check ("--fix" :: words)).conclude s).1.code = 0 ∧
      ((command t .check ("--fix" :: words)).conclude s).2.tree = s.tree := by
  rw [conclude_command_check] at h ⊢
  rw [readOptions_fix]
  rcases hread : readOptions Command.check.options true words with f | ⟨given, rest⟩ <;>
    rw [hread] at h
  · simp [Ending.misused, Ending.code, ExitCode.toNat] at h
  simp only [Except.map, CheckCall.has_fix (by decide : ("--help" : Text) ≠ "--fix")] at h ⊢
  split
  · exact ⟨rfl, rfl⟩
  next hnohelp =>
  rw [if_neg hnohelp] at h
  rw [CheckCall.ofWords_fix]
  rcases hcall : CheckCall.ofWords s.tree s.workingDirectory given rest with e | c <;>
    rw [hcall] at h
  · obtain ⟨f, rfl⟩ | ⟨rfl, -⟩ := CheckCall.ofWords_eq_error hcall
    · simp [Ending.misused, Ending.code, ExitCode.toNat] at h
    · simp [Ending.code] at h
  · refine conclude_check_fixing hl (fun settings hlayers => hsettings settings ?_) h
    exact Session.checkSettings?_eq_some_iff.2 ⟨c, Session.checkCall?_eq_some_iff.2
      ⟨given, rest, hread, by simpa using hnohelp, hcall⟩, hlayers⟩

end Task

/-- **A clean dry run means that a fix has nothing to do.** Where a check whose settings order no
fix and name no log file ends with the exit code zero, the same check with a fix does so too and
leaves the tree as it is. `front` are options of the program; `words` are those of the check with
its argument, and the option for a fix comes first among them. -/
theorem runCommandLine_fixing {front words : List Text} {environment : Option Text}
    {given : List GivenOption} (hl : s.logFile = none)
    (hfront : readOptions Command.program.options false front = .ok (given, []))
    (hsettings : ∀ settings, s.checkSettings? words = some settings →
      settings.fix = false ∧ settings.logFile = none)
    (h : (runCommandLine (checkLine front words) environment s).1.code = 0) :
    (runCommandLine (checkLine front ("--fix" :: words)) environment s).1.code = 0 ∧
      (runCommandLine (checkLine front ("--fix" :: words)) environment s).2.tree = s.tree := by
  rw [runCommandLine_eq, Task.conclude_commandLine (readOptions_checkLine hfront)] at h ⊢
  split
  · exact ⟨rfl, rfl⟩
  next hnohelp =>
  rw [if_neg hnohelp] at h
  rcases hcounts : Level.ofCounts (GivenOption.count given "--verbose")
    (GivenOption.count given "--quiet") with f | asked <;> rw [hcounts] at h
  · simp [Ending.error, Ending.code, ExitCode.toNat] at h
  dsimp only at h ⊢
  rcases hlevel : Level.ofEnvironment environment with f | named <;> rw [hlevel] at h
  · simp [Ending.code] at h
  -- The settings are the same whatever is shown of the records.
  have hk : s.Keeps { s with threshold := some (named.getD asked) } :=
    ⟨rfl, rfl, rfl, fun _ => rfl, fun _ _ => rfl⟩
  have hsame : Session.checkSettings? { s with threshold := some (named.getD asked) } words =
      s.checkSettings? words := by
    refine congrArg ((s.checkCall? words).bind ·) (funext fun c => ?_)
    rw [(Run.looks_checkSettings c).again hk hl]
  exact Task.conclude_command_fixing hl (by rwa [hsame]) h

/-- A session with both templates, the license, and a script with the header. -/
def cleanSession : Session where
  tree :=
    ((((FileTree.empty.makeDirectory [] "licenses").putFile ["licenses"] "header.txt"
      (Utf8.encode "Copyright (C) {years} Acme\n")).putFile ["licenses"] "standalone.txt"
      (Utf8.encode "MIT\n")).putFile [] "LICENSE" (Utf8.encode "MIT\n")).putFile [] "a.sh"
      (Utf8.encode "#\n# Copyright (C) 2024 Acme\n#\n\necho\n")
  currentYear := 2024
  timeStamp := []

theorem runCommandLine_fixing_clean :
    (runCommandLine (checkLine ["--quiet"] ["--fix", "."]) none cleanSession).1.code = 0 ∧
      (runCommandLine (checkLine ["--quiet"] ["--fix", "."]) none cleanSession).2.tree =
        cleanSession.tree := by
  have hsettings : (cleanSession.checkSettings? ["."]).map (fun settings =>
      (settings.fix, settings.logFile)) = some (false, none) := by decide +kernel
  have hfront : readOptions Command.program.options false ["--quiet"] =
      .ok ([⟨"--quiet", []⟩], []) := by rfl
  refine runCommandLine_fixing rfl hfront (fun settings h => ?_) (by decide +kernel)
  rw [h] at hsettings
  simpa using hsettings

end LicenseAudit
