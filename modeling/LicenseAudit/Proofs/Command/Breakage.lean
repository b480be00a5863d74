import LicenseAudit.Proofs.Command.Untouched
import LicenseAudit.Proofs.Settings.Faults

/-!
# How a check breaks

A check breaks when it ends with a failure that it does not account for. `Breakage` lists what makes
it break: the level in the environment, a character in a value that no path can hold, a path that is
too long, a settings file that defines something twice, a log file that cannot be opened, a template
or an ignore file that is no text, and a pattern that is invalid. There is nothing else
(`breakage_of_broken`): whatever is wrong with the files that are checked, with the license file, or
with the file of the years, the check ends with an exit code of its own.
-/

namespace LicenseAudit

open Text

variable {s s' s₁ : Session} {c : CheckCall} {f : Failure}

/-- What breaks the check of a call. -/
inductive CheckBreakage (c : CheckCall) (s : Session) : Failure → Prop
  | path (h : s.tree.locate s.workingDirectory c.path = .error .nameTooLong) :
    CheckBreakage c s (.file .nameTooLong c.path)
  /-- A settings file defines something twice. -/
  | conflict {k : Toml.Conflict} (h : SettingsFault c.settingsFiles s (.settingsConflict k)) :
    CheckBreakage c s (.settingsConflict k)
  | logFile {settings : Settings} {p : Path} {f : Failure}
    (hsettings : ((Run.checkSettings c).perform s).1 = .ok settings)
    (hp : settings.logFile = some p) (h : Run.LogFault p s.tree s.workingDirectory f) :
    CheckBreakage c s f
  /-- The template of the headers or the ignore file is no text, or a pattern is invalid. -/
  | audit {settings : Settings} {f : Failure}
    (hsettings : ((Run.checkSettings c).perform s).1 = .ok settings)
    (h : AuditFault s.tree (c.writtenFirst settings s.workingDirectory) s.workingDirectory c.path
      settings.auditOrder f) (hf : auditEnding f = .broken f) : CheckBreakage c s f

/-- What breaks the command line of a check. -/
inductive Breakage (environment : Option Text) (words : List Text) (s : Session) : Failure → Prop
  | level {f : Failure} (h : Level.ofEnvironment environment = .error f) :
    Breakage environment words s f
  | nullInWord {given : List GivenOption} {rest : List Text}
    (hread : readOptions Command.check.options true words = .ok (given, rest))
    (h : NullIn given rest) : Breakage environment words s .nullInPath
  | check {c : CheckCall} {f : Failure} (hc : s.checkCall? words = some c)
    (h : CheckBreakage c s f) : Breakage environment words s f

/-! ## What the endings account for -/

theorem eq_of_auditEnding_eq_broken {f' : Failure} (h : auditEnding f = .broken f') : f = f' := by
  unfold auditEnding at h
  split at h <;> cases h
  rfl

theorem eq_of_settingsEnding_eq_broken {files : List Path} {f' : Failure}
    (hf : SettingsFault files s f) (h : settingsEnding f = .broken f') :
    f = f' ∧ ∃ k, f = .settingsConflict k := by
  cases hf <;> cases h
  exact ⟨rfl, _, rfl⟩

/-! ## The stages that break -/

theorem SettingsFault.of_keeps {files : List Path} {k : Toml.Conflict} (hl : s.logFile = none)
    (hk : s.Keeps s₁) (h : SettingsFault files s₁ (.settingsConflict k)) :
    SettingsFault files s (.settingsConflict k) := by
  cases h with
  | conflict hp hread hdecode hparse =>
    rw [hk.tree hl, hk.workingDirectory] at hread
    exact .conflict hp hread hdecode hparse

/-- To ask whether something is there fails only where the path is too long. -/
theorem Run.failsFor_has (p : Path) :
    FailsFor (fun s f => s.tree.locate s.workingDirectory p = .error .nameTooLong ∧
      f = .file .nameTooLong p) (has p) s :=
  (failsFor_find? fun h => ⟨h, rfl⟩).bind fun _ _ _ => failsFor_pure _

/-- The check of a call breaks for one of these causes. -/
theorem CheckCourse.breakage (hl : s.logFile = none)
    (hnull : ∀ p ∈ c.settings, p.holdsNull = false) (h : CheckCourse c s (.broken f) s') :
    CheckBreakage c s f := by
  generalize he : Ending.broken f = e at h
  cases h with
  | @unknownRoot f' _ h =>
    cases he
    obtain ⟨hlong, rfl⟩ := Run.failsFor_has c.path f s' h
    have hk := (Run.looks_has c.path).keeps h
    rw [hk.tree hl, hk.workingDirectory] at hlong
    exact .path hlong
  | noRoot h => cases he
  | @noSettings f' _ hroot h =>
    have hfault := Run.failsFor_checkSettings hnull f' s' h
    obtain ⟨rfl, k, rfl⟩ := eq_of_settingsEnding_eq_broken hfault he.symm
    exact .conflict (hfault.of_keeps hl ((Run.looks_checkSettings c).keeps h))
  | @noLog settings _ s₁ _ hsettings h =>
    obtain ⟨p, f', hp, rfl, hopen⟩ := Task.openLog_eq_error_iff.1 h
    cases he
    have hk := (Run.looks_checkSettings c).keeps hsettings.layers
    have hfault := Run.failsFor_openLog f s' hopen
    rw [hk.tree hl, hk.workingDirectory] at hfault
    exact .logFile (by rw [hsettings.layers]) hp hfault
  | noStandalone hsettings hlog h =>
    obtain ⟨template, f', -, rfl, houtcome⟩ := Task.checkStandalone_eq_error_iff.1 h
    have hroot := (Run.has_eq_ok hsettings.root).2 rfl
    obtain ⟨fault, p, rfl⟩ := Run.failsFor_standaloneOutcome hroot _ f' s' houtcome
    cases he
  | @noAudit settings _ f' _ _ _ _ hsettings hlog hstandalone h =>
    obtain rfl := eq_of_auditEnding_eq_broken he.symm
    refine .audit (by rw [hsettings.layers]) ?_ he.symm
    exact (auditFault_of_stages hl hsettings hlog hstandalone h
      (fun _ => List.mem_cons_of_mem (Run.licenseLocation s.workingDirectory c.path))
      (fun _ _ => List.mem_cons_self ..)).2
  | reported => cases he

theorem CheckBreakage.of_keeps (hl : s.logFile = none) (hk : s.Keeps s₁)
    (h : CheckBreakage c s₁ f) : CheckBreakage c s f := by
  have hsame := (Run.looks_checkSettings c).again hk hl
  cases h with
  | path h =>
    rw [hk.tree hl, hk.workingDirectory] at h
    exact .path h
  | conflict h => exact .conflict (h.of_keeps hl hk)
  | logFile hsettings hp h =>
    rw [hk.tree hl, hk.workingDirectory] at h
    exact .logFile (hsame ▸ hsettings) hp h
  | audit hsettings h hf =>
    rw [hk.tree hl, hk.workingDirectory] at h
    exact .audit (hsame ▸ hsettings) h hf

theorem Session.holdsNull_of_checkCall? {words : List Text} (h : s.checkCall? words = some c) :
    ∀ p ∈ c.settings, p.holdsNull = false := by
  obtain ⟨given, rest, -, -, hcall⟩ := Session.checkCall?_eq_some_iff.1 h
  exact (CheckCall.holdsNull_of_ofWords hcall).2

/-- **A check breaks for no other cause.** Where the command line of a check ends with a failure
that it does not account for, one of the causes of `Breakage` is there to be found. -/
theorem breakage_of_broken {front words : List Text} {environment : Option Text}
    {given : List GivenOption} (hl : s.logFile = none)
    (hfront : readOptions Command.program.options false front = .ok (given, []))
    (h : (runCommandLine (checkLine front words) environment s).1 = .broken f) :
    Breakage environment words s f := by
  rw [runCommandLine_eq] at h
  rcases hline : (Task.commandLine (checkLine front words) environment).conclude s with ⟨e, s'⟩
  rw [hline] at h
  cases h
  cases lineCourse_of_conclude (readOptions_checkLine hfront) hline with
  | badLevel h => exact .level h
  | nullInWord hread hnull _ => exact .nullInWord hread hnull
  | checked hc hk hcourse =>
    have hbreakage := hcourse.breakage (hk.logFile.trans hl) (Session.holdsNull_of_checkCall? hc)
    exact .check hc (hbreakage.of_keeps hl hk)

/-- A session with a settings file that gives the year of a script twice. -/
def conflictSession : Session where
  tree :=
    ((FileTree.empty.putFile [] "licensetool.toml"
      (Utf8.encode "[years]\n\"a.sh\" = 2001\n\"a.sh\" = 2002\n")).putFile [] "HEADER"
      (Utf8.encode "Copyright (C) {years} Acme\n")).putFile [] "a.sh" (Utf8.encode "echo\n")
  currentYear := 2024
  timeStamp := []

theorem breakage_of_broken_conflict :
    Breakage none ["--no-standalone", "-H", "HEADER", "."] conflictSession
      (.settingsConflict (.taken "a.sh")) := by
  have hfront : readOptions Command.program.options false [] = .ok ([], []) := by rfl
  exact breakage_of_broken rfl hfront (by decide +kernel)

/-- There are trees in which a check breaks. -/
theorem not_forall_ne_broken :
    ¬∀ (s : Session) (words : List Text) (f : Failure), s.logFile = none →
      (runCommandLine (checkLine [] words) none s).1 ≠ .broken f := fun h =>
  h conflictSession ["--no-standalone", "-H", "HEADER", "."] (.settingsConflict (.taken "a.sh")) rfl
    (by decide +kernel)

end LicenseAudit
