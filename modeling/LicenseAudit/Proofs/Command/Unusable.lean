import LicenseAudit.Proofs.Command.DryRun

/-!
# Settings files that cannot be used

A settings file gives a table unless it cannot be opened, is no text, is no TOML, or defines
something twice (`Run.settingsContent_eq_error_iff`). A check that finds such a file in its root
ends there, whatever else it was to do, and `ending_of_unusable` says how. Only the first and the
third of the four causes are reported as bad settings: bytes that are no text are reported as a year
map that cannot be read, and a definition that is repeated is not accounted for at all.
-/

namespace LicenseAudit

open Text

variable {s s' s₁ : Session} {p : Path} {f : Failure}

/-- Why a settings file gives no table. -/
inductive Unusable (t : FileTree) (cwd : Location) (p : Path) : Failure → Prop
  | unopened {fault : FileFault} (h : t.read cwd p = .error fault) :
    Unusable t cwd p (.settingsUnreadable p fault)
  | notText {content : Bytes} {m : Utf8.Malformed} (h : t.read cwd p = .ok content)
    (hdecode : Utf8.decode content = .error m) : Unusable t cwd p (.malformedText m)
  | notToml {content : Bytes} {written : Text} {fault : Toml.Fault} (h : t.read cwd p = .ok content)
    (hdecode : Utf8.decode content = .ok written)
    (hparse : Toml.parse (unifyNewlines written) = .error fault)
    (hfault : ∀ k, fault ≠ .conflict k) : Unusable t cwd p (.settingsMalformed p)
  /-- One of its tables defines something twice. -/
  | conflict {content : Bytes} {written : Text} {k : Toml.Conflict} (h : t.read cwd p = .ok content)
    (hdecode : Utf8.decode content = .ok written)
    (hparse : Toml.parse (unifyNewlines written) = .error (.conflict k)) :
    Unusable t cwd p (.settingsConflict k)

namespace Run

/-! ## Reading a settings file -/

/-- A settings file gives its table, or fails for one of the four causes. -/
theorem settingsContent_eq_error_iff (hp : p.holdsNull = false) :
    ((settingsContent p).perform s).1 = .error f ↔ Unusable s.tree s.workingDirectory p f := by
  rw [settingsContent, checkPath_eq hp, pure_bind, perform_look_bind]
  constructor
  · intro h
    split at h
    · next fault hread =>
      cases h
      exact .unopened hread
    next content hread =>
    split at h
    · next m hdecode =>
      cases h
      exact .notText hread hdecode
    next written hdecode =>
    split at h
    · cases h
    · next k hparse =>
      cases h
      exact .conflict hread hdecode hparse
    · next fault hfault hparse =>
      cases h
      exact .notToml hread hdecode hparse fun k hk => hfault k hk
  · rintro (⟨h⟩ | ⟨h, hdecode⟩ | ⟨h, hdecode, hparse, hfault⟩ | ⟨h, hdecode, hparse⟩)
    · simp only [h, perform_fail]
    · simp only [h, hdecode, perform_fail]
    · rename_i fault
      cases fault with
      | conflict k => exact absurd rfl (hfault k)
      | _ => simp only [h, hdecode, hparse, perform_fail]
    · simp only [h, hdecode, hparse, perform_fail]

/-- A settings file that gives no table gives no layer. -/
theorem settingsFile_eq_error (hl : s.logFile = none) (hp : p.holdsNull = false)
    (h : Unusable s.tree s.workingDirectory p f) : ((settingsFile p).perform s).1 = .error f := by
  let shown : LogRecord := ⟨.debug, "Loading config from " ++ p.toText⟩
  have hfails : ((settingsContent p).perform (s.log shown)).1 = .error f := by
    rw [(looks_settingsContent p).again (s.keeps_log shown) hl]
    exact (settingsContent_eq_error_iff hp).2 h
  rw [settingsFile, perform_log_bind, perform_bind, perform_eq_of_fst hfails]

/-! ## Finding a settings file -/

/-- What is there is a directory or it is not. -/
theorem perform_isDirectory (h : (has p).perform s = (.ok true, s')) :
    (isDirectory p).perform s = (.ok (s.tree.isDirectory s.workingDirectory p), s) := by
  obtain ⟨found, s₁, hfound, -⟩ := perform_bind_eq_ok_iff.1 h
  have hdirectory : (isDirectory p).perform s = (.ok (found.any Node.isDirectory), s₁) := by
    rw [isDirectory, perform_bind, hfound]
    rfl
  obtain ⟨rfl, hb⟩ := isDirectory_eq_ok hdirectory
  rw [hdirectory, hb]

end Run

/-- The check finds this settings file, the first that is looked for, in its root, or beside the
root where that is a file: nothing has stopped it before. -/
structure CheckCall.Discovers (c : CheckCall) (s : Session) (p : Path) : Prop where
  root : (Run.has c.path).perform s = (.ok true, s)
  years : ∃ years, ((Run.overrideYears c.overrides.years).perform s).1 = .ok years
  looked : c.noDiscovery = false
  place : p = Path.child (if s.tree.isDirectory s.workingDirectory c.path then c.path
    else c.path.parent) settingsFileName
  file : s.tree.isFile s.workingDirectory p = true

variable {c : CheckCall}

theorem CheckCall.Discovers.checkSettings_eq_error (hl : s.logFile = none) (hc : c.Discovers s p)
    (h : Unusable s.tree s.workingDirectory p f) :
    ((Run.checkSettings c).perform s).1 = .error f := by
  obtain ⟨years, hyears⟩ := hc.years
  have hfile := Run.settingsFile_eq_error hl (FileTree.holdsNull_of_isFile hc.file) h
  have hfound : ((Run.discoverSettings c.path).perform s).1 = .error f := by
    rw [Run.discoverSettings, Run.perform_bind, Run.perform_isDirectory hc.root]
    dsimp only
    rw [← hc.place, Run.firstSettingsFile, Run.perform_bind, Run.perform_isFile hc.file]
    dsimp only
    rw [if_pos rfl, Run.perform_bind, Run.perform_eq_of_fst hfile]
  rw [Run.fst_perform_checkSettings hl, hyears, Run.discoveredLayer, hc.looked]
  simp only [Bool.false_eq_true, if_false]
  rw [hfound]
  rfl

/-! ## The command line -/

/-- The command line of a check is understood: its options, the environment and its words go
together, and the words ask for this check. -/
structure Asks (front words : List Text) (environment : Option Text) (s : Session) (c : CheckCall) :
    Prop where
  front : ∃ given asked, readOptions Command.program.options false front = .ok (given, []) ∧
    GivenOption.has given "--help" = false ∧
    Level.ofCounts (GivenOption.count given "--verbose") (GivenOption.count given "--quiet") =
      .ok asked
  level : ∃ named, Level.ofEnvironment environment = .ok named
  call : s.checkCall? words = some c

/-- A command line that is understood ends as the check that it asks for. -/
theorem Asks.exists_conclude {front words : List Text} {environment : Option Text}
    (h : Asks front words environment s c) : ∃ t s₁, s.Keeps s₁ ∧
      (runCommandLine (checkLine front words) environment s).1 =
        ((Task.check t c).conclude s₁).1 := by
  obtain ⟨given, asked, hfront, hnohelp, hcounts⟩ := h.front
  obtain ⟨named, hlevel⟩ := h.level
  obtain ⟨given', rest, hwords, hnohelp', hcall⟩ := Session.checkCall?_eq_some_iff.1 h.call
  refine ⟨.ofOptions given, { s with threshold := some (named.getD asked) },
    ⟨rfl, rfl, rfl, fun _ => rfl, fun _ _ => rfl⟩, ?_⟩
  rw [runCommandLine_eq, Task.conclude_commandLine (readOptions_checkLine hfront),
    hnohelp, if_neg Bool.false_ne_true, hcounts]
  dsimp only
  rw [hlevel]
  dsimp only
  rw [Task.conclude_command_check, hwords]
  dsimp only
  rw [hnohelp', if_neg Bool.false_ne_true, hcall]

/-- A check that finds an unusable settings file ends with it. -/
theorem CheckCall.Discovers.conclude_check (t : Terminal) (hl : s.logFile = none)
    (hc : c.Discovers s p) (h : Unusable s.tree s.workingDirectory p f) (hk : s.Keeps s₁) :
    ((Task.check t c).conclude s₁).1 = settingsEnding f := by
  have hroot : (Run.has c.path).perform s₁ = (.ok true, s₁) := by
    have hgiven := ((Run.looks_has c.path).again hk hl).trans (congrArg Prod.fst hc.root)
    have hs := Run.perform_eq_of_fst hgiven
    rw [hs, (Run.has_eq_ok hs).1]
  have hsettings := ((Run.looks_checkSettings c).again hk hl).trans
    (hc.checkSettings_eq_error hl h)
  rw [Task.conclude_check, hroot]
  dsimp only
  rw [Run.perform_eq_of_fst hsettings]

/-- **What a settings file that cannot be used does to a check.** Whatever a file holds, its table
is read from it unless one of the four causes of `Unusable` is there. A check that finds the file in
its root ends with the exit code 78 and a message about the file where the file cannot be opened or
is a text but no TOML. Where its bytes are no text, the check ends with the exit code 74 instead,
and with a message about a year map. A table that defines something twice is not accounted for. -/
theorem ending_of_unusable {front words : List Text} {environment : Option Text}
    (hl : s.logFile = none) (hasks : Asks front words environment s c) (hc : c.Discovers s p) :
    (∀ (r : Session) (q : Path), r.tree.isFile r.workingDirectory q = true →
      ∀ f, ((Run.settingsContent q).perform r).1 = .error f ↔
        Unusable r.tree r.workingDirectory q f) ∧
    (∀ fault, Unusable s.tree s.workingDirectory p (.settingsUnreadable p fault) →
      (runCommandLine (checkLine front words) environment s).1 =
        .error .badSettings (Failure.settingsUnreadable p fault).message) ∧
    (Unusable s.tree s.workingDirectory p (.settingsMalformed p) →
      (runCommandLine (checkLine front words) environment s).1 =
        .error .badSettings (Failure.settingsMalformed p).message) ∧
    (∀ m, Unusable s.tree s.workingDirectory p (.malformedText m) →
      (runCommandLine (checkLine front words) environment s).1 =
        .error .inputOutput ("Cannot read year map: " ++ (Failure.malformedText m).message)) ∧
    ∀ k, Unusable s.tree s.workingDirectory p (.settingsConflict k) →
      (runCommandLine (checkLine front words) environment s).1 = .broken (.settingsConflict k) := by
  obtain ⟨t, s₁, hk, hconclude⟩ := hasks.exists_conclude
  have hending : ∀ f, Unusable s.tree s.workingDirectory p f →
      (runCommandLine (checkLine front words) environment s).1 = settingsEnding f := fun f h =>
    hconclude.trans (hc.conclude_check t hl h hk)
  exact ⟨fun r q hq f => Run.settingsContent_eq_error_iff (FileTree.holdsNull_of_isFile hq),
    fun fault => hending _, hending _, fun m => hending _, fun k => hending _⟩

/-- A session whose root holds a settings file and nothing else. -/
def settingsSession (content : Bytes) : Session where
  tree := FileTree.empty.putFile [] "licensetool.toml" content
  currentYear := 2024
  timeStamp := []

/-- A check of this root without the standalone license. -/
def plainCall : CheckCall where
  path := Path.ofText "."
  overrides := { noStandalone := true }
  settings := none
  noDiscovery := false
  summary := false

theorem asks_plainCall (content : Bytes) :
    Asks [] ["--no-standalone", "."] none (settingsSession content) plainCall where
  front := ⟨[], Level.warning, rfl, rfl, rfl⟩
  level := ⟨none, rfl⟩
  call := by rfl

theorem discovers_plainCall (content : Bytes) :
    plainCall.Discovers (settingsSession content) (Path.ofText "licensetool.toml") where
  root := by rfl
  years := ⟨.empty, rfl⟩
  looked := rfl
  place := by rfl
  file := by rfl

/-- A key without a value is no TOML, and the check says so. -/
theorem ending_of_unusable_valueless :
    (runCommandLine (checkLine [] ["--no-standalone", "."]) none
      (settingsSession (Utf8.encode "fix =\n"))).1 =
        .error .badSettings "Invalid TOML in licensetool.toml" := by
  have hdecode : Utf8.decode (Utf8.encode "fix =\n") = .ok "fix =\n" :=
    eq_ok_of_toOption (by decide +kernel)
  have hparse : Toml.parse (unifyNewlines "fix =\n") = .error (.unexpected ['\n']) := by rfl
  have hunusable : Unusable (settingsSession (Utf8.encode "fix =\n")).tree []
      (Path.ofText "licensetool.toml") (.settingsMalformed (Path.ofText "licensetool.toml")) :=
    .notToml rfl hdecode hparse (by simp)
  exact (ending_of_unusable rfl (asks_plainCall _) (discovers_plainCall _)).2.2.1 hunusable

/-- A settings file of one byte that is no text ends the check with the exit code 74. -/
theorem not_forall_code_of_unusable :
    ¬∀ (front words : List Text) (environment : Option Text) (s : Session) (c : CheckCall)
      (p : Path) (f : Failure), s.logFile = none → Asks front words environment s c →
      c.Discovers s p → Unusable s.tree s.workingDirectory p f →
      (∀ k, f ≠ .settingsConflict k) →
      (runCommandLine (checkLine front words) environment s).1.code = 78 := fun h => by
  have hdecode : Utf8.decode [0xFF] = .error ⟨0xFF, 0, 1, .badStart⟩ := by decide +kernel
  have hunusable : Unusable (settingsSession [0xFF]).tree [] (Path.ofText "licensetool.toml")
      (.malformedText ⟨0xFF, 0, 1, .badStart⟩) := .notText rfl hdecode
  have hcode := h [] ["--no-standalone", "."] none (settingsSession [0xFF]) plainCall _ _ rfl
    (asks_plainCall _) (discovers_plainCall _) hunusable (by simp)
  have hgiven : (runCommandLine (checkLine [] ["--no-standalone", "."]) none
      (settingsSession [0xFF])).1.code = 74 := by decide +kernel
  rw [hgiven] at hcode
  cases hcode

end LicenseAudit
