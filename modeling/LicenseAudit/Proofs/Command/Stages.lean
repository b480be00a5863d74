import LicenseAudit.Command.Line
import LicenseAudit.Proofs.Session.Perform

/-!
# Commands in stages

`Task.perform` is what a task gives, or how it ends the command, and the session that it leaves
behind; `Task.conclude` is how a command ends that is carried out to its end.

* `Task.conclude_check` takes a check apart into its stages: the root, the settings, the log file,
  the standalone license, the audit, the report. The first stage that fails ends the check, and
  `CheckCourse` names the ways in which that happens (`checkCourse_of_conclude`).
* `Task.exists_conclude_check` puts the stages together again: a check that gets through all of them
  ends with the exit code of its report.
-/

namespace LicenseAudit

open Text

variable {α β : Type} {s s' s₁ : Session} {e : Ending}

namespace Task

/-- What a task gives or how it ends, and the session that it leaves behind. -/
def perform (m : Task α) (s : Session) : Except Ending α × Session := (ExceptT.run m).run s

/-- How a command ends, and the session that it leaves behind. -/
def conclude (m : Task Ending) (s : Session) : Ending × Session :=
  match m.perform s with
  | (.ok e, s') => (e, s')
  | (.error e, s') => (e, s')

@[simp]
theorem perform_pure (a : α) : (pure a : Task α).perform s = (.ok a, s) := rfl

theorem perform_bind (m : Task α) (g : α → Task β) :
    (m >>= g).perform s =
      match m.perform s with
      | (.ok a, s₁) => (g a).perform s₁
      | (.error e, s₁) => (.error e, s₁) := by
  simp only [perform, ExceptT.run_bind, StateT.run_bind]
  rcases (ExceptT.run m).run s with ⟨_ | _, _⟩ <;> rfl

theorem perform_bind_eq_ok_iff {m : Task α} {g : α → Task β} {b : β} :
    (m >>= g).perform s = (.ok b, s') ↔
      ∃ a s₁, m.perform s = (.ok a, s₁) ∧ (g a).perform s₁ = (.ok b, s') := by
  rw [perform_bind]
  rcases m.perform s with ⟨_ | a, s₁⟩
  · simp
  · simp only [Prod.mk.injEq, Except.ok.injEq]
    exact ⟨fun h => ⟨a, s₁, ⟨rfl, rfl⟩, h⟩, by rintro ⟨_, _, ⟨rfl, rfl⟩, h⟩; exact h⟩

theorem conclude_bind (m : Task α) (g : α → Task Ending) :
    (m >>= g).conclude s =
      match m.perform s with
      | (.ok a, s₁) => (g a).conclude s₁
      | (.error e, s₁) => (e, s₁) := by
  rw [conclude, perform_bind]
  rcases m.perform s with ⟨_ | _, _⟩ <;> rfl

theorem perform_attempt (settle : Failure → Ending) (r : Run α) :
    (attempt settle r).perform s = ((r.perform s).1.mapError settle, (r.perform s).2) := by
  rfl

theorem conclude_attempt_bind (settle : Failure → Ending) (r : Run α) (g : α → Task Ending) :
    (attempt settle r >>= g).conclude s =
      match r.perform s with
      | (.ok a, s₁) => (g a).conclude s₁
      | (.error f, s₁) => (settle f, s₁) := by
  rw [conclude_bind, perform_attempt]
  rcases r.perform s with ⟨_ | _, _⟩ <;> rfl

/-! ## Telling -/

/-- A task does nothing but write to the output. -/
def Tells (m : Task Unit) : Prop := ∀ s, ∃ s', m.perform s = (.ok (), s') ∧ s.Keeps s'

theorem tells_pure : Tells (pure ()) := fun s => ⟨s, rfl, .refl s⟩

theorem Tells.bind {m n : Task Unit} (hm : Tells m) (hn : Tells n) : Tells (m >>= fun _ => n) := by
  intro s
  obtain ⟨s₁, h₁, hk₁⟩ := hm s
  obtain ⟨s₂, h₂, hk₂⟩ := hn s₁
  exact ⟨s₂, by rw [perform_bind, h₁]; exact h₂, hk₁.trans hk₂⟩

theorem tells_line (t : Terminal) (text : Text) : Tells (t.line text) :=
  fun s => ⟨_, rfl, s.keeps_output _⟩

theorem tells_lines (t : Terminal) (texts : List Text) : Tells (t.lines texts) := by
  induction texts with
  | nil => exact tells_pure
  | cons text rest ih => exact (tells_line t text).bind ih

theorem tells_report (t : Terminal) (c : CheckCall) (r : AuditReport)
    (standalone : Option StandaloneOutcome) : Tells (report t c r standalone) := by
  unfold report
  extract_lets finish
  have hfinish : ∀ u, Tells (finish u) := fun u => by
    refine (tells_lines t _).bind ?_
    split
    · exact tells_lines t _
    · exact tells_pure
  cases standalone with
  | none => exact hfinish ()
  | some o =>
    dsimp only
    split
    · exact (tells_line t _).bind (hfinish ())
    · exact hfinish ()

/-! ## The stages of a check -/

section Stages

variable {settings : Settings} {root : Path} {standalone : Option StandaloneOutcome}

theorem perform_attempt_eq_ok_iff {settle : Failure → Ending} {r : Run α} {a : α} :
    (attempt settle r).perform s = (.ok a, s') ↔ r.perform s = (.ok a, s') := by
  rw [perform_attempt]
  rcases r.perform s with ⟨f | b, s₁⟩
  · change (Except.error (settle f), s₁) = (.ok a, s') ↔ _
    simp
  · change (Except.ok b, s₁) = (.ok a, s') ↔ _
    simp

theorem perform_attempt_eq_error_iff {settle : Failure → Ending} {r : Run α} :
    (attempt settle r).perform s = (.error e, s') ↔
      ∃ f, settle f = e ∧ r.perform s = (.error f, s') := by
  rw [perform_attempt]
  rcases r.perform s with ⟨f | a, s₁⟩
  · change (Except.error (settle f), s₁) = (.error e, s') ↔ _
    simp only [Prod.mk.injEq, Except.error.injEq]
    exact ⟨fun ⟨hf, hs⟩ => ⟨f, hf, rfl, hs⟩, by rintro ⟨_, hf, rfl, hs⟩; exact ⟨hf, hs⟩⟩
  · change (Except.ok a, s₁) = (.error e, s') ↔ _
    simp

/-- A log file that the settings name is opened; else nothing is done. -/
theorem openLog_eq_ok_iff : (openLog settings).perform s = (.ok (), s') ↔
    settings.logFile = none ∧ s' = s ∨
      ∃ p, settings.logFile = some p ∧ (Run.openLog p).perform s = (.ok (), s') := by
  rw [openLog]
  rcases settings.logFile with _ | p
  · simp [eq_comm]
  · simp [ofRun, perform_attempt_eq_ok_iff]

theorem openLog_eq_error_iff : (openLog settings).perform s = (.error e, s') ↔
    ∃ p f, settings.logFile = some p ∧ .broken f = e ∧
      (Run.openLog p).perform s = (.error f, s') := by
  rw [openLog]
  rcases settings.logFile with _ | p
  · simp
  · simp [ofRun, perform_attempt_eq_error_iff]

/-- The standalone license is checked by the template that the settings name; else it is left
out. -/
theorem checkStandalone_eq_ok_iff :
    (checkStandalone root settings).perform s = (.ok standalone, s') ↔
      settings.standaloneLicense = none ∧ standalone = none ∧ s' = s ∨
        ∃ template o, settings.standaloneLicense = some template ∧ standalone = some o ∧
          (Run.standaloneOutcome root template settings.fix).perform s = (.ok o, s') := by
  rw [checkStandalone]
  rcases settings.standaloneLicense with _ | template
  · simp [eq_comm]
  · simp only [reduceCtorEq, false_and, false_or, Option.some.injEq, exists_and_left,
      exists_eq_left']
    rw [perform_bind_eq_ok_iff]
    simp only [perform_attempt_eq_ok_iff]
    constructor
    · rintro ⟨o, s₁, ho, h⟩
      cases h
      exact ⟨o, rfl, ho⟩
    · rintro ⟨o, rfl, ho⟩
      exact ⟨o, s', ho, rfl⟩

theorem checkStandalone_eq_error_iff :
    (checkStandalone root settings).perform s = (.error e, s') ↔
      ∃ template f, settings.standaloneLicense = some template ∧ standaloneEnding f = e ∧
        (Run.standaloneOutcome root template settings.fix).perform s = (.error f, s') := by
  rw [checkStandalone]
  rcases settings.standaloneLicense with _ | template
  · simp
  · simp only [Option.some.injEq, exists_and_left, exists_eq_left']
    rw [← perform_attempt_eq_error_iff, perform_bind]
    rcases (attempt standaloneEnding
      (Run.standaloneOutcome root template settings.fix)).perform s with ⟨_ | _, _⟩ <;> simp

end Stages

theorem conclude_check (t : Terminal) (c : CheckCall) :
    (check t c).conclude s =
      match (Run.has c.path).perform s with
      | (.error f, s₁) => (.broken f, s₁)
      | (.ok false, s₁) => (.error .noInput (Failure.noRoot c.path).message, s₁)
      | (.ok true, s₁) =>
        match (Run.checkSettings c).perform s₁ with
        | (.error f, s₂) => (settingsEnding f, s₂)
        | (.ok settings, s₂) =>
          match (openLog settings).perform s₂ with
          | (.error e, s₃) => (e, s₃)
          | (.ok (), s₃) =>
            match (checkStandalone c.path settings).perform s₃ with
            | (.error e, s₄) => (e, s₄)
            | (.ok standalone, s₄) =>
              match (Run.audit c.path settings.auditOrder).perform s₄ with
              | (.error f, s₅) => (auditEnding f, s₅)
              | (.ok r, s₅) =>
                (.exit (checkExit r standalone), ((report t c r standalone).perform s₅).2) := by
  unfold check
  extract_lets audited
  rw [ofRun, conclude_attempt_bind]
  rcases (Run.has c.path).perform s with ⟨f | _ | _, s₁⟩
  · rfl
  · rfl
  dsimp only
  rw [Bool.not_true, if_neg Bool.false_ne_true]
  simp only [audited]
  rw [conclude_attempt_bind]
  rcases (Run.checkSettings c).perform s₁ with ⟨f | settings, s₂⟩
  · rfl
  dsimp only
  rw [conclude_bind]
  rcases (openLog settings).perform s₂ with ⟨e | _, s₃⟩
  · rfl
  dsimp only
  rw [conclude_bind]
  rcases (checkStandalone c.path settings).perform s₃ with ⟨e | standalone, s₄⟩
  · rfl
  dsimp only
  rw [conclude_attempt_bind]
  rcases (Run.audit c.path settings.auditOrder).perform s₄ with ⟨f | r, s₅⟩
  · rfl
  obtain ⟨s₆, h, -⟩ := tells_report t c r standalone s₅
  dsimp only
  rw [conclude_bind, h]
  rfl

end Task

/-- A check comes to settings: its root is there, and the layers can be read. -/
structure CheckCall.Settles (c : CheckCall) (s : Session) (settings : Settings) (s' : Session) :
    Prop where
  root : (Run.has c.path).perform s = (.ok true, s)
  layers : (Run.checkSettings c).perform s = (.ok settings, s')

/-- A check that gets through its stages ends with its report. -/
theorem Task.exists_conclude_check {t : Terminal} {c : CheckCall} {settings : Settings}
    {standalone : Option StandaloneOutcome} {r : AuditReport} {s₂ s₃ s₄ : Session}
    (hsettings : c.Settles s settings s₁) (hlog : (openLog settings).perform s₁ = (.ok (), s₂))
    (hstandalone : (checkStandalone c.path settings).perform s₂ = (.ok standalone, s₃))
    (haudit : (Run.audit c.path settings.auditOrder).perform s₃ = (.ok r, s₄)) :
    ∃ s', (check t c).conclude s = (.exit (checkExit r standalone), s') ∧ s₄.Keeps s' := by
  obtain ⟨s', hreport, hk⟩ := tells_report t c r standalone s₄
  refine ⟨s', ?_, hk⟩
  rw [conclude_check, hsettings.root]
  dsimp only
  rw [hsettings.layers]
  dsimp only
  rw [hlog]
  dsimp only
  rw [hstandalone]
  dsimp only
  rw [haudit]
  dsimp only
  rw [hreport]

/-- How a check ends and the session that it leaves behind, by the stage that ends it. -/
inductive CheckCourse (c : CheckCall) (s : Session) : Ending → Session → Prop
  | unknownRoot {f : Failure} {s' : Session} (h : (Run.has c.path).perform s = (.error f, s')) :
    CheckCourse c s (.broken f) s'
  | noRoot (h : (Run.has c.path).perform s = (.ok false, s)) :
    CheckCourse c s (.error .noInput (Failure.noRoot c.path).message) s
  | noSettings {f : Failure} {s' : Session} (hroot : (Run.has c.path).perform s = (.ok true, s))
    (h : (Run.checkSettings c).perform s = (.error f, s')) : CheckCourse c s (settingsEnding f) s'
  | noLog {settings : Settings} {e : Ending} {s₁ s' : Session} (hsettings : c.Settles s settings s₁)
    (h : (Task.openLog settings).perform s₁ = (.error e, s')) : CheckCourse c s e s'
  | noStandalone {settings : Settings} {e : Ending} {s₁ s₂ s' : Session}
    (hsettings : c.Settles s settings s₁)
    (hlog : (Task.openLog settings).perform s₁ = (.ok (), s₂))
    (h : (Task.checkStandalone c.path settings).perform s₂ = (.error e, s')) : CheckCourse c s e s'
  | noAudit {settings : Settings} {standalone : Option StandaloneOutcome} {f : Failure}
    {s₁ s₂ s₃ s' : Session} (hsettings : c.Settles s settings s₁)
    (hlog : (Task.openLog settings).perform s₁ = (.ok (), s₂))
    (hstandalone : (Task.checkStandalone c.path settings).perform s₂ = (.ok standalone, s₃))
    (h : (Run.audit c.path settings.auditOrder).perform s₃ = (.error f, s')) :
    CheckCourse c s (auditEnding f) s'
  | reported {settings : Settings} {standalone : Option StandaloneOutcome} {r : AuditReport}
    {s₁ s₂ s₃ s₄ s' : Session} (hsettings : c.Settles s settings s₁)
    (hlog : (Task.openLog settings).perform s₁ = (.ok (), s₂))
    (hstandalone : (Task.checkStandalone c.path settings).perform s₂ = (.ok standalone, s₃))
    (haudit : (Run.audit c.path settings.auditOrder).perform s₃ = (.ok r, s₄))
    (hreport : s₄.Keeps s') : CheckCourse c s (.exit (checkExit r standalone)) s'

/-- A check takes one of its courses. -/
theorem checkCourse_of_conclude {t : Terminal} {c : CheckCall}
    (h : (Task.check t c).conclude s = (e, s')) : CheckCourse c s e s' := by
  rw [Task.conclude_check] at h
  rcases hroot : (Run.has c.path).perform s with ⟨f | _ | _, s₁⟩ <;> rw [hroot] at h
  · cases h
    exact .unknownRoot hroot
  · obtain rfl := (Run.has_eq_ok hroot).1
    cases h
    exact .noRoot hroot
  obtain rfl := (Run.has_eq_ok hroot).1
  dsimp only at h
  rcases hlayers : (Run.checkSettings c).perform s₁ with ⟨f | settings, s₂⟩ <;> rw [hlayers] at h
  · cases h
    exact .noSettings hroot hlayers
  have hsettings : c.Settles s₁ settings s₂ := ⟨hroot, hlayers⟩
  dsimp only at h
  rcases hlog : (Task.openLog settings).perform s₂ with ⟨f | _, s₃⟩ <;> rw [hlog] at h
  · cases h
    exact .noLog hsettings hlog
  dsimp only at h
  rcases hstandalone : (Task.checkStandalone c.path settings).perform s₃ with ⟨f | o, s₄⟩ <;>
    rw [hstandalone] at h
  · cases h
    exact .noStandalone hsettings hlog hstandalone
  dsimp only at h
  rcases haudit : (Run.audit c.path settings.auditOrder).perform s₄ with ⟨f | r, s₅⟩ <;>
    rw [haudit] at h
  · cases h
    exact .noAudit hsettings hlog hstandalone haudit
  obtain ⟨s₆, hreport, hk⟩ := Task.tells_report t c r o s₅
  dsimp only at h
  rw [hreport] at h
  cases h
  exact .reported hsettings hlog hstandalone haudit hk

end LicenseAudit
