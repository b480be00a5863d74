import LicenseAudit.Command.Check
import LicenseAudit.Proofs.Session.Failing
import LicenseAudit.Proofs.Tree.Locations

/-!
# Checking and repairing the standalone license

A fix of the standalone license is a check and, where the check finds the license missing or wrong,
a repair (`Run.checkStandalone_eq`). So a fix of a license that needs none only looks, and does what
the check does (`Run.perform_standaloneOutcome_fix`). A check fails where the template is missing or
a file cannot be used, and the first of these is an outcome (`Run.failsFor_standaloneOutcome`).
-/

namespace LicenseAudit

open Text

namespace Run

variable {s s' : Session} {root template : Path}

theorem looks_fileDigest (p : Path) : Looks (fileDigest p) :=
  (looks_readBytes p).bind fun _ => looks_pure _

theorem looks_firstFile (ps : List Path) : Looks (firstFile ps) := by
  induction ps with
  | nil => exact looks_pure _
  | cons p rest ih =>
    exact (looks_log _ _).bind fun _ => (looks_isFile p).bind fun _ => (looks_pure _).ite ih

theorem looks_compareStandalone (found template : Path) :
    Looks (compareStandalone found template) := by
  refine (looks_log _ _).bind fun _ => (looks_fileDigest found).bind fun _ =>
    (looks_fileDigest template).bind fun _ => (looks_log _ _).bind fun _ =>
      (looks_log _ _).bind fun _ => Looks.ite ?_ ?_
  · exact (looks_log _ _).bind fun _ => looks_pure _
  · exact (looks_log _ _).bind fun _ => looks_pure _

/-- A fix checks without a fix first. -/
theorem checkStandalone_eq (root template : Path) : checkStandalone root template true = do
    let o ← checkStandalone root template false
    if o.status.needsFix then repairStandalone root template true o else return o := by
  unfold checkStandalone
  simp only [bind_assoc]
  refine bind_congr fun _ => bind_congr fun inDirectory => ?_
  cases inDirectory with
  | false => simp [StandaloneStatus.needsFix]
  | true =>
    simp only [Bool.not_true, Bool.false_eq_true, ↓reduceIte, bind_assoc]
    refine bind_congr fun isFile => ?_
    cases isFile with
    | false => rfl
    | true =>
      simp only [Bool.not_true, Bool.false_eq_true, ↓reduceIte, bind_assoc]
      refine bind_congr fun found => ?_
      cases found with
      | none => simp [repairStandalone, StandaloneStatus.needsFix]
      | some found =>
        simp only [bind_assoc]
        refine bind_congr fun same => ?_
        cases same <;> simp [repairStandalone, StandaloneStatus.needsFix]

theorem looks_repairStandalone (outcome : StandaloneOutcome) :
    Looks (repairStandalone root template false outcome) := looks_pure _

/-- Without a fix the check only looks. -/
theorem looks_checkStandalone (root template : Path) :
    Looks (checkStandalone root template false) := by
  refine (looks_log _ _).bind fun _ => (looks_isDirectory root).bind fun _ => Looks.ite ?_ ?_
  · exact (looks_log _ _).bind fun _ => looks_pure _
  refine (looks_isFile template).bind fun _ => looks_fail.ite ?_
  refine (looks_firstFile _).bind fun found => ?_
  cases found with
  | none => exact (looks_log _ _).bind fun _ => looks_repairStandalone _
  | some found =>
    exact (looks_compareStandalone found template).bind fun _ =>
      (looks_pure _).ite (looks_repairStandalone _)

/-- A template that is missing is an outcome; other failures stay. -/
theorem standaloneOutcome_eq (root template : Path) (fix : Bool) :
    standaloneOutcome root template fix =
      tryCatch (checkStandalone root template fix) fun f =>
        match f with
        | .noTemplate p => do
          log .error (Failure.noTemplate p).message
          return ⟨.noTemplate, some template⟩
        | f => fail f := by
  refine funext fun s => ?_
  change (standaloneOutcome root template fix).perform s = perform _ s
  rw [perform_tryCatch, standaloneOutcome, perform_bind, perform_tryCatch, perform_bind]
  rcases (checkStandalone root template fix).perform s with ⟨f | o, s₁⟩
  · cases f <;> rfl
  · rfl

theorem looks_standaloneOutcome (root template : Path) :
    Looks (standaloneOutcome root template false) := by
  rw [standaloneOutcome_eq]
  refine (looks_checkStandalone root template).tryCatch fun f => ?_
  split
  · exact (looks_log _ _).bind fun _ => looks_pure _
  · exact looks_fail

/-- Where a check finds nothing to repair, a fix does what the check does. -/
theorem perform_standaloneOutcome_fix {o : StandaloneOutcome}
    (h : (standaloneOutcome root template false).perform s = (.ok o, s'))
    (ho : o.status.needsFix = false) :
    (standaloneOutcome root template true).perform s = (.ok o, s') := by
  rw [standaloneOutcome_eq, perform_tryCatch] at h ⊢
  rw [checkStandalone_eq, perform_bind]
  rcases hcheck : (checkStandalone root template false).perform s with ⟨f | found, s₁⟩ <;>
    rw [hcheck] at h
  · exact h
  · cases h
    simp [ho]

/-! ## Failures -/

/-- Why the standalone license cannot be checked. -/
inductive StandaloneFault (template : Path) (s : Session) : Failure → Prop
  | noTemplate : StandaloneFault template s (.noTemplate template)
  | file (fault : FileFault) (p : Path) : StandaloneFault template s (.file fault p)

theorem isName_of_mem_standaloneNames : ∀ name ∈ standaloneNames, isName name = true := by
  decide

theorem failsFor_firstFile (ps : List Path) :
    FailsFor (StandaloneFault template) (firstFile ps) s := by
  induction ps generalizing s with
  | nil => exact failsFor_pure _
  | cons p rest ih =>
    refine .log_bind ((failsFor_isFile (fun _ => .file) p).bind fun isFile s₁ _ => ?_)
    exact .ite (fun _ => failsFor_pure _) fun _ => ih

theorem failsFor_compareStandalone {found : Path} (hfound : found.holdsNull = false)
    (htemplate : template.holdsNull = false) :
    FailsFor (StandaloneFault template) (compareStandalone found template) s := by
  have hdigest : ∀ {p : Path} {s : Session}, p.holdsNull = false →
      FailsFor (StandaloneFault template) (fileDigest p) s := fun hp =>
    (failsFor_readBytes (fun _ => .file) hp).bind fun _ _ _ => failsFor_pure _
  refine .log_bind ((hdigest hfound).bind fun _ _ _ => (hdigest htemplate).bind fun _ _ _ =>
    .log_bind (.log_bind (.ite (fun _ => ?_) fun _ => ?_)))
  · exact .log_bind (failsFor_pure _)
  · exact .log_bind (failsFor_pure _)

theorem failsFor_repairStandalone (hroot : root.holdsNull = false)
    (htemplate : template.holdsNull = false) (fix : Bool) (outcome : StandaloneOutcome) :
    FailsFor (StandaloneFault template) (repairStandalone root template fix outcome) s := by
  refine .ite (fun _ => ?_) fun _ => failsFor_pure _
  refine FailsFor.bind ?_ fun _ _ _ => .log_bind (failsFor_pure _)
  refine (failsFor_readBytes (fun _ => .file) htemplate).bind fun content _ _ => ?_
  exact failsFor_writeBytes (fun _ => .file) (Path.holdsNull_child hroot (by decide)) content

theorem mem_of_firstFile {ps : List Path} {found : Path}
    (h : (firstFile ps).perform s = (.ok (some found), s')) : found ∈ ps := by
  induction ps generalizing s with
  | nil => simp [firstFile] at h
  | cons p rest ih =>
    rw [firstFile, perform_log_bind] at h
    obtain ⟨isFile, s₁, -, h⟩ := perform_bind_eq_ok_iff.1 h
    cases isFile with
    | true =>
      cases h
      exact List.mem_cons_self ..
    | false => exact List.mem_cons_of_mem _ (ih h)

/-- Why the standalone license of a root cannot be checked. -/
theorem failsFor_checkStandalone (hroot : root.holdsNull = false) (fix : Bool) :
    FailsFor (StandaloneFault template) (checkStandalone root template fix) s := by
  refine .log_bind ((failsFor_isDirectory (fun _ => .file) root).bind fun inDirectory s₁ _ =>
    .ite (fun _ => .log_bind (failsFor_pure _)) fun _ => ?_)
  refine (failsFor_isFile (fun _ => .file) template).bind fun isFile s₂ hfile =>
    .ite (fun _ => failsFor_fail .noTemplate) fun htrue => ?_
  have htemplate := holdsNull_of_isFile_eq_ok hfile (by simpa using htrue)
  refine (failsFor_firstFile _).bind fun found s₃ hfound => ?_
  cases found with
  | none => exact .log_bind (failsFor_repairStandalone hroot htemplate fix _)
  | some found =>
    obtain ⟨name, hname, rfl⟩ := List.mem_map.1 (mem_of_firstFile hfound)
    have hfile := Path.holdsNull_child hroot (isName_of_mem_standaloneNames name hname)
    refine (failsFor_compareStandalone hfile htemplate).bind fun same s₄ _ =>
      .ite (fun _ => failsFor_pure _) fun _ => ?_
    exact failsFor_repairStandalone hroot htemplate fix _

/-- A missing template is an outcome, so all that is left are files that cannot be used. -/
theorem failsFor_standaloneOutcome (hroot : root.holdsNull = false) (fix : Bool) :
    FailsFor (fun _ f => ∃ fault p, f = .file fault p) (standaloneOutcome root template fix) s := by
  rw [standaloneOutcome_eq]
  refine .tryCatch fun f s₁ h => ?_
  obtain _ | ⟨fault, p⟩ := failsFor_checkStandalone hroot fix f s₁ h
  · exact .log_bind (failsFor_pure _)
  · exact failsFor_fail ⟨fault, p, rfl⟩

end Run

end LicenseAudit
