import LicenseAudit.Proofs.Session.Sparing
import LicenseAudit.Proofs.Standalone.Repair

/-!
# What the stages of a check change

Opening the log file changes the log file and no other (`Run.spares_openLog`). The standalone
license is the only file that its check writes (`Run.spares_standaloneOutcome`), and it writes it as
the last thing that can fail (`Run.failsFor_keeps_standaloneOutcome`).
-/

namespace LicenseAudit

open Text

namespace Run

variable {s s₁ : Session} {but : List Location} {cwd : Location}

/-! ## The standalone license -/

section Standalone

variable {root template : Path} {fix : Bool}

/-- Where the standalone license of a root is written. -/
def licenseLocation (cwd : Location) (root : Path) : Location :=
  (root.child standaloneName).resolve cwd

theorem spares_writeBytes {p : Path} (hp : p.resolve cwd ∈ but) (content : Bytes) :
    Spares but cwd (writeBytes p content) := by
  refine (looks_checkPath p).spares.bind fun _ => ?_
  intro s hcwd hl
  rw [perform_look_bind, FileTree.write]
  rcases hw : s.tree.writable s.workingDirectory p with fault | loc
  · exact (Session.Keeps.refl s).spares hl
  · rw [← hcwd, ← FileTree.writable_eq_ok hw] at hp
    exact ⟨rfl, hl, FileTree.sameFiles_put hp _⟩

theorem spares_repairStandalone (hbut : licenseLocation cwd root ∈ but)
    (outcome : StandaloneOutcome) :
    Spares but cwd (repairStandalone root template true outcome) := by
  refine Spares.bind ?_ fun _ => ((looks_log _ _).bind fun _ => looks_pure _).spares
  exact (looks_readBytes template).spares.bind fun content => spares_writeBytes hbut content

/-- The check of the standalone license writes no other file. -/
theorem spares_standaloneOutcome (hbut : fix = true → licenseLocation cwd root ∈ but) :
    Spares but cwd (standaloneOutcome root template fix) := by
  cases fix with
  | false => exact (looks_standaloneOutcome root template).spares
  | true =>
    rw [standaloneOutcome_eq]
    refine Spares.tryCatch ?_ fun f => ?_
    · rw [checkStandalone_eq]
      exact (looks_checkStandalone root template).spares.bind fun o =>
        (spares_repairStandalone (hbut rfl) o).ite (looks_pure o).spares
    · split
      · exact ((looks_log _ _).bind fun _ => looks_pure _).spares
      · exact looks_fail.spares

theorem failsFor_keeps_writeBytes {p : Path} {content : Bytes} (hk : s.Keeps s₁) :
    FailsFor (fun s' _ => s.Keeps s') (writeBytes p content) s₁ := by
  refine FailsFor.bind (fun f s' h => hk.trans ((looks_checkPath p).keeps h)) fun _ s₂ h₂ =>
    .look_bind ?_
  split
  · exact fun f s' h => by cases h
  · exact failsFor_fail (hk.trans ((looks_checkPath p).keeps h₂))

theorem failsFor_keeps_repairStandalone (outcome : StandaloneOutcome) (hk : s.Keeps s₁) :
    FailsFor (fun s' _ => s.Keeps s') (repairStandalone root template true outcome) s₁ := by
  have hlooks := looks_readBytes template
  refine FailsFor.bind ?_ fun _ _ _ => .log_bind (failsFor_pure _)
  exact FailsFor.bind (fun f s' h => hk.trans (hlooks.keeps h)) fun content s₂ h₂ =>
    failsFor_keeps_writeBytes (hk.trans (hlooks.keeps h₂))

theorem failsFor_keeps_checkStandalone :
    FailsFor (fun s' _ => s.Keeps s') (checkStandalone root template true) s := by
  have hlooks := looks_checkStandalone root template
  rw [checkStandalone_eq]
  exact FailsFor.bind (fun f s' h => hlooks.keeps h) fun o s₁ h₁ =>
    .ite (fun _ => failsFor_keeps_repairStandalone o (hlooks.keeps h₁)) fun _ => failsFor_pure _

/-- Where the check of the standalone license fails nothing was written. -/
theorem failsFor_keeps_standaloneOutcome :
    FailsFor (fun s' _ => s.Keeps s') (standaloneOutcome root template fix) s := by
  cases fix with
  | false => exact fun f s' h => (looks_standaloneOutcome root template).keeps h
  | true =>
    rw [standaloneOutcome_eq]
    refine .tryCatch fun f s₁ h => ?_
    split
    · exact .log_bind (failsFor_pure _)
    · exact failsFor_fail (failsFor_keeps_checkStandalone _ s₁ h)

end Standalone

/-! ## The log file -/

section Log

variable {p : Path}

/-- Where a log file is opened. -/
def logLocation (cwd : Location) (p : Path) : Location :=
  (Path.ofLocation (p.resolve cwd)).resolve cwd

/-- Why a log file cannot be opened, in a tree seen from a working directory. -/
inductive LogFault (p : Path) (t : FileTree) (cwd : Location) : Failure → Prop
  | null (h : p.holdsNull = true) : LogFault p t cwd .nullInPath
  /-- One of the directories above it cannot be made. -/
  | directory {fault : FileFault} {q : Path}
    (h : t.ensureDirectories cwd p.parent = .error (fault, q)) : LogFault p t cwd (.file fault q)
  /-- It cannot be written, once these directories are there. -/
  | file {t' : FileTree} {fault : FileFault} (hdirs : t.ensureDirectories cwd p.parent = .ok t')
    (h : t'.writable cwd (.ofLocation (p.resolve cwd)) = .error fault) :
    LogFault p t cwd (.file fault (.ofLocation (p.resolve cwd)))

theorem spares_makeDirectories (q : Path) : Spares but cwd (makeDirectories q) := by
  refine (looks_checkPath q).spares.bind fun _ => ?_
  intro s hcwd hl
  rw [perform_look_bind]
  rcases hdirs : s.tree.ensureDirectories s.workingDirectory q with ⟨fault, at_⟩ | tree
  · exact (Session.Keeps.refl s).spares hl
  · exact ⟨rfl, hl, FileTree.sameFiles_ensureDirectories hdirs⟩

/-- Opening a log file changes no other file. -/
theorem spares_openLog (hbut : logLocation cwd p ∈ but) : Spares but cwd (openLog p) := by
  refine (spares_makeDirectories p.parent).bind fun _ => (looks_checkPath p).spares.bind fun _ => ?_
  intro s hcwd hl
  rw [perform_get_bind]
  dsimp only
  rcases hw : s.tree.writable s.workingDirectory (.ofLocation (p.resolve s.workingDirectory)) with
    fault | loc
  · exact (Session.Keeps.refl s).spares hl
  · have hloc : loc ∈ but := by
      rw [FileTree.writable_eq_ok hw, hcwd]
      exact hbut
    refine ⟨rfl, fun l hlog => ?_, FileTree.sameFiles_put hloc _⟩
    cases hlog
    exact hloc

theorem holdsNull_of_parent (h : p.parent.holdsNull = true) : p.holdsNull = true := by
  obtain ⟨part, hpart, hnull⟩ := List.any_eq_true.1 h
  exact List.any_eq_true.2 ⟨part, List.dropLast_subset _ hpart, hnull⟩

/-- Directories that were made are those of the tree afterwards. -/
theorem makeDirectories_eq_ok {q : Path} {u : Unit}
    (h : (makeDirectories q).perform s = (.ok u, s₁)) :
    s₁.workingDirectory = s.workingDirectory ∧
      s.tree.ensureDirectories s.workingDirectory q = .ok s₁.tree := by
  obtain ⟨_, s₂, hcheck, hlook⟩ := perform_bind_eq_ok_iff.1 h
  obtain rfl := (checkPath_eq_ok hcheck).1
  rw [perform_look_bind] at hlook
  split at hlook
  · next hdirs =>
    cases hlook
    exact ⟨rfl, hdirs⟩
  · simp at hlook

theorem failsFor_openLog :
    FailsFor (fun _ f => LogFault p s.tree s.workingDirectory f) (openLog p) s := by
  have hcheck : ∀ {q : Path} {s₁ : Session}, (q.holdsNull = true → p.holdsNull = true) →
      FailsFor (fun _ f => LogFault p s.tree s.workingDirectory f) (checkPath q) s₁ := fun hq =>
    .ite (fun h => failsFor_fail (.null (hq h))) fun _ => failsFor_pure _
  refine FailsFor.bind ?_ fun _ s₁ h₁ => (hcheck id).bind fun _ s₂ h₂ => ?_
  · refine (hcheck holdsNull_of_parent).bind fun _ s₁ h₁ => .look_bind ?_
    obtain rfl := (checkPath_eq_ok h₁).1
    split
    · exact fun f s' h => by cases h
    · next hdirs => exact failsFor_fail (.directory hdirs)
  · obtain ⟨hcwd, hdirs⟩ := makeDirectories_eq_ok h₁
    obtain rfl := (checkPath_eq_ok h₂).1
    intro f s' h
    rw [perform_get_bind, hcwd] at h
    dsimp only at h
    split at h
    · next hw =>
      cases h
      exact .file hdirs hw
    · cases h

end Log

end Run

end LicenseAudit
