import LicenseAudit.Proofs.Session.Perform
import LicenseAudit.Proofs.Tree.Changes

/-!
# Runs that spare files

`Session.Spares but` relates sessions whose files are the same but at the locations `but`, where the
log goes to one of these at most. A run that `Run.Spares` files does so whatever it gives, and
looking is a case of it (`Run.Looks.spares`).
-/

namespace LicenseAudit

variable {α β : Type} {s s' s₁ s₂ s₃ : Session} {but : List Location} {cwd : Location}

/-- The second session comes from the first with the same files but at some locations, and the log
goes to one of these at most. -/
structure Session.Spares (but : List Location) (s s' : Session) : Prop where
  workingDirectory : s'.workingDirectory = s.workingDirectory
  logFile : ∀ loc ∈ s'.logFile, loc ∈ but
  files : s.tree.SameFiles but s'.tree

namespace Session

theorem Keeps.spares (h : s.Keeps s') (hl : ∀ loc ∈ s.logFile, loc ∈ but) : s.Spares but s' where
  workingDirectory := h.workingDirectory
  logFile := by rwa [h.logFile]
  files loc hloc content access := by rw [h.elsewhere loc fun hlog => hloc (hl loc hlog)]

theorem Spares.trans (h₁ : s₁.Spares but s₂) (h₂ : s₂.Spares but s₃) : s₁.Spares but s₃ where
  workingDirectory := h₂.workingDirectory.trans h₁.workingDirectory
  logFile := h₂.logFile
  files := h₁.files.trans h₂.files

theorem Spares.mono {but' : List Location} (h : s.Spares but s') (hsub : ∀ loc ∈ but, loc ∈ but') :
    s.Spares but' s' where
  workingDirectory := h.workingDirectory
  logFile loc hloc := hsub loc (h.logFile loc hloc)
  files := h.files.mono hsub

end Session

namespace Run

/-- From every session with a working directory, whose log goes to one of some locations at most,
a run leaves all files elsewhere as they are. -/
def Spares (but : List Location) (cwd : Location) (m : Run α) : Prop :=
  ∀ s : Session, s.workingDirectory = cwd → (∀ loc ∈ s.logFile, loc ∈ but) →
    s.Spares but (m.perform s).2

theorem Looks.spares {m : Run α} (hm : Looks m) : Spares but cwd m := fun _ _ hl =>
  (hm.keeps (perform_eq_of_fst rfl)).spares hl

theorem Spares.bind {m : Run α} {g : α → Run β} (hm : Spares but cwd m)
    (hg : ∀ a, Spares but cwd (g a)) : Spares but cwd (m >>= g) := by
  intro s hcwd hl
  have h := hm s hcwd hl
  rw [perform_bind]
  rcases hs : m.perform s with ⟨f | a, s₁⟩ <;> rw [hs] at h
  · exact h
  · exact h.trans (hg a s₁ (h.workingDirectory.trans hcwd) h.logFile)

theorem Spares.tryCatch {m : Run α} {g : Failure → Run α} (hm : Spares but cwd m)
    (hg : ∀ f, Spares but cwd (g f)) : Spares but cwd (tryCatch m g) := by
  intro s hcwd hl
  have h := hm s hcwd hl
  rw [perform_tryCatch]
  rcases hs : m.perform s with ⟨f | a, s₁⟩ <;> rw [hs] at h
  · exact h.trans (hg f s₁ (h.workingDirectory.trans hcwd) h.logFile)
  · exact h

theorem Spares.ite {c : Prop} [Decidable c] {m n : Run α} (hm : Spares but cwd m)
    (hn : Spares but cwd n) : Spares but cwd (if c then m else n) := by
  split
  · exact hm
  · exact hn

end Run

end LicenseAudit
