import LicenseAudit.Tree.Walk

/-!
# What changes in a tree

`FileTree.SameFiles but` relates trees whose files are the same, except at the locations `but`:
none is made or removed there, and none has other content or other access. Making directories
changes no file.
-/

namespace LicenseAudit

namespace FileTree

variable {t t₁ t₂ t₃ : FileTree} {but but' : List Location}

/-- The files of two trees are the same but at some locations. -/
def SameFiles (but : List Location) (t t' : FileTree) : Prop :=
  ∀ loc ∉ but, ∀ content access,
    t'.get? loc = some (.file content access) ↔ t.get? loc = some (.file content access)

theorem SameFiles.refl (t : FileTree) : t.SameFiles but t := fun _ _ _ _ => .rfl

theorem SameFiles.trans (h₁ : t₁.SameFiles but t₂) (h₂ : t₂.SameFiles but t₃) :
    t₁.SameFiles but t₃ := fun loc hloc content access =>
  (h₂ loc hloc content access).trans (h₁ loc hloc content access)

theorem SameFiles.mono (h : t₁.SameFiles but t₂) (hsub : ∀ loc ∈ but, loc ∈ but') :
    t₁.SameFiles but' t₂ := fun loc hloc => h loc fun hmem => hloc (hsub loc hmem)

theorem sameFiles_put {loc : Location} (h : loc ∈ but) (content : Bytes) :
    t.SameFiles but (t.put loc content) := by
  intro l hl _ _
  have hne : l ≠ loc := by
    rintro rfl
    exact hl h
  rw [get?_put_of_ne hne]

theorem sameFiles_makeDirectory (parent : Location) (name : Text) :
    t.SameFiles but (t.makeDirectory parent name) := by
  unfold makeDirectory
  split
  · split
    · exact .refl t
    · next h =>
      intro l _ content access
      rw [get?_addEntry]
      split
      · next hl => simp [hl, h]
      · rfl
  · exact .refl t

theorem sameFiles_makeDirectoryAt {cwd : Location} {p : Path} {t' : FileTree}
    (h : t.makeDirectoryAt cwd p = .ok t') : t.SameFiles but t' := by
  rw [makeDirectoryAt] at h
  rcases hl : t.locate cwd p with fault | loc <;> simp only [hl, bind, Except.bind] at h
  · cases h
  · split at h <;> cases h
    exact sameFiles_makeDirectory _ _

theorem sameFiles_ensureDirectory {cwd : Location} {p : Path} {t' : FileTree}
    (h : t.ensureDirectory cwd p = .ok t') : t.SameFiles but t' := by
  rw [ensureDirectory] at h
  split at h
  · next hmake =>
    cases h
    exact sameFiles_makeDirectoryAt hmake
  · split at h <;> cases h
    exact .refl t

theorem sameFiles_ensureDirectoriesFrom {cwd : Location} {root : Text} {reversed : List Text}
    {t' : FileTree} (h : t.ensureDirectoriesFrom cwd root reversed = .ok t') :
    t.SameFiles but t' := by
  induction reversed generalizing t t' with
  | nil =>
    rw [ensureDirectoriesFrom] at h
    rcases hdir : t.ensureDirectory cwd ⟨root, []⟩ with fault | t₁ <;> rw [hdir] at h <;> cases h
    exact sameFiles_ensureDirectory hdir
  | cons name above ih =>
    rw [ensureDirectoriesFrom] at h
    split at h
    · rcases habove : t.ensureDirectoriesFrom cwd root above with fault | t₁ <;>
        simp only [habove, bind, Except.bind] at h
      · cases h
      · rcases hdir : t₁.ensureDirectory cwd ⟨root, (name :: above).reverse⟩ with fault | t₂ <;>
          rw [hdir] at h <;> cases h
        exact (ih habove).trans (sameFiles_ensureDirectory hdir)
    · cases h
    · next hdir =>
      cases h
      exact sameFiles_ensureDirectory hdir

/-- Making directories changes no file. -/
theorem sameFiles_ensureDirectories {cwd : Location} {p : Path} {t' : FileTree}
    (h : t.ensureDirectories cwd p = .ok t') : t.SameFiles but t' :=
  sameFiles_ensureDirectoriesFrom h

end FileTree

end LicenseAudit
