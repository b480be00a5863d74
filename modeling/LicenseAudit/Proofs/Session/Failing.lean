import LicenseAudit.Proofs.Session.Perform

/-!
# Why runs fail

A run that fails leaves the session in which it failed, and what made it fail is still there to be
seen. `Run.FailsFor` says that every failure of a run has its cause in the session that the run
leaves behind. It is closed under `bind`, where the second step starts from what the first one gave
(`Run.FailsFor.bind`), so the causes of a run are those of its steps.
-/

namespace LicenseAudit

open Text

variable {α β : Type} {s : Session} {f : Failure} {p : Path}
  {P : Session → Failure → Prop}

namespace Run

/-- Where a run fails, its failure has a cause in the session that it leaves behind. -/
def FailsFor (P : Session → Failure → Prop) (m : Run α) (s : Session) : Prop :=
  ∀ f s', m.perform s = (.error f, s') → P s' f

theorem failsFor_pure (a : α) : FailsFor P (pure a) s := fun f s' h => by simp at h

theorem failsFor_fail (h : P s f) : FailsFor P (fail f : Run α) s := fun f' s' he => by
  cases he
  exact h

/-- The causes of a run in two steps are those of its steps. -/
theorem FailsFor.bind {m : Run α} {g : α → Run β} (hm : FailsFor P m s)
    (hg : ∀ a s₁, m.perform s = (.ok a, s₁) → FailsFor P (g a) s₁) : FailsFor P (m >>= g) s := by
  intro f s' h
  rcases perform_bind_eq_error_iff.1 h with h | ⟨a, s₁, h₁, h⟩
  · exact hm f s' h
  · exact hg a s₁ h₁ f s' h

/-- A failure that is caught is no failure; what it is answered with may fail. -/
theorem FailsFor.tryCatch {m : Run α} {g : Failure → Run α}
    (h : ∀ f s₁, m.perform s = (.error f, s₁) → FailsFor P (g f) s₁) :
    FailsFor P (tryCatch m g) s := by
  intro f s' he
  rw [perform_tryCatch] at he
  rcases hm : m.perform s with ⟨f₁ | a, s₁⟩ <;> rw [hm] at he
  · exact h f₁ s₁ hm f s' he
  · cases he

/-- A run that only looks fails in a session that it has kept. -/
theorem FailsFor.and_keeps {m : Run α} {s₀ : Session} (h : FailsFor P m s) (hm : Looks m)
    (hk : s₀.Keeps s) : FailsFor (fun s' f => s₀.Keeps s' ∧ P s' f) m s :=
  fun f s' he => ⟨hk.trans (hm.keeps he), h f s' he⟩

theorem FailsFor.look_bind {g : FileTree → Location → α} {m : α → Run β}
    (h : FailsFor P (m (g s.tree s.workingDirectory)) s) : FailsFor P (look g >>= m) s := by
  intro f s' he
  rw [perform_look_bind] at he
  exact h f s' he

theorem FailsFor.logAll_bind {rs : List LogRecord} {m : Unit → Run β}
    (h : FailsFor P (m ()) (rs.foldl Session.log s)) : FailsFor P (logAll rs >>= m) s := by
  intro f s' he
  rw [perform_logAll_bind] at he
  exact h f s' he

theorem FailsFor.log_bind {level : Level} {message : Text} {m : Unit → Run β}
    (h : FailsFor P (m ()) (s.log ⟨level, message⟩)) : FailsFor P (log level message >>= m) s := by
  intro f s' he
  rw [perform_log_bind] at he
  exact h f s' he

theorem FailsFor.ite {c : Prop} [Decidable c] {m n : Run α} (hm : c → FailsFor P m s)
    (hn : ¬c → FailsFor P n s) : FailsFor P (if c then m else n) s := by
  split
  · next h => exact hm h
  · next h => exact hn h

/-! ## Files -/

theorem failsFor_checkPath (hp : p.holdsNull = false) : FailsFor P (checkPath p) s := by
  rw [checkPath, hp, if_neg Bool.false_ne_true]
  exact failsFor_pure _

/-- It is a failure to ask for what a path names that is too long. -/
theorem failsFor_find?
    (h : s.tree.locate s.workingDirectory p = .error .nameTooLong → P s (.file .nameTooLong p)) :
    FailsFor P (find? p) s := by
  rw [find?]
  refine .ite (fun _ => failsFor_pure _) fun _ => .look_bind ?_
  split
  · next hl => exact failsFor_fail (h hl)
  · exact failsFor_pure _
  · exact fun f s' h => by simp at h

section Accounted

variable (hfile : ∀ s fault q, P s (.file fault q))

include hfile

theorem failsFor_isFile (p : Path) : FailsFor P (isFile p) s :=
  (failsFor_find? fun _ => hfile _ _ _).bind fun _ _ _ => failsFor_pure _

theorem failsFor_isDirectory (p : Path) : FailsFor P (isDirectory p) s :=
  (failsFor_find? fun _ => hfile _ _ _).bind fun _ _ _ => failsFor_pure _

theorem failsFor_readBytes (hp : p.holdsNull = false) : FailsFor P (readBytes p) s := by
  refine (failsFor_checkPath hp).bind fun _ _ _ => .look_bind ?_
  split
  · exact failsFor_pure _
  · exact failsFor_fail (hfile _ _ _)

/-- A file that can be read but is no text makes reading its text fail. -/
theorem failsFor_readText (hp : p.holdsNull = false)
    (htext : ∀ content m, s.tree.read s.workingDirectory p = .ok content →
      Utf8.decode content = .error m → P s (.malformedText m)) : FailsFor P (readText p) s := by
  refine (failsFor_readBytes hfile hp).bind fun content s₁ hbytes => ?_
  obtain ⟨rfl, hread⟩ := readBytes_eq_ok hbytes
  split
  · exact failsFor_pure _
  · next m hdecode => exact failsFor_fail (htext content m hread hdecode)

theorem failsFor_writeBytes (hp : p.holdsNull = false) (content : Bytes) :
    FailsFor P (writeBytes p content) s := by
  refine (failsFor_checkPath hp).bind fun _ _ _ => .look_bind ?_
  split
  · exact fun f s' h => by cases h
  · exact failsFor_fail (hfile _ _ _)

end Accounted

end Run

end LicenseAudit
