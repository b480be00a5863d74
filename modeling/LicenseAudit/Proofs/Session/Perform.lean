import LicenseAudit.Proofs.Tree.Locations
import LicenseAudit.Session
import Mathlib.Tactic.Choose

/-!
# Runs performed in a session

`Run.perform` is what a run gives and the session that it leaves behind. A run that gives a result
has given one at each of its steps (`Run.perform_bind_eq_ok_iff`), so a performed run is read by
taking it apart from the front.

Most of what is done in a session is looking. `Session.Keeps` relates sessions that differ in
records and output only, as long as the log goes to no file; a run that `Run.Looks` keeps its
session in this sense, and what it gives depends on the tree and the working directory alone. So
looking again later gives the same (`Run.Looks.again`).
-/

namespace LicenseAudit

variable {α β : Type} {s s' s₁ s₂ s₃ : Session} {f : Failure}

theorem eq_ok_of_toOption {ε : Type} {r : Except ε α} {a : α} (h : r.toOption = some a) :
    r = .ok a := by
  cases r <;> simp_all [Except.toOption]

namespace Run

/-- What a run gives and the session that it leaves behind. -/
def perform (m : Run α) (s : Session) : Except Failure α × Session := (ExceptT.run m).run s

theorem perform_eq_of_fst {m : Run α} {r : Except Failure α} (h : (m.perform s).1 = r) :
    m.perform s = (r, (m.perform s).2) :=
  Prod.ext h rfl

@[simp]
theorem perform_pure (a : α) : (pure a : Run α).perform s = (.ok a, s) := rfl

@[simp]
theorem perform_fail : (fail f : Run α).perform s = (.error f, s) := rfl

@[simp]
theorem perform_get : (get : Run Session).perform s = (.ok s, s) := rfl

@[simp]
theorem perform_look (g : FileTree → Location → α) :
    (look g).perform s = (.ok (g s.tree s.workingDirectory), s) := rfl

@[simp]
theorem perform_logAll (rs : List LogRecord) :
    (logAll rs).perform s = (.ok (), rs.foldl Session.log s) := rfl

@[simp]
theorem perform_log (level : Level) (message : Text) :
    (log level message).perform s = (.ok (), s.log ⟨level, message⟩) := rfl

theorem perform_bind (m : Run α) (g : α → Run β) :
    (m >>= g).perform s =
      match m.perform s with
      | (.ok a, s₁) => (g a).perform s₁
      | (.error f, s₁) => (.error f, s₁) := by
  simp only [perform, ExceptT.run_bind, StateT.run_bind]
  rcases (ExceptT.run m).run s with ⟨_ | _, _⟩ <;> rfl

theorem perform_tryCatch (m : Run α) (g : Failure → Run α) :
    (tryCatch m g).perform s =
      match m.perform s with
      | (.ok a, s₁) => (.ok a, s₁)
      | (.error f, s₁) => (g f).perform s₁ := by
  simp only [perform, tryCatch, tryCatchThe, MonadExceptOf.tryCatch, ExceptT.tryCatch,
    ExceptT.run, ExceptT.mk, StateT.run_bind]
  rcases StateT.run m s with ⟨_ | _, _⟩ <;> rfl

@[simp]
theorem perform_get_bind (g : Session → Run β) : (get >>= g).perform s = (g s).perform s := by
  rw [perform_bind, perform_get]

@[simp]
theorem perform_look_bind (h : FileTree → Location → α) (g : α → Run β) :
    (look h >>= g).perform s = (g (h s.tree s.workingDirectory)).perform s := by
  rw [perform_bind, perform_look]

@[simp]
theorem perform_logAll_bind (rs : List LogRecord) (g : Unit → Run β) :
    (logAll rs >>= g).perform s = (g ()).perform (rs.foldl Session.log s) := by
  rw [perform_bind, perform_logAll]

@[simp]
theorem perform_log_bind (level : Level) (message : Text) (g : Unit → Run β) :
    (log level message >>= g).perform s = (g ()).perform (s.log ⟨level, message⟩) := by
  rw [perform_bind, perform_log]

/-- A run in two steps gives a result just when both of its steps do. -/
theorem perform_bind_eq_ok_iff {m : Run α} {g : α → Run β} {b : β} :
    (m >>= g).perform s = (.ok b, s') ↔
      ∃ a s₁, m.perform s = (.ok a, s₁) ∧ (g a).perform s₁ = (.ok b, s') := by
  rw [perform_bind]
  rcases m.perform s with ⟨_ | a, s₁⟩
  · simp
  · simp only [Prod.mk.injEq, Except.ok.injEq]
    exact ⟨fun h => ⟨a, s₁, ⟨rfl, rfl⟩, h⟩, by rintro ⟨_, _, ⟨rfl, rfl⟩, h⟩; exact h⟩

/-- A run in two steps fails just when its first step does, or when it gives something with which
the second one fails. -/
theorem perform_bind_eq_error_iff {m : Run α} {g : α → Run β} :
    (m >>= g).perform s = (.error f, s') ↔ m.perform s = (.error f, s') ∨
      ∃ a s₁, m.perform s = (.ok a, s₁) ∧ (g a).perform s₁ = (.error f, s') := by
  rw [perform_bind]
  rcases m.perform s with ⟨e | a, s₁⟩
  · simp
  · simp only [Prod.mk.injEq, Except.ok.injEq, reduceCtorEq, false_and, false_or]
    exact ⟨fun h => ⟨a, s₁, ⟨rfl, rfl⟩, h⟩, by rintro ⟨_, _, ⟨rfl, rfl⟩, h⟩; exact h⟩

end Run

/-! ## What records leave alone -/

/-- The second session comes from the first by records and output; the tree is the same unless
records go to a log file, and then it is the same elsewhere. -/
structure Session.Keeps (s s' : Session) : Prop where
  workingDirectory : s'.workingDirectory = s.workingDirectory
  currentYear : s'.currentYear = s.currentYear
  logFile : s'.logFile = s.logFile
  tree : s.logFile = none → s'.tree = s.tree
  elsewhere : ∀ loc, s.logFile ≠ some loc → s'.tree.get? loc = s.tree.get? loc

namespace Session

theorem Keeps.refl (s : Session) : s.Keeps s := ⟨rfl, rfl, rfl, fun _ => rfl, fun _ _ => rfl⟩

theorem Keeps.trans (h₁ : s₁.Keeps s₂) (h₂ : s₂.Keeps s₃) : s₁.Keeps s₃ where
  workingDirectory := h₂.workingDirectory.trans h₁.workingDirectory
  currentYear := h₂.currentYear.trans h₁.currentYear
  logFile := h₂.logFile.trans h₁.logFile
  tree h := (h₂.tree (h₁.logFile.trans h)).trans (h₁.tree h)
  elsewhere loc h := (h₂.elsewhere loc (h₁.logFile ▸ h)).trans (h₁.elsewhere loc h)

theorem Keeps.symm (h : s₁.Keeps s₂) : s₂.Keeps s₁ where
  workingDirectory := h.workingDirectory.symm
  currentYear := h.currentYear.symm
  logFile := h.logFile.symm
  tree hl := (h.tree (h.logFile.symm.trans hl)).symm
  elsewhere loc hl := (h.elsewhere loc (h.logFile.symm ▸ hl)).symm

/-- A record that is shown goes to the log file and to no other. -/
theorem keeps_display (s : Session) (r : LogRecord) : s.Keeps (s.display r) where
  workingDirectory := rfl
  currentYear := rfl
  logFile := rfl
  tree h := by simp [display, h]
  elsewhere loc h := by
    rw [display]
    split
    · next l hl => exact FileTree.get?_put_of_ne fun heq => h (heq ▸ hl)
    · rfl

theorem keeps_log (s : Session) (r : LogRecord) : s.Keeps (s.log r) := by
  have hrecord : s.Keeps { s with records := s.records.push r } :=
    ⟨rfl, rfl, rfl, fun _ => rfl, fun _ _ => rfl⟩
  simp only [log]
  split
  · split
    · exact hrecord.trans (keeps_display _ r)
    · exact hrecord
  · exact hrecord

/-- Output changes nothing else. -/
theorem keeps_output (s : Session) (output : Array Text) : s.Keeps { s with output } :=
  ⟨rfl, rfl, rfl, fun _ => rfl, fun _ _ => rfl⟩

theorem keeps_foldl_log (s : Session) (rs : List LogRecord) : s.Keeps (rs.foldl log s) := by
  induction rs generalizing s with
  | nil => exact .refl s
  | cons r rs ih => exact (s.keeps_log r).trans (ih _)

end Session

/-! ## Runs that only look -/

namespace Run

/-- A run keeps every session, and while no log is written what it gives is a function of the tree
and the working directory. -/
def Looks (m : Run α) : Prop :=
  ∃ given : FileTree → Location → Except Failure α, ∀ s : Session,
    s.Keeps (m.perform s).2 ∧
      (s.logFile = none → (m.perform s).1 = given s.tree s.workingDirectory)

theorem looks_pure (a : α) : Looks (pure a) :=
  ⟨fun _ _ => .ok a, fun s => ⟨.refl s, fun _ => rfl⟩⟩

theorem looks_fail : Looks (fail f : Run α) :=
  ⟨fun _ _ => .error f, fun s => ⟨.refl s, fun _ => rfl⟩⟩

theorem looks_look (g : FileTree → Location → α) : Looks (look g) :=
  ⟨fun t cwd => .ok (g t cwd), fun s => ⟨.refl s, fun _ => rfl⟩⟩

theorem looks_logAll (rs : List LogRecord) : Looks (logAll rs) :=
  ⟨fun _ _ => .ok (), fun s => ⟨s.keeps_foldl_log rs, fun _ => rfl⟩⟩

theorem looks_log (level : Level) (message : Text) : Looks (log level message) :=
  looks_logAll _

theorem Looks.bind {m : Run α} {g : α → Run β} (hm : Looks m) (hg : ∀ a, Looks (g a)) :
    Looks (m >>= g) := by
  obtain ⟨given, hm⟩ := hm
  choose next hg using hg
  refine ⟨fun t cwd => (given t cwd).bind fun a => next a t cwd, fun s => ?_⟩
  obtain ⟨hk, hr⟩ := hm s
  rw [perform_bind]
  rcases hs : m.perform s with ⟨e | a, s₁⟩
  · rw [hs] at hk hr
    exact ⟨hk, fun hl => by simp [← hr hl, Except.bind]⟩
  · rw [hs] at hk hr
    obtain ⟨hk₁, hr₁⟩ := hg a s₁
    refine ⟨hk.trans hk₁, fun hl => ?_⟩
    have hnext := hr₁ (hk.logFile.trans hl)
    rw [hk.tree hl, hk.workingDirectory] at hnext
    simpa [← hr hl, Except.bind] using hnext

theorem Looks.tryCatch {m : Run α} {g : Failure → Run α} (hm : Looks m) (hg : ∀ f, Looks (g f)) :
    Looks (tryCatch m g) := by
  obtain ⟨given, hm⟩ := hm
  choose next hg using hg
  refine ⟨fun t cwd => match given t cwd with
    | .ok a => .ok a
    | .error f => next f t cwd, fun s => ?_⟩
  obtain ⟨hk, hr⟩ := hm s
  rw [perform_tryCatch]
  rcases hs : m.perform s with ⟨f | a, s₁⟩ <;> rw [hs] at hk hr
  · obtain ⟨hk₁, hr₁⟩ := hg f s₁
    refine ⟨hk.trans hk₁, fun hl => ?_⟩
    have hnext := hr₁ (hk.logFile.trans hl)
    rw [hk.tree hl, hk.workingDirectory] at hnext
    simpa [← hr hl] using hnext
  · exact ⟨hk, fun hl => by simp [← hr hl]⟩

theorem Looks.ite {p : Prop} [Decidable p] {m n : Run α} (hm : Looks m) (hn : Looks n) :
    Looks (if p then m else n) := by
  split
  · exact hm
  · exact hn

/-- A run that asks for the session and uses no more of it than the working directory. -/
theorem looks_get_bind {g : Session → Run β}
    (hsame : ∀ s s' : Session, s.workingDirectory = s'.workingDirectory → g s = g s')
    (hg : ∀ s, Looks (g s)) : Looks (get >>= g) := by
  choose next hg using hg
  let seen (t : FileTree) (cwd : Location) : Session :=
    { tree := t, workingDirectory := cwd, currentYear := 0, timeStamp := [] }
  refine ⟨fun t cwd => next (seen t cwd) t cwd, fun s => ?_⟩
  rw [perform_bind, perform_get]
  dsimp only
  rw [hsame s (seen s.tree s.workingDirectory) rfl]
  exact hg _ s

theorem Looks.keeps {m : Run α} (hm : Looks m) {r : Except Failure α}
    (h : m.perform s = (r, s')) : s.Keeps s' := by
  obtain ⟨_, hm⟩ := hm
  simpa [h] using (hm s).1

/-- A look gives the same in a session that was kept. -/
theorem Looks.again {m : Run α} (hm : Looks m) (hk : s.Keeps s₁) (hl : s.logFile = none) :
    (m.perform s₁).1 = (m.perform s).1 := by
  obtain ⟨given, hm⟩ := hm
  rw [(hm s₁).2 (hk.logFile.trans hl), (hm s).2 hl, hk.tree hl, hk.workingDirectory]

/-- A look goes on, in a session that was kept, with what it gives in the first one. -/
theorem Looks.perform_bind {m : Run α} (hm : Looks m) (hk : s.Keeps s₁) (hl : s.logFile = none)
    {a : α} (h : (m.perform s).1 = .ok a) :
    ∃ s₂, s.Keeps s₂ ∧ ∀ g : α → Run β, (m >>= g).perform s₁ = (g a).perform s₂ := by
  rcases hs : m.perform s₁ with ⟨r, s₂⟩
  obtain rfl : r = .ok a := by rw [← h, ← hm.again hk hl, hs]
  exact ⟨s₂, hk.trans (hm.keeps hs), fun g => by rw [Run.perform_bind, hs]⟩

/-- Where a run that starts with a look gives a result, the look has given one, the same as in a
session that was kept since. -/
theorem Looks.bind_eq_ok {m : Run α} {g : α → Run β} {b : β} (hm : Looks m) (hk : s.Keeps s₁)
    (hl : s.logFile = none) (h : (m >>= g).perform s₁ = (.ok b, s')) :
    ∃ a s₂, (m.perform s).1 = .ok a ∧ s.Keeps s₂ ∧ (g a).perform s₂ = (.ok b, s') := by
  obtain ⟨a, s₂, hs, h⟩ := perform_bind_eq_ok_iff.1 h
  exact ⟨a, s₂, by rw [← hm.again hk hl, hs], hk.trans (hm.keeps hs), h⟩

/-- While no log is written, a look in two steps gives what its second step gives for its first,
both of them in the same session. -/
theorem Looks.fst_perform_bind {m : Run α} {g : α → Run β} (hm : Looks m) (hg : ∀ a, Looks (g a))
    (hl : s.logFile = none) :
    ((m >>= g).perform s).1 = (m.perform s).1.bind fun a => ((g a).perform s).1 := by
  rw [Run.perform_bind]
  rcases hs : m.perform s with ⟨_ | a, s₁⟩
  · rfl
  · exact (hg a).again (hm.keeps hs) hl

/-! ## Looking at files -/

theorem looks_find? (p : Path) : Looks (find? p) := by
  rw [find?]
  refine (looks_pure _).ite ((looks_look _).bind fun r => ?_)
  split
  · exact looks_fail
  · exact looks_pure _
  · exact looks_look _

theorem looks_has (p : Path) : Looks (has p) := (looks_find? p).bind fun _ => looks_pure _

theorem looks_isFile (p : Path) : Looks (isFile p) := (looks_find? p).bind fun _ => looks_pure _

theorem looks_isDirectory (p : Path) : Looks (isDirectory p) :=
  (looks_find? p).bind fun _ => looks_pure _

theorem checkPath_eq {p : Path} (hp : p.holdsNull = false) : checkPath p = pure () := by
  simp [checkPath, hp]

theorem looks_checkPath (p : Path) : Looks (checkPath p) := looks_fail.ite (looks_pure _)

theorem looks_readBytes (p : Path) : Looks (readBytes p) := by
  refine (looks_checkPath p).bind fun _ => (looks_look _).bind fun r => ?_
  split
  · exact looks_pure _
  · exact looks_fail

theorem looks_readText (p : Path) : Looks (readText p) := by
  refine (looks_readBytes p).bind fun content => ?_
  split
  · exact looks_pure _
  · exact looks_fail

/-- What a path is found to name is what stands where it leads. -/
theorem find?_eq_ok {p : Path} {found : Option Node} (h : (find? p).perform s = (.ok found, s')) :
    s' = s ∧ found = s.tree.find? s.workingDirectory p := by
  rw [find?] at h
  split at h
  · next hn =>
    cases h
    refine ⟨rfl, ?_⟩
    rcases hfind : s.tree.find? s.workingDirectory p with _ | n
    · rfl
    · simp [FileTree.holdsNull_of_find? hfind] at hn
  · rw [perform_look_bind] at h
    rw [FileTree.find?]
    split at h
    · simp at h
    · next hl => cases h; simp [hl]
    · next hl =>
      rw [perform_look] at h
      cases h
      simp [hl]

/-- A path that names something is found to name it. -/
theorem perform_find? {p : Path} {n : Node}
    (h : s.tree.find? s.workingDirectory p = some n) : (find? p).perform s = (.ok (some n), s) := by
  have hp := FileTree.holdsNull_of_find? h
  obtain ⟨hloc, hget⟩ := FileTree.find?_eq_some_iff.1 h
  rw [find?, if_neg (by simp [hp]), perform_look_bind, hloc]
  dsimp only
  rw [perform_look, hget]

theorem perform_isFile {p : Path} (h : s.tree.isFile s.workingDirectory p = true) :
    (isFile p).perform s = (.ok true, s) := by
  obtain ⟨content, access, hfind⟩ := FileTree.isFile_iff.1 h
  rw [isFile, perform_bind, perform_find? hfind]
  rfl

/-- A directory is found to be one and not to be a file. -/
theorem perform_of_isDirectory {p : Path} (h : s.tree.isDirectory s.workingDirectory p = true) :
    (isDirectory p).perform s = (.ok true, s) ∧ (isFile p).perform s = (.ok false, s) := by
  have hfind := FileTree.isDirectory_iff.1 h
  rw [isDirectory, isFile, perform_bind, perform_bind, perform_find? hfind]
  exact ⟨rfl, rfl⟩

/-- What can be read is read. -/
theorem perform_readBytes {p : Path} {content : Bytes}
    (h : s.tree.read s.workingDirectory p = .ok content) :
    (readBytes p).perform s = (.ok content, s) := by
  have hp := FileTree.holdsNull_of_isFile (FileTree.isFile_of_read h)
  rw [readBytes, checkPath_eq hp, pure_bind, perform_look_bind, h]
  rfl

theorem has_eq_ok {p : Path} {b : Bool} (h : (has p).perform s = (.ok b, s')) :
    s' = s ∧ (b = true → p.holdsNull = false) := by
  obtain ⟨found, s₁, hfound, h⟩ := perform_bind_eq_ok_iff.1 h
  obtain ⟨rfl, rfl⟩ := find?_eq_ok hfound
  cases h
  refine ⟨rfl, fun hsome => ?_⟩
  obtain ⟨n, hfind⟩ := Option.isSome_iff_exists.1 hsome
  exact FileTree.holdsNull_of_find? hfind

/-- What a path has is something that stands where it leads. -/
theorem isSome_find?_of_has {p : Path} (h : (has p).perform s = (.ok true, s')) :
    (s.tree.find? s.workingDirectory p).isSome = true := by
  obtain ⟨found, s₁, hfound, h⟩ := perform_bind_eq_ok_iff.1 h
  obtain ⟨-, rfl⟩ := find?_eq_ok hfound
  exact Except.ok.inj (Prod.mk.inj h).1

theorem isFile_eq_ok {p : Path} {b : Bool} (h : (isFile p).perform s = (.ok b, s')) :
    s' = s ∧ b = s.tree.isFile s.workingDirectory p := by
  obtain ⟨found, s₁, hfound, h⟩ := perform_bind_eq_ok_iff.1 h
  obtain ⟨rfl, rfl⟩ := find?_eq_ok hfound
  cases h
  refine ⟨rfl, ?_⟩
  rw [FileTree.isFile]
  rcases s'.tree.find? s'.workingDirectory p with _ | _ | _ <;> rfl

/-- The path of a file can name something. -/
theorem holdsNull_of_isFile_eq_ok {p : Path} {b : Bool}
    (h : (isFile p).perform s = (.ok b, s')) (hb : b = true) : p.holdsNull = false := by
  obtain ⟨-, rfl⟩ := isFile_eq_ok h
  exact FileTree.holdsNull_of_isFile hb

theorem isDirectory_eq_ok {p : Path} {b : Bool} (h : (isDirectory p).perform s = (.ok b, s')) :
    s' = s ∧ b = s.tree.isDirectory s.workingDirectory p := by
  obtain ⟨found, s₁, hfound, h⟩ := perform_bind_eq_ok_iff.1 h
  obtain ⟨rfl, rfl⟩ := find?_eq_ok hfound
  cases h
  refine ⟨rfl, ?_⟩
  rw [FileTree.isDirectory]
  rcases s'.tree.find? s'.workingDirectory p with _ | _ | _ <;> rfl

theorem checkPath_eq_ok {p : Path} {u : Unit} (h : (checkPath p).perform s = (.ok u, s')) :
    s' = s ∧ p.holdsNull = false := by
  rw [checkPath] at h
  split at h
  · simp at h
  · next hp =>
    cases h
    exact ⟨rfl, by simpa using hp⟩

theorem readBytes_eq_ok {p : Path} {content : Bytes}
    (h : (readBytes p).perform s = (.ok content, s')) :
    s' = s ∧ s.tree.read s.workingDirectory p = .ok content := by
  obtain ⟨_, s₁, hcheck, hlook⟩ := perform_bind_eq_ok_iff.1 h
  obtain rfl := (checkPath_eq_ok hcheck).1
  rw [perform_look_bind] at hlook
  split at hlook
  · next hread =>
    cases hlook
    exact ⟨rfl, hread⟩
  · simp at hlook

/-! ## Writing files -/

/-- What is written changes the tree as writing does, and nothing else in the session. -/
theorem writeBytes_eq_ok {p : Path} {content : Bytes} {u : Unit}
    (h : (writeBytes p content).perform s = (.ok u, s')) :
    ∃ tree, s.tree.write s.workingDirectory p content = .ok tree ∧ s' = { s with tree } := by
  obtain ⟨_, s₁, hcheck, hlook⟩ := perform_bind_eq_ok_iff.1 h
  obtain rfl := (checkPath_eq_ok hcheck).1
  rw [perform_look_bind] at hlook
  split at hlook
  · next tree hwrite =>
    cases hlook
    exact ⟨tree, hwrite, rfl⟩
  · simp at hlook

end Run

end LicenseAudit
