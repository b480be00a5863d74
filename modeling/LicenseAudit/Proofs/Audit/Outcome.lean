import LicenseAudit.Audit
import LicenseAudit.Proofs.Session.Perform
import LicenseAudit.Proofs.Tree.Locations

/-!
# The outcome of one file

What becomes of a file in an audit is decided by what the tree holds at its location
(`FileTree.verdict?`), and it can change nothing but what stands there: `Run.perform_auditFile` says
what an audit does with one file, whatever that is.

Trees of one shape that hold the same at the location of a file give the file the same outcome
(`FileTree.SameShape.outcome_eq`). This is why files do not get into each other's way.
-/

namespace LicenseAudit

open Text

namespace FileTree

variable {t : FileTree} {cwd : Location} {p : Path} {v : Verdict} {f : Failure}

/-- The text of a file, or why it cannot be read. -/
def text? (t : FileTree) (cwd : Location) (p : Path) : Except Failure Text :=
  match t.read cwd p with
  | .error fault => .error (.file fault p)
  | .ok content => (Utf8.decode content).mapError .malformedText

theorem text?_eq_ok_iff {s : Text} : t.text? cwd p = .ok s ↔
    ∃ content, t.read cwd p = .ok content ∧ Utf8.decode content = .ok s := by
  rw [text?]
  rcases t.read cwd p with fault | content
  · simp
  · rcases hd : Utf8.decode content with m | s' <;> simp [Except.mapError, hd]

theorem text?_eq_error_iff : t.text? cwd p = .error f ↔
    (∃ fault, t.read cwd p = .error fault ∧ f = .file fault p) ∨
      ∃ content m, t.read cwd p = .ok content ∧ Utf8.decode content = .error m ∧
        f = .malformedText m := by
  rw [text?]
  rcases t.read cwd p with fault | content
  · simp [eq_comm]
  · rcases hd : Utf8.decode content with m | s' <;> simp [Except.mapError, hd, eq_comm]

/-- The verdict on a file, or why it does not hold: the new text has to be written. -/
def settle (t : FileTree) (cwd : Location) (p : Path) (v : Verdict) : Except Failure Verdict :=
  match v.newText?, t.writable cwd p with
  | some _, .error fault => .error (.file fault p)
  | _, _ => .ok v

theorem settle_eq_ok_iff {v' : Verdict} : t.settle cwd p v = .ok v' ↔
    v = v' ∧ (v.isFixed = true → ∃ loc, t.writable cwd p = .ok loc) := by
  rw [settle, Verdict.isFixed]
  rcases v.newText? with _ | new
  · simp
  · rcases t.writable cwd p with fault | loc <;> simp

theorem settle_eq_error_iff : t.settle cwd p v = .error f ↔
    ∃ new fault, v.newText? = some new ∧ t.writable cwd p = .error fault ∧ .file fault p = f := by
  rw [settle]
  rcases v.newText? with _ | new
  · simp
  · rcases t.writable cwd p with fault | loc <;> simp

/-- The verdict on a file, or why there is none. -/
def verdict? (t : FileTree) (cwd : Location) (order : Order) (p : Path) : Except Failure Verdict :=
  match t.text? cwd p, lookupGrammar? builtinGrammars p.toText with
  | .error f, _ => .error f
  | .ok _, none => .error (.noGrammar p.toText)
  | .ok s, some g => t.settle cwd p (checkWith g p order s)

end FileTree

/-- The outcome of a file with a verdict or a reason why there is none. -/
def FileOutcome.of (p : Path) : Except Failure Verdict → FileOutcome
  | .ok v => .checked v
  | .error f => .failed p f

/-- What becomes of a file in an audit. -/
def FileTree.outcome (t : FileTree) (cwd : Location) (order : Order) (p : Path) : FileOutcome :=
  .of p (t.verdict? cwd order p)

/-- The new text of a file that was fixed. -/
def FileOutcome.newText? : FileOutcome → Option Text
  | .checked v => v.newText?
  | .failed .. => none

/-- What stands where a file was checked, after its outcome. -/
def FileOutcome.leave (o : FileOutcome) : Node → Node
  | .directory => .directory
  | .file content access => .file ((o.newText?.map Utf8.encode).getD content) access

theorem FileOutcome.leave_eq_id {o : FileOutcome} (h : o.newText? = none) : o.leave = id := by
  funext n
  cases n <;> simp [leave, h]

/-- The tree after the outcome of the file at a location. -/
def FileTree.after (t : FileTree) (loc : Location) (o : FileOutcome) : FileTree :=
  match o.newText? with
  | some new => t.put loc (Utf8.encode new)
  | none => t

/-! ## How a file is checked -/

/-- The second session comes from the first with a tree; no log is written in it. -/
structure Session.Turns (s : Session) (t : FileTree) (s' : Session) : Prop where
  logFile : s'.logFile = none
  workingDirectory : s'.workingDirectory = s.workingDirectory
  tree : s'.tree = t

namespace Session

variable {s s₁ s₂ : Session} {t : FileTree}

theorem Turns.refl (hl : s.logFile = none) : s.Turns s.tree s := ⟨hl, rfl, rfl⟩

theorem Turns.keeps (h : s.Turns t s₁) (hk : s₁.Keeps s₂) : s.Turns t s₂ :=
  ⟨hk.logFile.trans h.logFile, hk.workingDirectory.trans h.workingDirectory,
    (hk.tree h.logFile).trans h.tree⟩

theorem Turns.of_keeps (h : s₁.Turns t s₂) (hk : s.Keeps s₁) : s.Turns t s₂ :=
  ⟨h.logFile, h.workingDirectory.trans hk.workingDirectory, h.tree⟩

end Session

namespace Run

variable {s : Session} {p : Path} (hp : p.holdsNull = false)

include hp

theorem perform_readText : (readText p).perform s = (s.tree.text? s.workingDirectory p, s) := by
  rw [readText, perform_bind, readBytes, checkPath_eq hp, pure_bind, perform_look_bind,
    FileTree.text?]
  rcases s.tree.read s.workingDirectory p with fault | content
  · rfl
  · dsimp only [perform_pure]
    rcases Utf8.decode content with m | text <;> rfl

theorem perform_writeText (new : Text) : (writeText p new).perform s =
    match s.tree.writable s.workingDirectory p with
    | .ok loc => (.ok (), { s with tree := s.tree.put loc (Utf8.encode new) })
    | .error fault => (.error (.file fault p), s) := by
  rw [writeText, writeBytes, checkPath_eq hp, pure_bind, perform_look_bind, FileTree.write]
  rcases s.tree.writable s.workingDirectory p with fault | loc <;> rfl

/-- A verdict is settled: where there is a new text it is written, and where it cannot be the file
fails. -/
theorem perform_settle (hl : s.logFile = none) (v : Verdict) (message : Text) : ∃ s',
    (match v.newText? with
      | none => pure v
      | some new => do
        writeText p new
        log .info message
        return v : Run Verdict).perform s = (s.tree.settle s.workingDirectory p v, s') ∧
      s.Turns (s.tree.after (p.resolve s.workingDirectory)
        (.of p (s.tree.settle s.workingDirectory p v))) s' := by
  rcases hnew : v.newText? with _ | new
  · have hok : s.tree.settle s.workingDirectory p v = .ok v := by simp [FileTree.settle, hnew]
    refine ⟨s, by rw [hok]; rfl, ?_⟩
    simpa [hok, FileOutcome.of, FileTree.after, FileOutcome.newText?, hnew] using
      Session.Turns.refl hl
  · dsimp only
    rw [perform_bind, perform_writeText hp]
    rcases hw : s.tree.writable s.workingDirectory p with fault | loc
    · have herror : s.tree.settle s.workingDirectory p v = .error (.file fault p) := by
        simp [FileTree.settle, hnew, hw]
      exact ⟨s, by rw [herror], by rw [herror]; exact .refl hl⟩
    · have hok : s.tree.settle s.workingDirectory p v = .ok v := by
        simp [FileTree.settle, hnew, hw]
      have hturns : s.Turns (s.tree.put loc (Utf8.encode new))
          { s with tree := s.tree.put loc (Utf8.encode new) } := ⟨hl, rfl, rfl⟩
      refine ⟨_, by rw [hok]; rfl, ?_⟩
      rw [hok, FileOutcome.of, FileTree.after, FileOutcome.newText?, hnew,
        ← FileTree.writable_eq_ok hw]
      exact hturns.keeps (Session.keeps_log ..)

/-- Checking a file gives its verdict or the reason why there is none, and where the file was fixed
it is written. -/
theorem perform_checkFile (order : Order) (hl : s.logFile = none) : ∃ s',
    (checkFile order p).perform s = (s.tree.verdict? s.workingDirectory order p, s') ∧
      s.Turns (s.tree.after (p.resolve s.workingDirectory)
        (s.tree.outcome s.workingDirectory order p)) s' := by
  rw [checkFile, perform_bind, perform_readText hp, FileTree.outcome, FileTree.verdict?]
  rcases s.tree.text? s.workingDirectory p with f | text
  · exact ⟨s, rfl, .refl hl⟩
  · dsimp only
    rcases lookupGrammar? builtinGrammars p.toText with _ | g
    · exact ⟨s, rfl, .refl hl⟩
    · dsimp only
      have hk := s.keeps_foldl_log (checkRecords g p.toText order text)
      rw [perform_logAll_bind]
      obtain ⟨s', hs, hturns⟩ :=
        perform_settle hp (hk.logFile.trans hl) (checkWith g p order text) _
      rw [hk.tree hl, hk.workingDirectory] at hs hturns
      exact ⟨s', hs, hturns.of_keeps hk⟩

omit hp in
/-- What stops a file is a matter of the file alone. -/
theorem isLocal_of_verdict? {t : FileTree} {cwd : Location} {order : Order} {f : Failure}
    (h : t.verdict? cwd order p = .error f) : f.isLocal = true := by
  unfold FileTree.verdict? at h
  split at h
  · next hs =>
    cases h
    obtain ⟨_, -, rfl⟩ | ⟨_, _, -, -, rfl⟩ := FileTree.text?_eq_error_iff.1 hs <;> rfl
  · cases h
    rfl
  · obtain ⟨_, _, -, -, rfl⟩ := FileTree.settle_eq_error_iff.1 h
    rfl

/-- What an audit does with one file: it goes on with the outcome, whatever that is. -/
theorem perform_auditFile (order : Order) (hl : s.logFile = none) : ∃ s',
    (auditFile order p).perform s = (.ok (s.tree.outcome s.workingDirectory order p), s') ∧
      s.Turns (s.tree.after (p.resolve s.workingDirectory)
        (s.tree.outcome s.workingDirectory order p)) s' := by
  have hk := s.keeps_log ⟨.info, "- processing " ++ p.toText ++ " ..."⟩
  obtain ⟨s', hs, hturns⟩ := perform_checkFile hp order (hk.logFile.trans hl)
  rw [hk.tree hl, hk.workingDirectory] at hturns
  have hturns := hturns.of_keeps hk
  rw [auditFile, perform_log_bind, perform_tryCatch, perform_bind, hs, hk.tree hl,
    hk.workingDirectory]
  rcases hv : s.tree.verdict? s.workingDirectory order p with f | v
  · dsimp only
    rw [if_pos (isLocal_of_verdict? hv), perform_logAll_bind, perform_pure]
    refine ⟨_, by rw [FileTree.outcome, hv]; rfl, hturns.keeps (Session.keeps_foldl_log ..)⟩
  · exact ⟨s', by rw [FileTree.outcome, hv]; rfl, hturns⟩

end Run

/-! ## What an outcome depends on and what it changes -/

namespace FileTree

variable {t t' : FileTree} {cwd : Location} {order : Order} {p : Path} {v : Verdict} {f : Failure}
  {new : Text}

/-- In trees of one shape a file has one outcome, where it is the same file. -/
theorem SameShape.outcome_eq (h : t.SameShape t')
    (hp : t'.get? (p.resolve cwd) = t.get? (p.resolve cwd)) :
    t'.outcome cwd order p = t.outcome cwd order p := by
  simp only [outcome, verdict?, text?, settle, h.read_eq hp, h.writable_eq hp]

/-- A file is judged: what it holds is a text, and its check gives the verdict. -/
def Judged (t : FileTree) (cwd : Location) (order : Order) (p : Path) (v : Verdict) : Prop :=
  ∃ content s, t.read cwd p = .ok content ∧ Utf8.decode content = .ok s ∧
    checkText? builtinGrammars p.toText order s = some v

/-- What stops the check of a file. -/
inductive Stops (t : FileTree) (cwd : Location) (order : Order) (p : Path) : Failure → Prop
  /-- It cannot be read. -/
  | unreadable {fault : FileFault} (hread : t.read cwd p = .error fault) :
    Stops t cwd order p (.file fault p)
  /-- It is no text. -/
  | undecodable {content : Bytes} {m : Utf8.Malformed} (hread : t.read cwd p = .ok content)
    (hdecode : Utf8.decode content = .error m) : Stops t cwd order p (.malformedText m)
  /-- It is a text of which no grammar is known. -/
  | unsupported {content : Bytes} {s : Text} (hread : t.read cwd p = .ok content)
    (hdecode : Utf8.decode content = .ok s)
    (hgrammar : lookupGrammar? builtinGrammars p.toText = none) :
    Stops t cwd order p (.noGrammar p.toText)
  /-- It has a new text that cannot be written. -/
  | unwritable {v : Verdict} {new : Text} {fault : FileFault} (hjudged : Judged t cwd order p v)
    (hnew : v.newText? = some new) (hwrite : t.writable cwd p = .error fault) :
    Stops t cwd order p (.file fault p)

theorem judged_iff (hp : p.Normal) : Judged t cwd order p v ↔
    ∃ s g, t.text? cwd p = .ok s ∧ lookupGrammar? builtinGrammars p.toText = some g ∧
      v = checkWith g p order s := by
  simp only [Judged, text?_eq_ok_iff, checkText?, Option.map_eq_some_iff, hp.ofText_toText]
  constructor
  · rintro ⟨content, s, hread, hdecode, g, hg, rfl⟩
    exact ⟨s, g, ⟨content, hread, hdecode⟩, hg, rfl⟩
  · rintro ⟨s, g, ⟨content, hread, hdecode⟩, hg, rfl⟩
    exact ⟨content, s, hread, hdecode, g, hg, rfl⟩

/-- A file has a verdict where it is judged and a new text can be written. -/
theorem verdict?_eq_ok_iff (hp : p.Normal) : t.verdict? cwd order p = .ok v ↔
    Judged t cwd order p v ∧ (v.isFixed = true → ∃ loc, t.writable cwd p = .ok loc) := by
  rw [judged_iff hp, verdict?]
  rcases t.text? cwd p with f | s
  · simp
  · rcases lookupGrammar? builtinGrammars p.toText with _ | g
    · simp
    · simp only [settle_eq_ok_iff, Except.ok.injEq, Option.some.injEq]
      constructor
      · rintro ⟨rfl, hw⟩
        exact ⟨⟨s, g, rfl, rfl, rfl⟩, hw⟩
      · rintro ⟨⟨_, _, rfl, rfl, rfl⟩, hw⟩
        exact ⟨rfl, hw⟩

/-- A file has no verdict where something stops its check. -/
theorem verdict?_eq_error_iff (hp : p.Normal) :
    t.verdict? cwd order p = .error f ↔ Stops t cwd order p f := by
  rw [verdict?]
  constructor
  · intro h
    split at h
    · next hs =>
      cases h
      obtain ⟨fault, hread, rfl⟩ | ⟨content, m, hread, hdecode, rfl⟩ := text?_eq_error_iff.1 hs
      · exact .unreadable hread
      · exact .undecodable hread hdecode
    · next s hs hg =>
      cases h
      obtain ⟨content, hread, hdecode⟩ := text?_eq_ok_iff.1 hs
      exact .unsupported hread hdecode hg
    · next s g hs hg =>
      obtain ⟨new, fault, hnew, hwrite, rfl⟩ := settle_eq_error_iff.1 h
      exact .unwritable ((judged_iff hp).2 ⟨s, g, hs, hg, rfl⟩) hnew hwrite
  · rintro (hread | ⟨hread, hdecode⟩ | ⟨hread, hdecode, hg⟩ | ⟨hjudged, hnew, hwrite⟩)
    · rw [text?_eq_error_iff.2 (.inl ⟨_, hread, rfl⟩)]
    · rw [text?_eq_error_iff.2 (.inr ⟨_, _, hread, hdecode, rfl⟩)]
    · rw [text?_eq_ok_iff.2 ⟨_, hread, hdecode⟩, hg]
    · obtain ⟨s, g, hs, hg, rfl⟩ := (judged_iff hp).1 hjudged
      rw [hs, hg]
      exact settle_eq_error_iff.2 ⟨_, _, hnew, hwrite, rfl⟩

theorem verdict?_outcome_eq_some_iff :
    (t.outcome cwd order p).verdict? = some v ↔ t.verdict? cwd order p = .ok v := by
  rw [outcome]
  rcases t.verdict? cwd order p with f | w <;> simp [FileOutcome.of, FileOutcome.verdict?]

theorem failure?_outcome_eq_some_iff {q : Path} :
    (t.outcome cwd order p).failure? = some (q, f) ↔ p = q ∧ t.verdict? cwd order p = .error f := by
  rw [outcome]
  rcases t.verdict? cwd order p with e | w <;> simp [FileOutcome.of, FileOutcome.failure?]

theorem newText?_outcome_eq_some_iff : (t.outcome cwd order p).newText? = some new ↔
    ∃ v, t.verdict? cwd order p = .ok v ∧ v.newText? = some new := by
  rw [outcome]
  rcases t.verdict? cwd order p with f | w <;> simp [FileOutcome.of, FileOutcome.newText?]

theorem exists_checkWith_of_verdict? (h : t.verdict? cwd order p = .ok v) :
    ∃ g s, t.text? cwd p = .ok s ∧ v = checkWith g p order s := by
  unfold verdict? at h
  split at h
  · simp at h
  · simp at h
  · next s g hs hg => exact ⟨g, s, hs, (settle_eq_ok_iff.1 h).1.symm⟩

theorem path_of_verdict? (h : t.verdict? cwd order p = .ok v) : v.path = p := by
  obtain ⟨g, s, -, rfl⟩ := exists_checkWith_of_verdict? h
  rfl

/-- A file that gets a new text was read. -/
theorem exists_file_of_newText? (h : (t.outcome cwd order p).newText? = some new) :
    ∃ old access, t.get? (p.resolve cwd) = some (.file old access) := by
  obtain ⟨v, hv, -⟩ := newText?_outcome_eq_some_iff.1 h
  obtain ⟨g, s, hs, -⟩ := exists_checkWith_of_verdict? hv
  obtain ⟨content, hread, -⟩ := text?_eq_ok_iff.1 hs
  exact ⟨content, read_eq_ok hread⟩

/-- Without an order to fix there is no new text. -/
theorem newText?_outcome_of_fix_eq_false (h : order.fix = false) :
    (t.outcome cwd order p).newText? = none := by
  refine Option.eq_none_iff_forall_ne_some.2 fun new hnew => ?_
  obtain ⟨v, hv, hnew⟩ := newText?_outcome_eq_some_iff.1 hnew
  obtain ⟨g, s, -, rfl⟩ := exists_checkWith_of_verdict? hv
  simp only [Verdict.newText?, checkWith, Document.judge, h, Bool.false_eq_true, ↓reduceIte] at hnew
  split at hnew
  · next hfixed => split at hfixed <;> simp at hfixed
  · simp at hnew

/-- The outcome of a file changes nothing but what the file holds. -/
theorem get?_after_outcome (l : Location) :
    (t.after (p.resolve cwd) (t.outcome cwd order p)).get? l =
      if l = p.resolve cwd then (t.get? l).map (t.outcome cwd order p).leave else t.get? l := by
  rw [after]
  rcases hnew : (t.outcome cwd order p).newText? with _ | new
  · simp [FileOutcome.leave_eq_id hnew]
  · obtain ⟨old, access, hget⟩ := exists_file_of_newText? hnew
    dsimp only
    rw [get?_put hget]
    split
    · next hl => simp [hl, hget, FileOutcome.leave, hnew]
    · rfl

theorem sameShape_after_outcome :
    t.SameShape (t.after (p.resolve cwd) (t.outcome cwd order p)) := by
  intro l
  rw [get?_after_outcome]
  split
  · rcases t.get? l with _ | _ | _ <;> rfl
  · rfl

end FileTree

end LicenseAudit
