import LicenseAudit.Proofs.Command.Changes

/-!
# Fixing the standalone license

The license file that a check compares need not be the one that a fix writes, the template may be
either of them, and something else may stand in the place of both. Still one fix is enough. It
writes the template to the first of the names only, and that is the name which is looked at first:
so a second check compares the copy with the template (`Run.perform_checkStandalone_of_read`). The
template is still what it was, since it does not stand where the copy is written: otherwise the
first check would have compared it with itself and found that it matches.

`StandaloneFinding` says what there is to find in a tree. A check that does not fix gives it
(`Run.standaloneFinding_of_checkStandalone`), and one that does gives it too unless it copies the
template (`StandaloneCourse`). What this means for the tree is put together in `StandaloneEffect`,
and `Run.standaloneEffect_of_checkStandalone` says it of every check that gives an outcome.
-/

namespace LicenseAudit

open Text

variable {root template found p : Path} {content actual expected : Bytes} {fix : Bool}

namespace Run

variable {s s' : Session} {o o' : StandaloneOutcome}

/-! ## A license that matches -/

theorem fst_perform_fileDigest (h : s.tree.read s.workingDirectory p = .ok content) :
    ((fileDigest p).perform s).1 = .ok (digest content) := by
  rw [fileDigest, perform_bind, perform_readBytes h]
  rfl

/-- A file that has a digest can be read. -/
theorem read_of_fileDigest {d : Text} (h : ((fileDigest p).perform s).1 = .ok d) :
    ∃ content, s.tree.read s.workingDirectory p = .ok content := by
  obtain ⟨content, s₁, hbytes, -⟩ := perform_bind_eq_ok_iff.1 (perform_eq_of_fst h)
  exact ⟨content, (readBytes_eq_ok hbytes).2⟩

theorem fst_perform_firstFile_cons (hl : s.logFile = none)
    (h : s.tree.isFile s.workingDirectory p = true) (rest : List Path) :
    ((firstFile (p :: rest)).perform s).1 = .ok (some p) := by
  rw [firstFile, perform_log_bind]
  obtain ⟨s₁, -, h₁⟩ := (looks_isFile p).perform_bind (s.keeps_log _) hl
    (congrArg Prod.fst (perform_isFile h))
  rw [h₁, if_pos rfl, perform_pure]

/-- Files that can be read are compared by the digests of what they hold. -/
theorem fst_perform_compareStandalone (hl : s.logFile = none)
    (hfound : s.tree.read s.workingDirectory found = .ok actual)
    (htemplate : s.tree.read s.workingDirectory template = .ok expected) :
    ((compareStandalone found template).perform s).1 =
      .ok (decide (digest actual = digest expected)) := by
  rw [compareStandalone, perform_log_bind]
  obtain ⟨s₁, hk₁, h₁⟩ := (looks_fileDigest found).perform_bind (s.keeps_log _) hl
    (fst_perform_fileDigest hfound)
  obtain ⟨s₂, -, h₂⟩ := (looks_fileDigest template).perform_bind hk₁ hl
    (fst_perform_fileDigest htemplate)
  rw [h₁, h₂, perform_log_bind, perform_log_bind]
  split
  · next hsame => rw [perform_log_bind, perform_pure, decide_eq_true hsame]
  · next hother => rw [perform_log_bind, perform_pure, decide_eq_false hother]

/-- Where the license of a directory reads as the template does, a check finds that it matches, and
so does a fix. -/
theorem perform_checkStandalone_of_read (hl : s.logFile = none)
    (hdir : s.tree.isDirectory s.workingDirectory root = true)
    (htemplate : s.tree.read s.workingDirectory template = .ok content)
    (hlicense : s.tree.read s.workingDirectory (root.child standaloneName) = .ok content)
    (fix : Bool) : ∃ s',
      (checkStandalone root template fix).perform s =
        (.ok ⟨.matched, some (root.child standaloneName)⟩, s') ∧ s.Keeps s' := by
  have hfirst : ((findStandalone root).perform s).1 = .ok (some (root.child standaloneName)) :=
    fst_perform_firstFile_cons hl (FileTree.isFile_of_read hlicense) _
  have hlooks : Looks (findStandalone root) := looks_firstFile _
  rw [checkStandalone, perform_log_bind]
  obtain ⟨s₁, hk₁, h₁⟩ := (looks_isDirectory root).perform_bind (s.keeps_log _) hl
    (congrArg Prod.fst (perform_of_isDirectory hdir).1)
  rw [h₁, Bool.not_true, if_neg Bool.false_ne_true]
  obtain ⟨s₂, hk₂, h₂⟩ := (looks_isFile template).perform_bind hk₁ hl
    (congrArg Prod.fst (perform_isFile (FileTree.isFile_of_read htemplate)))
  rw [h₂, Bool.not_true, if_neg Bool.false_ne_true]
  obtain ⟨s₃, hk₃, h₃⟩ := hlooks.perform_bind hk₂ hl hfirst
  rw [h₃]
  obtain ⟨s₄, hk₄, h₄⟩ := (looks_compareStandalone _ _).perform_bind hk₃ hl
    (fst_perform_compareStandalone hl hlicense htemplate)
  exact ⟨s₄, (h₄ _).trans (by rw [decide_eq_true rfl, if_pos rfl, perform_pure]), hk₄⟩

/-! ## What a check finds -/

theorem firstFile_eq_ok {ps : List Path} {found : Option Path} (hl : s.logFile = none)
    (h : ((firstFile ps).perform s).1 = .ok found) :
    found = ps.find? (s.tree.isFile s.workingDirectory ·) := by
  induction ps generalizing s with
  | nil =>
    cases h
    rfl
  | cons p rest ih =>
    have h := perform_eq_of_fst h
    rw [firstFile, perform_log_bind] at h
    obtain ⟨isFile, s₁, hfile, hk, h⟩ := (looks_isFile p).bind_eq_ok (s.keeps_log _) hl h
    have hp := (isFile_eq_ok (perform_eq_of_fst hfile)).2
    cases isFile with
    | true =>
      cases h
      rw [List.find?_cons_of_pos hp.symm]
    | false =>
      have hrest : ((firstFile rest).perform s).1 = .ok found := by
        rw [← (looks_firstFile rest).again hk hl]
        exact congrArg Prod.fst h
      rw [List.find?_cons_of_neg (by simp [← hp]), ih hl hrest]

theorem compareStandalone_eq_ok {same : Bool} (hl : s.logFile = none)
    (h : ((compareStandalone found template).perform s).1 = .ok same) :
    ∃ actual expected, s.tree.read s.workingDirectory found = .ok actual ∧
      s.tree.read s.workingDirectory template = .ok expected ∧
      same = decide (digest actual = digest expected) := by
  have hrun := perform_eq_of_fst h
  rw [compareStandalone, perform_log_bind] at hrun
  obtain ⟨_, s₁, hfirst, hk, hrun⟩ := (looks_fileDigest found).bind_eq_ok (s.keeps_log _) hl hrun
  obtain ⟨_, _, hsecond, -, -⟩ := (looks_fileDigest template).bind_eq_ok hk hl hrun
  obtain ⟨actual, hactual⟩ := read_of_fileDigest hfirst
  obtain ⟨expected, hexpected⟩ := read_of_fileDigest hsecond
  refine ⟨actual, expected, hactual, hexpected, ?_⟩
  rw [fst_perform_compareStandalone hl hactual hexpected] at h
  exact (Except.ok.inj h).symm

end Run

/-- What there is to find of the standalone license in a tree. -/
inductive StandaloneFinding (root template : Path) (t : FileTree) (cwd : Location) :
    StandaloneOutcome → Prop
  | skipped (hdir : t.isDirectory cwd root = false) :
    StandaloneFinding root template t cwd ⟨.skipped, none⟩
  | missing (hdir : t.isDirectory cwd root = true) (htemplate : t.isFile cwd template = true)
    (hfound : (standaloneNames.map root.child).find? (t.isFile cwd ·) = none) :
    StandaloneFinding root template t cwd ⟨.missing, none⟩
  | compared {found : Path} {actual expected : Bytes} (hdir : t.isDirectory cwd root = true)
    (hfound : (standaloneNames.map root.child).find? (t.isFile cwd ·) = some found)
    (hactual : t.read cwd found = .ok actual) (hexpected : t.read cwd template = .ok expected) :
    StandaloneFinding root template t cwd
      ⟨if digest actual = digest expected then .matched else .mismatched, some found⟩

namespace StandaloneFinding

variable {t : FileTree} {cwd : Location} {o : StandaloneOutcome}

theorem status_ne_fixed (h : StandaloneFinding root template t cwd o) : o.status ≠ .fixed := by
  cases h with
  | skipped => simp
  | missing => simp
  | compared => dsimp only; split <;> simp

/-- A license can be missing or wrong in a directory only. -/
theorem isDirectory_of_needsFix (h : StandaloneFinding root template t cwd o)
    (hneeds : o.status.needsFix = true) : t.isDirectory cwd root = true := by
  cases h with
  | skipped => cases hneeds
  | missing hdir => exact hdir
  | compared hdir => exact hdir

end StandaloneFinding

namespace Run

variable {s s' : Session} {o o' : StandaloneOutcome}

/-- A check that does not fix gives what there is to find. -/
theorem standaloneFinding_of_checkStandalone (hl : s.logFile = none)
    (h : (checkStandalone root template false).perform s = (.ok o, s')) :
    StandaloneFinding root template s.tree s.workingDirectory o := by
  rw [checkStandalone, perform_log_bind] at h
  obtain ⟨inDirectory, s₁, hdir, hk₁, h⟩ := (looks_isDirectory root).bind_eq_ok (s.keeps_log _) hl h
  have hroot := (isDirectory_eq_ok (perform_eq_of_fst hdir)).2
  cases inDirectory with
  | false =>
    rw [Bool.not_false, if_pos rfl, perform_log_bind, perform_pure] at h
    cases h
    exact .skipped hroot.symm
  | true =>
    rw [Bool.not_true, if_neg Bool.false_ne_true] at h
    obtain ⟨isFile, s₂, hfile, hk₂, h⟩ := (looks_isFile template).bind_eq_ok hk₁ hl h
    have htemplate := (isFile_eq_ok (perform_eq_of_fst hfile)).2
    cases isFile with
    | false =>
      rw [Bool.not_false, if_pos rfl, perform_bind, perform_fail] at h
      cases h
    | true =>
      rw [Bool.not_true, if_neg Bool.false_ne_true] at h
      have hlooks : Looks (findStandalone root) := looks_firstFile _
      obtain ⟨found, s₃, hfound, hk₃, h⟩ := hlooks.bind_eq_ok hk₂ hl h
      have hfirst := firstFile_eq_ok hl hfound
      cases found with
      | none =>
        rw [perform_log_bind] at h
        cases h
        exact .missing hroot.symm htemplate.symm hfirst.symm
      | some found =>
        obtain ⟨same, s₄, hsame, -, h⟩ := (looks_compareStandalone _ _).bind_eq_ok hk₃ hl h
        obtain ⟨actual, expected, hactual, hexpected, rfl⟩ := compareStandalone_eq_ok hl hsame
        have ho : o = ⟨if digest actual = digest expected then .matched else .mismatched,
            some found⟩ := by
          by_cases heq : digest actual = digest expected
          · rw [if_pos (decide_eq_true heq), perform_pure] at h
            cases h
            rw [if_pos heq]
          · rw [if_neg (by simpa using heq)] at h
            cases h
            rw [if_neg heq]
        rw [ho]
        exact .compared hroot.symm hfirst.symm hactual hexpected

/-! ## How a check ends -/

/-- A check of the standalone license has left everything as it was and gives what it found, or it
has copied the template, which stands elsewhere, to the license of a directory. -/
inductive StandaloneCourse (root template : Path) (fix : Bool) (s s' : Session)
    (o : StandaloneOutcome) : Prop
  | kept (hk : s.Keeps s')
    (hfinding : StandaloneFinding root template s.tree s.workingDirectory o)
    (hsettled : fix = true → o.status.needsFix = false)
  | copied {finding : StandaloneOutcome} {content : Bytes} (hfix : fix = true)
    (ho : o = ⟨.fixed, some (root.child standaloneName)⟩)
    (hfinding : StandaloneFinding root template s.tree s.workingDirectory finding)
    (hneeds : finding.status.needsFix = true)
    (hread : s.tree.read s.workingDirectory template = .ok content)
    (hne : template.resolve s.workingDirectory ≠ licenseLocation s.workingDirectory root)
    (hwrite : s.tree.write s.workingDirectory (root.child standaloneName) content = .ok s'.tree)
    (hcwd : s'.workingDirectory = s.workingDirectory) (hl : s'.logFile = none)

/-- A repair copies the template. -/
theorem repairStandalone_eq_ok (hl : s.logFile = none)
    (h : (repairStandalone root template true o).perform s = (.ok o', s')) :
    o' = ⟨.fixed, some (root.child standaloneName)⟩ ∧
      s'.workingDirectory = s.workingDirectory ∧ s'.logFile = none ∧
      ∃ content, s.tree.read s.workingDirectory template = .ok content ∧
        s.tree.write s.workingDirectory (root.child standaloneName) content = .ok s'.tree := by
  rw [repairStandalone, if_pos rfl] at h
  obtain ⟨_, s₁, hcopy, hrest⟩ := perform_bind_eq_ok_iff.1 h
  obtain ⟨content, s₂, hbytes, hwrite⟩ := perform_bind_eq_ok_iff.1 hcopy
  obtain ⟨rfl, hread⟩ := readBytes_eq_ok hbytes
  obtain ⟨tree, hwritten, hs₁⟩ := writeBytes_eq_ok hwrite
  have hk : s₁.Keeps s' := ((looks_log _ _).bind fun _ => looks_pure _).keeps hrest
  rw [hs₁] at hk
  rw [perform_log_bind, perform_pure, Prod.mk.injEq, Except.ok.injEq] at hrest
  refine ⟨hrest.1.symm, hk.workingDirectory, hk.logFile.trans hl, content, hread, ?_⟩
  rw [hk.tree hl, hwritten]

/-- Where a check finds the license missing or wrong, the template does not stand in its place. -/
theorem resolve_ne_of_needsFix (hl : s.logFile = none)
    (h : (checkStandalone root template false).perform s = (.ok o, s'))
    (hneeds : o.status.needsFix = true)
    (hread : s.tree.read s.workingDirectory template = .ok content)
    (hloc : s.tree.locate s.workingDirectory (root.child standaloneName) =
      .ok (licenseLocation s.workingDirectory root)) :
    template.resolve s.workingDirectory ≠ licenseLocation s.workingDirectory root := by
  intro heq
  obtain ⟨access, haccess, hfind⟩ := FileTree.read_eq_ok_iff.1 hread
  have hfile := (FileTree.find?_eq_some_iff.1 hfind).2
  rw [heq] at hfile
  have hlicense : s.tree.read s.workingDirectory (root.child standaloneName) = .ok content :=
    FileTree.read_eq_ok_iff.2 ⟨access, haccess, FileTree.find?_eq_some_iff.2 ⟨hloc, hfile⟩⟩
  have hdir := (standaloneFinding_of_checkStandalone hl h).isDirectory_of_needsFix hneeds
  obtain ⟨s₁, hmatched, -⟩ := perform_checkStandalone_of_read hl hdir hread hlicense false
  rw [hmatched] at h
  cases h
  cases hneeds

theorem standaloneCourse_of_checkStandalone (hl : s.logFile = none)
    (h : (checkStandalone root template fix).perform s = (.ok o, s')) :
    StandaloneCourse root template fix s s' o := by
  have hlooks := looks_checkStandalone root template
  cases fix with
  | false =>
    exact .kept (hlooks.keeps h) (standaloneFinding_of_checkStandalone hl h) (by simp)
  | true =>
    rw [checkStandalone_eq] at h
    obtain ⟨found, s₁, hcheck, h⟩ := perform_bind_eq_ok_iff.1 h
    have hk := hlooks.keeps hcheck
    have hfinding := standaloneFinding_of_checkStandalone hl hcheck
    split at h
    · next hneeds =>
      obtain ⟨ho, hcwd, hl', content, hread, hwrite⟩ :=
        repairStandalone_eq_ok (hk.logFile.trans hl) h
      rw [hk.tree hl, hk.workingDirectory] at hread hwrite
      have hloc := (FileTree.writable_eq_ok_iff.1 (FileTree.write_eq_ok_iff.1 hwrite).1).1
      have hne := resolve_ne_of_needsFix hl hcheck hneeds hread hloc
      exact .copied rfl ho hfinding hneeds hread hne hwrite (hcwd.trans hk.workingDirectory) hl'
    · next hneeds =>
      cases h
      exact .kept hk hfinding fun _ => by simpa using hneeds

end Run

/-- What a check of the standalone license with some outcome does to the tree. -/
structure StandaloneEffect (root template : Path) (fix : Bool) (cwd : Location)
    (o : StandaloneOutcome) (t t' : FileTree) : Prop where
  /-- Nothing but the license changes. -/
  confined : ∀ loc, loc ≠ Run.licenseLocation cwd root → t'.get? loc = t.get? loc
  unasked : fix = false → t' = t
  untouched : o.status ≠ .fixed → t' = t
  /-- What a fix finds missing or wrong is fixed, and any other outcome is what there is to find. -/
  found : ∃ finding, StandaloneFinding root template t cwd finding ∧
    o = if fix = true ∧ finding.status.needsFix = true
      then ⟨.fixed, some (root.child standaloneName)⟩ else finding
  /-- What is fixed holds what the template holds, before and after. -/
  copied : o.status = .fixed → ∃ content, t.read cwd template = .ok content ∧
    t'.read cwd template = .ok content ∧ t'.read cwd (root.child standaloneName) = .ok content

namespace Run

variable {s s' : Session}

/-- **A fix of the standalone license is confined, and one is enough.** While no log is written, a
check changes nothing but the license, and this only where it is to fix and the outcome is that it
has copied the template. Then a second check, whether it is to fix or not, finds that the license
matches and changes nothing. A check that fails, for want of a template or otherwise, has changed
nothing either. -/
theorem standaloneEffect_of_checkStandalone {r : Except Failure StandaloneOutcome}
    (hl : s.logFile = none) (h : (checkStandalone root template fix).perform s = (r, s')) :
    (∀ o, r = .ok o →
      StandaloneEffect root template fix s.workingDirectory o s.tree s'.tree ∧
      (o.status = .fixed → ∀ again, ∃ s'', (checkStandalone root template again).perform s' =
        (.ok ⟨.matched, some (root.child standaloneName)⟩, s'') ∧ s''.tree = s'.tree)) ∧
    ∀ f, r = .error f → s'.tree = s.tree := by
  constructor
  · rintro o rfl
    obtain ⟨hk, hfinding, hsettled⟩ |
      ⟨hfix, rfl, hfinding, hneeds, hread, hne, hwrite, hcwd, hl'⟩ :=
        standaloneCourse_of_checkStandalone hl h
    · have htree := hk.tree hl
      have hstatus := hfinding.status_ne_fixed
      have hfound : o = if fix = true ∧ o.status.needsFix = true
          then ⟨.fixed, some (root.child standaloneName)⟩ else o := by
        rw [if_neg]
        rintro ⟨hfix, hneeds⟩
        simp [hsettled hfix] at hneeds
      exact ⟨⟨fun _ _ => by rw [htree], fun _ => htree, fun _ => htree, ⟨o, hfinding, hfound⟩,
        fun hfixed => absurd hfixed hstatus⟩, fun hfixed => absurd hfixed hstatus⟩
    · have hname : isName standaloneName = true := by decide
      have hdir := hfinding.isDirectory_of_needsFix hneeds
      have hdir' := FileTree.isDirectory_write_child hdir hname hwrite
      have hlicense := FileTree.read_write_child hdir hname hwrite
      have htemplate := FileTree.read_write_child_of_ne hdir hname hwrite hne hread
      constructor
      · refine ⟨fun loc hloc => ?_, fun hunasked => ?_, fun hstatus => absurd rfl hstatus,
          ⟨_, hfinding, (if_pos ⟨hfix, hneeds⟩).symm⟩, fun _ => ⟨_, hread, htemplate, hlicense⟩⟩
        · exact (FileTree.get?_write_child hdir hname hwrite loc).trans (if_neg hloc)
        · simp [hunasked] at hfix
      · intro _ again
        rw [← hcwd] at hdir' hlicense htemplate
        obtain ⟨s'', hagain, hk⟩ :=
          perform_checkStandalone_of_read hl' hdir' htemplate hlicense again
        exact ⟨s'', hagain, hk.tree hl'⟩
  · rintro f rfl
    cases fix with
    | false => exact ((looks_checkStandalone root template).keeps h).tree hl
    | true => exact (failsFor_keeps_checkStandalone f s' h).tree hl

end Run

/-- A session with a license under both names, where the second one is the template. -/
def licensesSession : Session where
  tree := (FileTree.empty.putFile [] standaloneName (Utf8.encode "old\n")).putFile []
    "LICENSE.txt" (Utf8.encode "new\n")
  currentYear := 2024
  timeStamp := []

theorem Run.standaloneEffect_of_checkStandalone_licenses : ∃ s' s'',
    (checkStandalone (Path.ofText ".") (Path.ofText "LICENSE.txt") true).perform licensesSession =
      (.ok ⟨.fixed, some (Path.ofText "LICENSE")⟩, s') ∧
    s'.tree.read [] (Path.ofText "LICENSE") = .ok (Utf8.encode "new\n") ∧
    s'.tree.get? ["LICENSE.txt".toList] = licensesSession.tree.get? ["LICENSE.txt".toList] ∧
    (checkStandalone (Path.ofText ".") (Path.ofText "LICENSE.txt") false).perform s' =
      (.ok ⟨.matched, some (Path.ofText "LICENSE")⟩, s'') ∧ s''.tree = s'.tree := by
  have hfixed : ((checkStandalone (Path.ofText ".") (Path.ofText "LICENSE.txt") true).perform
      licensesSession).1.toOption = some ⟨.fixed, some (Path.ofText "LICENSE")⟩ := by
    decide +kernel
  have h := perform_eq_of_fst (eq_ok_of_toOption hfixed)
  obtain ⟨heffect, hagain⟩ := (standaloneEffect_of_checkStandalone rfl h).1 _ rfl
  obtain ⟨content, hread, -, hcopied⟩ := heffect.copied rfl
  obtain ⟨s'', hsecond, htree⟩ := hagain rfl false
  have hnew : licensesSession.tree.read [] (Path.ofText "LICENSE.txt") =
      .ok (Utf8.encode "new\n") := eq_ok_of_toOption (by decide +kernel)
  obtain rfl : content = Utf8.encode "new\n" := Except.ok.inj (hread.symm.trans hnew)
  exact ⟨_, s'', h, hcopied, heffect.confined _ (by decide +kernel), hsecond, htree⟩

end LicenseAudit
