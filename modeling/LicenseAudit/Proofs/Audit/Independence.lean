import LicenseAudit.Proofs.Audit.Outcome
import LicenseAudit.Proofs.Discovery.GitDirectory

/-!
# Audits treat every file on its own

An audit goes from file to file in a tree that it rewrites on its way. The files have different
locations, so each of them is found as it was before the audit and its outcome is that of the tree
before (`Run.perform_auditFiles`): the order plays no part, one file that fails stops no other, and
it makes no difference that the template may be one of the files.

What the report says and what the tree holds in the end is put together in `Audited`, and
`Run.audited_of_audit` says it of every audit that gives a report.
-/

namespace LicenseAudit

open Text

/-! ## From file to file -/

namespace FileTree

variable {t : FileTree} {cwd : Location} {order order' : Order} {orderOf : Path → Order}
  {p q : Path} {ps : List Path}

/-- The outcome of a file leaves the outcome of another one as it is. -/
theorem outcome_after (h : q.resolve cwd ≠ p.resolve cwd) :
    (t.after (p.resolve cwd) (t.outcome cwd order p)).outcome cwd order' q =
      t.outcome cwd order' q :=
  sameShape_after_outcome.outcome_eq (by rw [get?_after_outcome, if_neg h])

/-- The tree after the files were checked one after the other, each with the outcome that it has in
the tree at the beginning. -/
def afterAll (t : FileTree) (cwd : Location) (orderOf : Path → Order) (ps : List Path) : FileTree :=
  ps.foldl (fun u p => u.after (p.resolve cwd) (t.outcome cwd (orderOf p) p)) t

theorem resolve_ne_of_nodup (h : ((p :: ps).map (Path.resolve cwd)).Nodup) (hq : q ∈ ps) :
    q.resolve cwd ≠ p.resolve cwd := by
  rw [List.map_cons, List.nodup_cons] at h
  exact fun heq => h.1 (List.mem_map.2 ⟨q, hq, heq⟩)

theorem afterAll_cons (h : ((p :: ps).map (Path.resolve cwd)).Nodup) :
    t.afterAll cwd orderOf (p :: ps) =
      (t.after (p.resolve cwd) (t.outcome cwd (orderOf p) p)).afterAll cwd orderOf ps := by
  rw [afterAll, List.foldl_cons, afterAll]
  refine List.foldl_ext _ _ _ fun u q hq => ?_
  rw [outcome_after (resolve_ne_of_nodup h hq)]

/-- What stands elsewhere stays. -/
theorem get?_afterAll_of_ne (h : (ps.map (Path.resolve cwd)).Nodup) {l : Location}
    (hl : ∀ p ∈ ps, p.resolve cwd ≠ l) : (t.afterAll cwd orderOf ps).get? l = t.get? l := by
  induction ps generalizing t with
  | nil => rfl
  | cons p ps ih =>
    have hp : l ≠ p.resolve cwd := (hl p (List.mem_cons_self ..)).symm
    rw [afterAll_cons h, ih (List.nodup_cons.1 h).2 fun q hq => hl q (List.mem_cons_of_mem _ hq),
      get?_after_outcome, if_neg hp]

/-- Each file is left as its own outcome leaves it. -/
theorem get?_afterAll (h : (ps.map (Path.resolve cwd)).Nodup) (hp : p ∈ ps) :
    (t.afterAll cwd orderOf ps).get? (p.resolve cwd) =
      (t.get? (p.resolve cwd)).map (t.outcome cwd (orderOf p) p).leave := by
  induction ps generalizing t with
  | nil => simp at hp
  | cons q ps ih =>
    have hps := (List.nodup_cons.1 h).2
    rw [afterAll_cons h]
    rcases List.mem_cons.1 hp with rfl | hp
    · rw [get?_afterAll_of_ne hps fun q hq => resolve_ne_of_nodup h hq, get?_after_outcome,
        if_pos rfl]
    · have hne := resolve_ne_of_nodup h hp
      rw [ih hps hp, outcome_after hne, get?_after_outcome, if_neg hne]

/-- Without new texts the tree stays. -/
theorem afterAll_eq_self (h : ∀ p ∈ ps, (t.outcome cwd (orderOf p) p).newText? = none) :
    t.afterAll cwd orderOf ps = t := by
  rw [afterAll]
  induction ps with
  | nil => rfl
  | cons p ps ih =>
    rw [List.foldl_cons, after, h p (List.mem_cons_self ..)]
    exact ih fun q hq => h q (List.mem_cons_of_mem _ hq)

end FileTree

namespace Run

/-- An audit of files at different locations gives each the outcome that it has in the tree before,
and goes through all of them. -/
theorem perform_auditFiles {s : Session} (orderOf : Path → Order) {ps : List Path}
    (hl : s.logFile = none) (hps : ∀ p ∈ ps, p.holdsNull = false)
    (h : (ps.map (Path.resolve s.workingDirectory)).Nodup) : ∃ s',
    (auditFiles orderOf ps).perform s =
        (.ok (ps.map fun p => s.tree.outcome s.workingDirectory (orderOf p) p), s') ∧
      s.Turns (s.tree.afterAll s.workingDirectory orderOf ps) s' := by
  induction ps generalizing s with
  | nil => exact ⟨s, rfl, .refl hl⟩
  | cons p ps ih =>
    obtain ⟨s₁, hs₁, h₁⟩ :=
      perform_auditFile (hps p (List.mem_cons_self ..)) (orderOf p) hl
    have hrest := (List.nodup_cons.1 h).2
    rw [← h₁.workingDirectory] at hrest
    obtain ⟨s₂, hs₂, h₂⟩ :=
      ih h₁.logFile (fun q hq => hps q (List.mem_cons_of_mem _ hq)) hrest
    -- The rest is checked in the tree after the first file, where its outcomes are the same.
    rw [h₁.tree, h₁.workingDirectory] at hs₂ h₂
    refine ⟨s₂, ?_, h₂.logFile, h₂.workingDirectory.trans h₁.workingDirectory, ?_⟩
    · rw [auditFiles, perform_bind, hs₁]
      dsimp only
      rw [perform_bind, hs₂]
      dsimp only
      rw [perform_pure, List.map_cons, List.map_congr_left fun q hq =>
        FileTree.outcome_after (FileTree.resolve_ne_of_nodup h hq)]
    · rw [h₂.tree, FileTree.afterAll_cons h]

end Run

/-! ## What an audit reports and leaves behind -/

/-- Where the years of files are looked up from: a root that is a directory, else the one that it
lies in. -/
def Session.base (s : Session) (root : Path) : Path :=
  if s.tree.isDirectory s.workingDirectory root then root else root.parent

/-- What an audit of a root asks of a file. -/
def AuditOrder.orderOf (a : AuditOrder) (s : Session) (license : Text) (root p : Path) : Order where
  license := license
  currentYear := a.currentYear.getD s.currentYear
  startYear := a.years.get? (relativeKey s.workingDirectory p (s.base root))
  fix := a.fix

/-- A report on some paths and the tree after the audit, seen from the tree before it. -/
structure Audited (before : FileTree) (cwd : Location) (orderOf : Path → Order) (paths : List Path)
    (report : AuditReport) (after : FileTree) : Prop where
  /-- No path is there twice. -/
  nodup : paths.Nodup
  /-- Every path has either a verdict or a failure, and that once. -/
  once : (report.verdicts.map Verdict.path ++ report.failures.map Prod.fst).Perm paths
  /-- Verdicts come in the order of the paths. -/
  verdicts_order : (report.verdicts.map Verdict.path).Sublist paths
  /-- Failures come in the order of the paths. -/
  failures_order : (report.failures.map Prod.fst).Sublist paths
  /-- The files that fail are those of which something stops the check in the tree before. -/
  failures_iff : ∀ p f, (p, f) ∈ report.failures ↔ p ∈ paths ∧ before.Stops cwd (orderOf p) p f
  /-- Every verdict is that of the file in the tree before. -/
  judged : ∀ v ∈ report.verdicts, before.Judged cwd (orderOf v.path) v.path v
  /-- A file that was fixed holds its new text. -/
  fixed : ∀ v ∈ report.verdicts, ∀ new, v.newText? = some new → ∃ old access,
    before.get? (v.path.resolve cwd) = some (.file old access) ∧
    after.get? (v.path.resolve cwd) = some (.file (Utf8.encode new) access)
  /-- Nothing changes where no file was fixed. -/
  kept : ∀ loc, (∀ v ∈ report.verdicts, v.isFixed = true → v.path.resolve cwd ≠ loc) →
    after.get? loc = before.get? loc

/-- The report of the outcomes that files have in a tree. -/
def FileTree.report (t : FileTree) (cwd : Location) (orderOf : Path → Order) (root : Path)
    (paths : List Path) : AuditReport where
  root := root
  outcomes := paths.map fun p => t.outcome cwd (orderOf p) p

/-- Where each value that a list gives knows the element that it comes from, the elements of the
values are those that give one. -/
theorem map_filterMap_eq_filter {α β : Type} {g : α → Option β} {key : β → α}
    (h : ∀ a b, g a = some b → key b = a) (l : List α) :
    (l.filterMap g).map key = l.filter fun a => (g a).isSome := by
  induction l with
  | nil => rfl
  | cons a l ih =>
    rcases hg : g a with _ | b
    · rw [List.filterMap_cons_none hg, ih, List.filter_cons_of_neg (by simp [hg])]
    · rw [List.filterMap_cons_some hg, List.map_cons, ih, h a b hg,
        List.filter_cons_of_pos (by simp [hg])]

namespace FileTree

variable {t : FileTree} {cwd : Location} {orderOf : Path → Order} {root p : Path}
  {paths : List Path} {v : Verdict} {f : Failure}

theorem mem_verdicts_report : v ∈ (t.report cwd orderOf root paths).verdicts ↔
    v.path ∈ paths ∧ t.verdict? cwd (orderOf v.path) v.path = .ok v := by
  simp only [report, AuditReport.verdicts, List.filterMap_map, List.mem_filterMap,
    Function.comp_apply, verdict?_outcome_eq_some_iff]
  constructor
  · rintro ⟨p, hp, hv⟩
    rw [path_of_verdict? hv]
    exact ⟨hp, hv⟩
  · rintro ⟨hp, hv⟩
    exact ⟨v.path, hp, hv⟩

theorem mem_failures_report : (p, f) ∈ (t.report cwd orderOf root paths).failures ↔
    p ∈ paths ∧ t.verdict? cwd (orderOf p) p = .error f := by
  simp only [report, AuditReport.failures, List.filterMap_map, List.mem_filterMap,
    Function.comp_apply, failure?_outcome_eq_some_iff]
  constructor
  · rintro ⟨_, hp, rfl, hv⟩
    exact ⟨hp, hv⟩
  · rintro ⟨hp, hv⟩
    exact ⟨p, hp, rfl, hv⟩

theorem map_path_verdicts_report : (t.report cwd orderOf root paths).verdicts.map Verdict.path =
    paths.filter fun p => (t.outcome cwd (orderOf p) p).verdict?.isSome := by
  rw [report, AuditReport.verdicts, List.filterMap_map, map_filterMap_eq_filter fun p v hv => ?_]
  · rfl
  · exact path_of_verdict? (verdict?_outcome_eq_some_iff.1 hv)

theorem map_fst_failures_report : (t.report cwd orderOf root paths).failures.map Prod.fst =
    paths.filter fun p => !(t.outcome cwd (orderOf p) p).verdict?.isSome := by
  rw [report, AuditReport.failures, List.filterMap_map, map_filterMap_eq_filter fun p e he => ?_]
  · refine List.filter_congr fun p _ => ?_
    rw [Function.comp_apply]
    cases t.outcome cwd (orderOf p) p <;> rfl
  · exact (failure?_outcome_eq_some_iff.1 he).1.symm

/-- The report of the outcomes and the tree after them say what becomes of every file. -/
theorem audited_report (hnormal : ∀ p ∈ paths, p.Normal)
    (h : (paths.map (Path.resolve cwd)).Nodup) :
    Audited t cwd orderOf paths (t.report cwd orderOf root paths)
      (t.afterAll cwd orderOf paths) where
  nodup := h.of_map _
  once := by
    rw [map_path_verdicts_report, map_fst_failures_report]
    exact List.filter_append_perm _ paths
  verdicts_order := by
    rw [map_path_verdicts_report]
    exact List.filter_sublist
  failures_order := by
    rw [map_fst_failures_report]
    exact List.filter_sublist
  failures_iff p f := by
    rw [mem_failures_report]
    exact and_congr_right fun hp => verdict?_eq_error_iff (hnormal p hp)
  judged v hv := by
    obtain ⟨hp, hv⟩ := mem_verdicts_report.1 hv
    exact ((verdict?_eq_ok_iff (hnormal _ hp)).1 hv).1
  fixed v hv new hnew := by
    obtain ⟨hp, hv⟩ := mem_verdicts_report.1 hv
    have ho := newText?_outcome_eq_some_iff.2 ⟨v, hv, hnew⟩
    obtain ⟨old, access, hget⟩ := exists_file_of_newText? ho
    refine ⟨old, access, hget, ?_⟩
    rw [get?_afterAll h hp, hget, Option.map_some, FileOutcome.leave, ho]
    rfl
  kept loc hloc := by
    by_cases hfound : ∃ p ∈ paths, p.resolve cwd = loc
    · obtain ⟨p, hp, rfl⟩ := hfound
      have ho : (t.outcome cwd (orderOf p) p).newText? = none := by
        refine Option.eq_none_iff_forall_ne_some.2 fun new hnew => ?_
        obtain ⟨v, hv, htext⟩ := newText?_outcome_eq_some_iff.1 hnew
        obtain rfl := path_of_verdict? hv
        exact hloc v (mem_verdicts_report.2 ⟨hp, hv⟩) (by simp [Verdict.isFixed, htext]) rfl
      rw [get?_afterAll h hp, FileOutcome.leave_eq_id ho, Option.map_id, id]
    · simp only [not_exists, not_and] at hfound
      exact get?_afterAll_of_ne h hfound

end FileTree

namespace Run

variable {s s' : Session} {a : AuditOrder}

theorem looks_readTemplate (p : Path) : Looks (readTemplate p) :=
  (looks_isFile p).bind fun _ => (looks_readText p).ite looks_fail

/-- A template that was read holds its text. -/
theorem read_of_readTemplate {p : Path} {license : Text}
    (h : ((readTemplate p).perform s).1 = .ok license) :
    ∃ content, s.tree.read s.workingDirectory p = .ok content ∧
      Utf8.decode content = .ok license := by
  obtain ⟨isFile, s₁, hfile, h⟩ := perform_bind_eq_ok_iff.1 (perform_eq_of_fst h)
  obtain ⟨rfl, hisFile⟩ := isFile_eq_ok hfile
  cases isFile with
  | false => simp at h
  | true =>
    rw [if_pos rfl, perform_readText (FileTree.holdsNull_of_isFile hisFile.symm)] at h
    exact FileTree.text?_eq_ok_iff.1 (Prod.mk.inj h).1

section Parts

variable {root : Path} {license : Text} {inDirectory : Bool} {paths : List Path}
  {report : AuditReport}

/-- An audit of a root that is there, with a template that can be read and patterns that are valid,
gives the report of the outcomes that the files have in the tree before it. -/
theorem perform_audit (hl : s.logFile = none) (hroot : ((has root).perform s).1 = .ok true)
    (hlicense : ((readTemplate a.template).perform s).1 = .ok license)
    (hdir : ((isDirectory root).perform s).1 = .ok inDirectory)
    (hpaths : ((discover builtinGrammars root a.excludes a.useGitignore).perform s).1 = .ok paths) :
    ∃ s', (audit root a).perform s =
        (.ok (s.tree.report s.workingDirectory (a.orderOf s license root) root paths), s') ∧
      s.Turns (s.tree.afterAll s.workingDirectory (a.orderOf s license root) paths) s' := by
  have hnull : root.holdsNull = false := (has_eq_ok (perform_eq_of_fst hroot)).2 rfl
  have hbase : (if inDirectory then root else root.parent) = s.base root := by
    rw [(isDirectory_eq_ok (perform_eq_of_fst hdir)).2, Session.base]
  have hfound := perform_eq_of_fst hpaths
  have hps : ∀ p ∈ paths, p.holdsNull = false := by
    intro p hp
    obtain ⟨names, hnames, rfl⟩ := (exists_names_of_discover hfound p hp).2
    exact Path.holdsNull_below hnull hnames
  obtain ⟨s₁, hk₁, h₁⟩ := (looks_has root).perform_bind (s.keeps_log _) hl hroot
  obtain ⟨s₂, hk₂, h₂⟩ := (looks_readTemplate _).perform_bind hk₁ hl hlicense
  obtain ⟨s₃, hk₃, h₃⟩ :=
    (looks_isDirectory root).perform_bind (hk₂.trans (s₂.keeps_log _)) hl hdir
  obtain ⟨s₄, hk₄, h₄⟩ := (looks_discover ..).perform_bind hk₃ hl hpaths
  obtain ⟨s₅, h₅, hturns⟩ := perform_auditFiles (a.orderOf s license root)
    (hk₄.logFile.trans hl) hps (nodup_resolve_of_discover hfound _)
  rw [hk₄.tree hl, hk₄.workingDirectory] at h₅ hturns
  unfold AuditOrder.orderOf at h₅
  unfold audit
  rw [perform_log_bind, h₁, Bool.not_true, if_neg Bool.false_ne_true, h₂, perform_log_bind, h₃, h₄,
    perform_get_bind, perform_bind, hk₄.currentYear, hk₄.workingDirectory, hbase, h₅]
  dsimp only
  rw [perform_logAll_bind, perform_pure]
  exact ⟨_, rfl, (hturns.of_keeps hk₄).keeps (Session.keeps_foldl_log ..)⟩

/-- Where an audit gives a report its parts gave their results. -/
theorem parts_of_audit (hl : s.logFile = none) (h : (audit root a).perform s = (.ok report, s')) :
    ((has root).perform s).1 = .ok true ∧ ∃ license inDirectory paths,
      ((readTemplate a.template).perform s).1 = .ok license ∧
      ((isDirectory root).perform s).1 = .ok inDirectory ∧
      ((discover builtinGrammars root a.excludes a.useGitignore).perform s).1 = .ok paths := by
  unfold audit at h
  rw [perform_log_bind] at h
  obtain ⟨hasRoot, s₁, hroot, hk₁, h⟩ := (looks_has root).bind_eq_ok (s.keeps_log _) hl h
  cases hasRoot with
  | false => simp [perform_bind] at h
  | true =>
    obtain ⟨license, s₂, hlicense, hk₂, h⟩ := (looks_readTemplate _).bind_eq_ok hk₁ hl h
    rw [perform_log_bind] at h
    obtain ⟨inDirectory, s₃, hdir, hk₃, h⟩ :=
      (looks_isDirectory root).bind_eq_ok (hk₂.trans (s₂.keeps_log _)) hl h
    obtain ⟨paths, s₄, hpaths, -, -⟩ := (looks_discover ..).bind_eq_ok hk₃ hl h
    exact ⟨hroot, license, inDirectory, paths, hlicense, hdir, hpaths⟩

end Parts

/-- **An audit treats every file on its own and loses none.** Where one gives a report, while no log
is written to a file, it reports on what discovery finds in the session before it, with the template
that the tree before holds, and `Audited` says how the tree before, the report and the tree after it
belong together. Where nothing is to be fixed the tree stays. -/
theorem audited_of_audit {written : Text} {report : AuditReport} (hl : s.logFile = none)
    (h : (audit (Path.ofText written) a).perform s = (.ok report, s')) :
    ∃ paths s₁ content license,
      (discover builtinGrammars (Path.ofText written) a.excludes a.useGitignore).perform s =
        (.ok paths, s₁) ∧
      s.tree.read s.workingDirectory a.template = .ok content ∧
      Utf8.decode content = .ok license ∧
      Audited s.tree s.workingDirectory (a.orderOf s license (Path.ofText written)) paths report
        s'.tree ∧
      (a.fix = false → s'.tree = s.tree) := by
  obtain ⟨hroot, license, inDirectory, paths, hlicense, hdir, hpaths⟩ := parts_of_audit hl h
  obtain ⟨content, hread, hdecode⟩ := read_of_readTemplate hlicense
  have hfound := perform_eq_of_fst hpaths
  have hnormal : ∀ p ∈ paths, p.Normal := by
    intro p hp
    obtain ⟨names, hnames, rfl⟩ := (exists_names_of_discover hfound p hp).2
    exact (Path.normal_ofText written).below hnames
  obtain ⟨s₂, hs₂, hturns⟩ := perform_audit hl hroot hlicense hdir hpaths
  rw [h, Prod.mk.injEq, Except.ok.injEq] at hs₂
  obtain ⟨rfl, rfl⟩ := hs₂
  refine ⟨paths, _, content, license, hfound, hread, hdecode, ?_, fun hfix => ?_⟩
  · rw [hturns.tree]
    exact FileTree.audited_report hnormal (nodup_resolve_of_discover hfound _)
  · rw [hturns.tree,
      FileTree.afterAll_eq_self fun p _ => FileTree.newText?_outcome_of_fix_eq_false hfix]

/-- A session with a template, a script without a header, one that cannot be read and one that
cannot be written. -/
def scriptsSession : Session where
  tree :=
    ((((FileTree.empty.putFile [] "HEADER" (Utf8.encode "Copyright (C) {years} Acme\n")).putFile []
      "a.sh" (Utf8.encode "echo\n")).putFile [] "b.sh" []).setAccess ["b.sh"] .sealed).putFile []
      "c.sh" (Utf8.encode "echo\n") |>.setAccess ["c.sh"] .readOnly
  currentYear := 2024
  timeStamp := []

/-- The order to fix the scripts. -/
def scriptsOrder : AuditOrder where
  template := Path.ofText "HEADER"
  fix := true

theorem discover_scriptsSession :
    ((discover builtinGrammars (Path.ofText ".") scriptsOrder.excludes
      scriptsOrder.useGitignore).perform scriptsSession).1 =
      .ok [Path.ofText "a.sh", Path.ofText "b.sh", Path.ofText "c.sh"] := by
  have hpatterns : ((ignoreList (Path.ofText ".") scriptsOrder.excludes
      scriptsOrder.useGitignore).perform scriptsSession).1.toOption = some [gitDirectory] := by
    decide +kernel
  have hkept : (scriptsSession.tree.candidates scriptsSession.workingDirectory builtinGrammars
      (Path.ofText ".")).filter (fun p => !ignores [gitDirectory]
        (relativeKey scriptsSession.workingDirectory p (Path.ofText "."))) =
      [Path.ofText "a.sh", Path.ofText "b.sh", Path.ofText "c.sh"] := by decide +kernel
  rw [perform_discover rfl (eq_ok_of_toOption (by decide +kernel))
      (eq_ok_of_toOption (by decide +kernel)) (eq_ok_of_toOption hpatterns),
    hkept, sortPaths, List.mergeSort_of_pairwise (by decide)]

theorem audited_of_audit_scripts : ∃ report s',
    (audit (Path.ofText ".") scriptsOrder).perform scriptsSession = (.ok report, s') ∧
      report.fixed.map Verdict.path = [Path.ofText "a.sh"] ∧
      report.failures.map Prod.fst = [Path.ofText "b.sh", Path.ofText "c.sh"] ∧
      ∃ paths s₁ content license,
        (discover builtinGrammars (Path.ofText ".") scriptsOrder.excludes
          scriptsOrder.useGitignore).perform scriptsSession = (.ok paths, s₁) ∧
        scriptsSession.tree.read [] scriptsOrder.template = .ok content ∧
        Utf8.decode content = .ok license ∧
        Audited scriptsSession.tree []
          (scriptsOrder.orderOf scriptsSession license (Path.ofText ".")) paths report s'.tree ∧
        (scriptsOrder.fix = false → s'.tree = scriptsSession.tree) := by
  have hroot : ((has (Path.ofText ".")).perform scriptsSession).1.toOption = some true := by
    decide +kernel
  have hdir : ((isDirectory (Path.ofText ".")).perform scriptsSession).1.toOption = some true := by
    decide +kernel
  have hlicense : ((readTemplate scriptsOrder.template).perform scriptsSession).1.toOption =
      some "Copyright (C) {years} Acme\n".toList := by
    decide +kernel
  obtain ⟨s', h, -⟩ := perform_audit rfl (eq_ok_of_toOption hroot) (eq_ok_of_toOption hlicense)
    (eq_ok_of_toOption hdir) discover_scriptsSession
  exact ⟨_, s', h, by decide +kernel, by decide +kernel, audited_of_audit rfl h⟩

end Run

end LicenseAudit
