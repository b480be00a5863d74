import LicenseAudit.Proofs.Audit.Independence
import LicenseAudit.Proofs.Verdict.Settled

/-!
# Clean audits

Whether a header is right does not depend on whether a fix is ordered (`checkWith_fixing`), and a
file whose header is right is not written. So a clean audit has nothing to fix: the same audit with
a fix gives the same report and leaves the tree as it is (`Run.perform_audit_fixing`).
-/

namespace LicenseAudit

open Text

/-- The order with a fix. -/
def Order.fixing (order : Order) : Order := { order with fix := true }

/-- The order of an audit with a fix. -/
def AuditOrder.fixing (a : AuditOrder) : AuditOrder := { a with fix := true }

section Verdicts

variable {g : Grammar} {p : Path} {order : Order} {s : Text}

/-- Without a fix a header is right, or the file is left with a wrong one. -/
theorem isMatched_checkWith (hfix : order.fix = false)
    (h : (checkWith g p order s).needsFix = false) : (checkWith g p order s).isMatched = true := by
  simp only [Verdict.needsFix, Verdict.isMatched, checkWith] at h ⊢
  rcases hfinding : ((Document.parse g s).settleYear order).judge g order with b | ds | ⟨ds, new⟩
  · rfl
  · simp [hfinding] at h
  · rw [Document.judge, hfix] at hfinding
    split at hfinding <;> simp at hfinding

/-- A right header is right with a fix too. -/
theorem checkWith_fixing (h : (checkWith g p order s).isMatched = true) :
    checkWith g p order.fixing s = checkWith g p order s := by
  have hyear : (Document.parse g s).settleYear order.fixing =
      (Document.parse g s).settleYear order := rfl
  simp only [Verdict.isMatched, checkWith] at h ⊢
  rw [hyear]
  rcases hfinding : ((Document.parse g s).settleYear order).judge g order with b | ds | ⟨ds, new⟩
  · have hfind := Document.findHeader?_of_judge_eq_matched _ _ hfinding
    rw [Document.judge_eq_matched _ order.fixing hfind]
  · simp [hfinding] at h
  · simp [hfinding] at h

theorem newText?_of_isMatched {v : Verdict} (h : v.isMatched = true) : v.newText? = none := by
  rw [Verdict.isMatched] at h
  rw [Verdict.newText?]
  rcases hfinding : v.finding with b | ds | ⟨ds, new⟩
  · rfl
  · rfl
  · simp [hfinding] at h

end Verdicts

namespace FileTree

variable {t : FileTree} {cwd : Location} {order : Order} {p : Path} {v : Verdict}

/-- A file that needs no fix has with a fix the verdict that it has without one. -/
theorem verdict?_fixing (hfix : order.fix = false) (h : t.verdict? cwd order p = .ok v)
    (hv : v.needsFix = false) : t.verdict? cwd order.fixing p = .ok v ∧ v.newText? = none := by
  rw [verdict?] at h ⊢
  rcases hs : t.text? cwd p with f | s <;> rw [hs] at h
  · simp at h
  rcases hg : lookupGrammar? builtinGrammars p.toText with _ | g <;> rw [hg] at h
  · simp at h
  obtain ⟨rfl, -⟩ := settle_eq_ok_iff.1 h
  have hmatched := isMatched_checkWith hfix hv
  have hnew := newText?_of_isMatched hmatched
  dsimp only
  rw [checkWith_fixing hmatched]
  exact ⟨settle_eq_ok_iff.2 ⟨rfl, by simp [Verdict.isFixed, hnew]⟩, hnew⟩

end FileTree

namespace AuditReport

variable {r : AuditReport} {o : FileOutcome}

/-- In a clean report every file has a verdict and needs no fix. -/
theorem exists_verdict_of_isClean (h : r.isClean = true) (ho : o ∈ r.outcomes) :
    ∃ v, o = .checked v ∧ v.needsFix = false := by
  simp only [isClean, needsFix, failures, verdicts, Bool.and_eq_true, List.isEmpty_iff,
    List.filter_eq_nil_iff, List.filterMap_eq_nil_iff, List.mem_filterMap] at h
  rcases o with v | ⟨p, f⟩
  · exact ⟨v, rfl, by simpa using h.1 v ⟨_, ho, rfl⟩⟩
  · simpa [FileOutcome.failure?] using h.2 _ ho

end AuditReport

namespace Run

variable {s s' : Session} {root : Path} {a : AuditOrder} {report : AuditReport}

/-- An audit gives its report again in a session that was kept. -/
theorem perform_audit_again {s₁ : Session} (hl : s.logFile = none)
    (h : (audit root a).perform s = (.ok report, s')) (hk : s.Keeps s₁) :
    ∃ s₂, (audit root a).perform s₁ = (.ok report, s₂) := by
  obtain ⟨hroot, license, inDirectory, paths, hlicense, hdir, hpaths⟩ := parts_of_audit hl h
  obtain ⟨_, hs, -⟩ := perform_audit hl hroot hlicense hdir hpaths
  rw [h, Prod.mk.injEq, Except.ok.injEq] at hs
  obtain ⟨rfl, -⟩ := hs
  rw [← (looks_has root).again hk hl] at hroot
  rw [← (looks_readTemplate _).again hk hl] at hlicense
  rw [← (looks_isDirectory root).again hk hl] at hdir
  rw [← (looks_discover ..).again hk hl] at hpaths
  obtain ⟨s₂, hs₂, -⟩ := perform_audit (hk.logFile.trans hl) hroot hlicense hdir hpaths
  have horder : a.orderOf s₁ license root = a.orderOf s license root := by
    funext p
    simp only [AuditOrder.orderOf, Session.base, hk.tree hl, hk.workingDirectory, hk.currentYear]
  rw [horder, hk.tree hl, hk.workingDirectory] at hs₂
  exact ⟨s₂, hs₂⟩

/-- A clean audit has nothing to fix. -/
theorem perform_audit_fixing (hl : s.logFile = none) (hfix : a.fix = false)
    (h : (audit root a).perform s = (.ok report, s')) (hclean : report.isClean = true) :
    ∃ s₁, (audit root a.fixing).perform s = (.ok report, s₁) ∧ s.Turns s.tree s₁ := by
  obtain ⟨hroot, license, inDirectory, paths, hlicense, hdir, hpaths⟩ := parts_of_audit hl h
  obtain ⟨_, hs, -⟩ := perform_audit hl hroot hlicense hdir hpaths
  obtain ⟨s₁, hs₁, hturns⟩ := perform_audit (a := a.fixing) hl hroot hlicense hdir hpaths
  rw [h, Prod.mk.injEq, Except.ok.injEq] at hs
  obtain ⟨rfl, -⟩ := hs
  have hverdicts : ∀ p ∈ paths, ∃ v,
      s.tree.outcome s.workingDirectory (a.orderOf s license root p) p = .checked v ∧
      s.tree.outcome s.workingDirectory (a.fixing.orderOf s license root p) p = .checked v ∧
      v.newText? = none := by
    intro p hp
    obtain ⟨v, hv, hneeds⟩ :=
      AuditReport.exists_verdict_of_isClean hclean (List.mem_map.2 ⟨p, hp, rfl⟩)
    have hverdict := FileTree.verdict?_outcome_eq_some_iff.1 (by rw [hv]; rfl :
      (s.tree.outcome s.workingDirectory (a.orderOf s license root p) p).verdict? = some v)
    obtain ⟨hfixing, hnew⟩ := FileTree.verdict?_fixing hfix hverdict hneeds
    exact ⟨v, hv, by rw [FileTree.outcome]; exact congrArg (FileOutcome.of p) hfixing, hnew⟩
  refine ⟨s₁, ?_, ?_⟩
  · rw [hs₁, FileTree.report, FileTree.report, List.map_congr_left fun p hp => ?_]
    obtain ⟨v, hv, hv', -⟩ := hverdicts p hp
    rw [hv, hv']
  · rwa [FileTree.afterAll_eq_self fun p hp => ?_] at hturns
    obtain ⟨v, -, hv', hnew⟩ := hverdicts p hp
    rw [hv']
    exact hnew

end Run

end LicenseAudit
