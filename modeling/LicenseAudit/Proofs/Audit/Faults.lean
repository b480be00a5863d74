import LicenseAudit.Proofs.Audit.Independence
import LicenseAudit.Proofs.Session.Failing
import LicenseAudit.Proofs.Session.Sparing

/-!
# Why audits fail

An audit fails before it comes to the first file, or not at all: whatever stops the check of a file
is an outcome of the file (`Run.failsFor_auditFiles`). So an audit that fails has kept the session,
and its failure is about the root, the template or what is to be ignored (`Run.failsFor_audit`).
-/

namespace LicenseAudit

open Text

/-- Why an audit of a root cannot be carried out. What it finds is in a tree that has the files of a
tree `t` but for those at some locations, to which the log is written. -/
inductive AuditFault (t : FileTree) (but : List Location) (cwd : Location) (root : Path)
    (a : AuditOrder) : Failure → Prop
  | noRoot : AuditFault t but cwd root a (.noRoot root)
  | noTemplate : AuditFault t but cwd root a (.noTemplate a.template)
  | file (fault : FileFault) (p : Path) : AuditFault t but cwd root a (.file fault p)
  /-- The template is no text. -/
  | template {t' : FileTree} {content : Bytes} {m : Utf8.Malformed} (ht : t.SameFiles but t')
    (hread : t'.read cwd a.template = .ok content) (hdecode : Utf8.decode content = .error m) :
    AuditFault t but cwd root a (.malformedText m)
  /-- The root's ignore file is no text. -/
  | ignoreFile {t' : FileTree} {content : Bytes} {m : Utf8.Malformed} (ht : t.SameFiles but t')
    (huse : a.useGitignore = true) (hread : t'.read cwd (root.child ignoreFileName) = .ok content)
    (hdecode : Utf8.decode content = .error m) : AuditFault t but cwd root a (.malformedText m)
  /-- A pattern of the root's ignore file is invalid. -/
  | listed {t' : FileTree} {content : Bytes} {written pattern : Text} {f : Failure}
    (ht : t.SameFiles but t') (huse : a.useGitignore = true)
    (hread : t'.read cwd (root.child ignoreFileName) = .ok content)
    (hdecode : Utf8.decode content = .ok written)
    (hmem : pattern ∈ ignoreFilePatterns (unifyNewlines written))
    (h : IgnorePattern.ofText? pattern = .error f) : AuditFault t but cwd root a f
  /-- An exclude is invalid. -/
  | exclude {pattern : Text} {f : Failure} (hmem : pattern ∈ splitExcludes a.excludes)
    (h : IgnorePattern.ofText? pattern = .error f) : AuditFault t but cwd root a f

theorem exists_of_readPatterns_eq_error {patterns : List Text} {f : Failure}
    (h : readPatterns patterns = .error f) :
    ∃ pattern ∈ patterns, IgnorePattern.ofText? pattern = .error f := by
  induction patterns with
  | nil => simp [readPatterns] at h
  | cons pattern rest ih =>
    simp only [readPatterns, bind, Except.bind] at h
    split at h
    · next e he =>
      cases h
      exact ⟨pattern, List.mem_cons_self .., he⟩
    · split at h
      · next e he =>
        cases h
        obtain ⟨q, hq, hf⟩ := ih he
        exact ⟨q, List.mem_cons_of_mem _ hq, hf⟩
      · cases h

namespace Run

variable {s s' : Session} {root p : Path} {a : AuditOrder} {P : Session → Failure → Prop}

/-! ## The files of an audit -/

/-- What stops the check of a file concerns this file only. -/
theorem failsFor_checkFile (order : Order) (hp : p.holdsNull = false) :
    FailsFor (fun _ f => f.isLocal = true) (checkFile order p) s := by
  refine (failsFor_readText (fun _ _ _ => rfl) hp fun _ _ _ _ => rfl).bind fun text s₁ _ => ?_
  split
  · exact failsFor_fail rfl
  · refine .logAll_bind ?_
    dsimp only
    split
    · exact failsFor_pure _
    · exact (failsFor_writeBytes (fun _ _ _ => rfl) hp _).bind fun _ _ _ =>
        .log_bind (failsFor_pure _)

theorem failsFor_auditFile (order : Order) (hp : p.holdsNull = false) :
    FailsFor P (auditFile order p) s := by
  refine .log_bind (.tryCatch fun f s₁ h => ?_)
  have hlocal : f.isLocal = true := by
    refine (failsFor_checkFile order hp).bind (fun _ _ _ => failsFor_pure _) f s₁ h
  exact .ite (fun _ => .logAll_bind (failsFor_pure _)) fun hnot => absurd hlocal hnot

/-- Files stop no audit. -/
theorem failsFor_auditFiles (orderOf : Path → Order) {ps : List Path}
    (hps : ∀ p ∈ ps, p.holdsNull = false) : FailsFor P (auditFiles orderOf ps) s := by
  induction ps generalizing s with
  | nil => exact failsFor_pure _
  | cons p rest ih =>
    exact (failsFor_auditFile _ (hps p (List.mem_cons_self ..))).bind fun _ _ _ =>
      (ih fun q hq => hps q (List.mem_cons_of_mem _ hq)).bind fun _ _ _ => failsFor_pure _

/-! ## Before the files -/

section Before

variable {t : FileTree} {but : List Location} (ht : t.SameFiles but s.tree)

include ht

theorem failsFor_readTemplate :
    FailsFor (fun _ => AuditFault t but s.workingDirectory root a) (readTemplate a.template) s := by
  refine (failsFor_isFile (fun _ => .file) _).bind fun isFile s₁ hfile =>
    .ite (fun htrue => ?_) fun _ => failsFor_fail .noTemplate
  have hp := holdsNull_of_isFile_eq_ok hfile htrue
  obtain rfl := (isFile_eq_ok hfile).1
  exact failsFor_readText (fun _ => .file) hp fun _ _ => .template ht

theorem failsFor_ignoreFile (hroot : root.holdsNull = false) (huse : a.useGitignore = true) :
    FailsFor (fun _ => AuditFault t but s.workingDirectory root a) (ignoreFile root) s := by
  have hfile := Path.holdsNull_child hroot (by decide : isName ignoreFileName = true)
  refine (failsFor_checkPath hfile).bind fun _ s₁ h₁ => .look_bind ?_
  obtain rfl := (checkPath_eq_ok h₁).1
  split
  · exact failsFor_pure _
  · exact .log_bind (failsFor_pure _)
  · next content hread =>
    split
    · next m hdecode => exact failsFor_fail (.ignoreFile ht huse hread hdecode)
    · exact .log_bind (failsFor_pure _)

omit ht in
/-- The patterns of an ignore file are those of its text. -/
theorem exists_of_mem_ignoreFile {listed : List Text} {pattern : Text}
    (h : (ignoreFile root).perform s = (.ok listed, s')) (hmem : pattern ∈ listed) :
    ∃ content written,
      s.tree.read s.workingDirectory (root.child ignoreFileName) = .ok content ∧
      Utf8.decode content = .ok written ∧
      pattern ∈ ignoreFilePatterns (unifyNewlines written) := by
  obtain ⟨_, s₁, hcheck, hlook⟩ := perform_bind_eq_ok_iff.1 h
  obtain rfl := (checkPath_eq_ok hcheck).1
  rw [perform_look_bind] at hlook
  split at hlook
  · cases hlook
    simp at hmem
  · rw [perform_log_bind] at hlook
    cases hlook
    simp at hmem
  · next content hread =>
    split at hlook
    · simp at hlook
    · next written hdecode =>
      rw [perform_log_bind] at hlook
      cases hlook
      exact ⟨content, written, hread, hdecode, hmem⟩

theorem failsFor_ignoreList (hroot : root.holdsNull = false) :
    FailsFor (fun _ => AuditFault t but s.workingDirectory root a)
      (ignoreList root a.excludes a.useGitignore) s := by
  unfold ignoreList
  extract_lets readAll
  have hall : ∀ listed s₁, (∀ pattern ∈ listed, a.useGitignore = true ∧ ∃ content written,
        s.tree.read s.workingDirectory (root.child ignoreFileName) = .ok content ∧
        Utf8.decode content = .ok written ∧
        pattern ∈ ignoreFilePatterns (unifyNewlines written)) →
      FailsFor (fun _ => AuditFault t but s.workingDirectory root a) (readAll listed) s₁ :=
    fun listed s₁ hlisted => by
      refine .log_bind ?_
      split
      · exact failsFor_pure _
      · next f hf =>
        refine failsFor_fail ?_
        obtain ⟨pattern, hmem, herror⟩ := exists_of_readPatterns_eq_error hf
        rw [List.mem_append, List.mem_append] at hmem
        rcases hmem with (hmem | hmem) | hmem
        · obtain ⟨huse, content, written, hread, hdecode, hmem⟩ := hlisted pattern hmem
          exact .listed ht huse hread hdecode hmem herror
        · rw [List.mem_singleton.1 hmem, ofText?_gitDirectory] at herror
          cases herror
        · exact .exclude hmem herror
  refine .ite (fun huse => ?_) fun _ => (failsFor_pure _).bind fun listed s₁ h => ?_
  · exact (failsFor_ignoreFile ht hroot huse).bind fun listed s₁ h =>
      hall listed s₁ fun pattern hmem => ⟨huse, exists_of_mem_ignoreFile h hmem⟩
  · cases h
    exact hall [] s (by simp)

variable (hl : ∀ loc ∈ s.logFile, loc ∈ but)

include hl

theorem failsFor_discover (table : List Grammar) (hroot : root.holdsNull = false) :
    FailsFor (fun _ => AuditFault t but s.workingDirectory root a)
      (discover table root a.excludes a.useGitignore) s := by
  refine (failsFor_isFile (fun _ => .file) root).bind fun _ s₁ h₁ =>
    .ite (fun _ => failsFor_pure _) fun _ => ?_
  refine (failsFor_isDirectory (fun _ => .file) root).bind fun _ s₂ h₂ =>
    .ite (fun _ => .log_bind (failsFor_pure _)) fun _ => .log_bind ?_
  have hk := (((looks_isFile root).keeps h₁).trans ((looks_isDirectory root).keeps h₂)).trans
    (s₂.keeps_log ⟨.info, "finding files ..."⟩)
  refine FailsFor.bind ?_ fun _ _ _ => .look_bind ?_
  · rw [← hk.workingDirectory]
    exact failsFor_ignoreList (ht.trans (hk.spares hl).files) hroot
  · exact FailsFor.bind (fun f s' h => by simp at h) fun _ _ _ =>
      .logAll_bind (.log_bind (failsFor_pure _))

/-- Why an audit cannot be carried out; it has kept the session then. -/
theorem failsFor_audit (hroot : root.holdsNull = false) :
    FailsFor (fun s' f => s.Keeps s' ∧ AuditFault t but s.workingDirectory root a f)
      (audit root a) s := by
  have hk₀ := s.keeps_log ⟨.info, "> validating \"" ++ root.toText ++ "\" for header license \"" ++
    a.template.toText ++ "\" ..."⟩
  refine .log_bind (FailsFor.bind ?_ fun hasRoot s₁ h₁ => ?_)
  · refine FailsFor.and_keeps ?_ (looks_has root) hk₀
    exact (failsFor_find? fun _ => .file _ _).bind fun _ _ _ => failsFor_pure _
  have hk₁ := hk₀.trans ((looks_has root).keeps h₁)
  refine .ite (fun _ => failsFor_fail ⟨hk₁, .noRoot⟩) fun _ => FailsFor.bind ?_
    fun license s₂ h₂ => .log_bind ?_
  · refine FailsFor.and_keeps ?_ (looks_readTemplate _) hk₁
    rw [← hk₁.workingDirectory]
    exact failsFor_readTemplate (ht.trans (hk₁.spares hl).files)
  have hk₂ := (hk₁.trans ((looks_readTemplate _).keeps h₂)).trans
    (s₂.keeps_log ⟨.debug, "file license start years: " ++ a.years.shown⟩)
  refine ((failsFor_isDirectory (fun _ => .file) root).and_keeps
    (looks_isDirectory root) hk₂).bind fun inDirectory s₃ h₃ => ?_
  have hk₃ := hk₂.trans ((looks_isDirectory root).keeps h₃)
  refine FailsFor.bind ?_ fun paths s₄ hpaths => ?_
  · refine FailsFor.and_keeps ?_ (looks_discover ..) hk₃
    rw [← hk₃.workingDirectory]
    have hspares := hk₃.spares hl
    exact failsFor_discover (ht.trans hspares.files) hspares.logFile _ hroot
  refine FailsFor.bind (fun f s' h => by simp at h) fun session s₅ _ => ?_
  refine (failsFor_auditFiles _ fun p hp => ?_).bind fun _ _ _ => .logAll_bind (failsFor_pure _)
  obtain ⟨names, hnames, rfl⟩ := (exists_names_of_discover hpaths p hp).2
  exact Path.holdsNull_below hroot hnames

end Before

end Run

end LicenseAudit
