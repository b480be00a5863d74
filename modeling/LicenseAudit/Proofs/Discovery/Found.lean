import LicenseAudit.Proofs.Session.Perform
import LicenseAudit.Proofs.Tree.Locations

/-!
# What discovery finds

Discovery only looks (`Run.looks_discover`). What it finds is a root that is a file, nothing, or the
candidates that the patterns of the root do not ignore (`Run.discover_eq_ok`). A candidate is a file
below the root, none is listed twice, and no two of them lead to the same place
(`Run.nodup_resolve_of_discover`).
-/

namespace LicenseAudit

open Text

variable {s s' : Session} {table : List Grammar} {root p : Path} {cwd : Location}

/-! ## Candidates -/

namespace FileTree

variable {t : FileTree}

theorem mem_candidates_iff : p ∈ t.candidates cwd table root ↔
    ∃ loc names content access, t.locate cwd root = .ok loc ∧ names ≠ [] ∧
      t.get? (loc ++ names) = some (.file content access) ∧
      (lookupGrammar? table p.name).isSome ∧ p = root.below names := by
  rw [candidates]
  rcases hl : t.locate cwd root with fault | loc
  · simp
  · simp only [List.mem_filterMap, Prod.exists, mem_below_iff]
    constructor
    · rintro ⟨names, node, ⟨hne, hget⟩, h⟩
      split at h
      · simp at h
      · next hc =>
        simp only [Bool.or_eq_true, not_or, Option.some.injEq] at hc h
        subst h
        cases node with
        | directory => simp [Node.isDirectory] at hc
        | file content access =>
          exact ⟨loc, names, content, access, rfl, hne, hget,
            by simpa [Option.isSome_iff_ne_none] using hc.2, rfl⟩
    · rintro ⟨_, names, content, access, ⟨⟩, hne, hget, hg, rfl⟩
      refine ⟨names, _, ⟨hne, hget⟩, ?_⟩
      rw [Option.isSome_iff_ne_none] at hg
      simpa [Node.isDirectory, Path.below] using hg

/-- A candidate is spelled out below the root in names. -/
theorem exists_names_of_mem_candidates (h : p ∈ t.candidates cwd table root) :
    ∃ names, names ≠ [] ∧ (∀ name ∈ names, isName name = true) ∧ p = root.below names := by
  obtain ⟨loc, names, content, access, -, hne, hget, -, rfl⟩ := mem_candidates_iff.1 h
  exact ⟨names, hne,
    fun name hn => t.isName_of_get? hget name (List.mem_append_right _ hn), rfl⟩

theorem nodup_candidates : (t.candidates cwd table root).Nodup := by
  rw [candidates]
  split
  · exact List.nodup_nil
  · next loc hl =>
    have hbelow := List.pairwise_map.1 (nodup_below : ((t.below loc).map Prod.fst).Nodup)
    refine hbelow.filterMap _ fun e e' hne p h p' h' => ?_
    simp only [Option.ite_none_left_eq_some, Option.some.injEq] at h h'
    rw [← h.2, ← h'.2]
    simpa using hne

end FileTree

/-- No two of the paths below a root lead to the same place. -/
theorem nodup_resolve_of_names {ps : List Path} (hps : ps.Nodup)
    (h : ∀ p ∈ ps, ∃ names, (∀ name ∈ names, isName name = true) ∧ p = root.below names) :
    (ps.map (Path.resolve cwd)).Nodup := by
  refine hps.map_on fun p hp q hq hpq => ?_
  obtain ⟨names, hnames, rfl⟩ := h p hp
  obtain ⟨names', hnames', rfl⟩ := h q hq
  rw [Path.resolve_below hnames, Path.resolve_below hnames'] at hpq
  rw [List.append_cancel_left hpq]

/-! ## Discovery taken apart -/

namespace Run

theorem looks_ignoreFile (root : Path) : Looks (ignoreFile root) := by
  refine (looks_checkPath _).bind fun _ => (looks_look _).bind fun r => ?_
  split
  · exact looks_pure _
  · exact (looks_log _ _).bind fun _ => looks_pure _
  · split
    · exact looks_fail
    · exact (looks_log _ _).bind fun _ => looks_pure _

theorem looks_ignoreList (root : Path) (excludes : List Text) (useGitignore : Bool) :
    Looks (ignoreList root excludes useGitignore) := by
  unfold ignoreList
  extract_lets readAll
  have hall : ∀ listed, Looks (readAll listed) := fun listed => by
    refine (looks_log _ _).bind fun _ => ?_
    split
    · exact looks_pure _
    · exact looks_fail
  exact ((looks_ignoreFile root).bind hall).ite ((looks_pure _).bind hall)

/-- Discovery only looks. -/
theorem looks_discover (table : List Grammar) (root : Path) (excludes : List Text)
    (useGitignore : Bool) : Looks (discover table root excludes useGitignore) := by
  refine (looks_isFile root).bind fun _ => (looks_pure _).ite ?_
  refine (looks_isDirectory root).bind fun _ => ((looks_log _ _).bind fun _ => looks_pure _).ite ?_
  refine (looks_log _ _).bind fun _ => (looks_ignoreList ..).bind fun patterns =>
    (looks_look _).bind fun paths =>
      looks_get_bind (fun s s' hcwd => by simp only [hcwd]) fun s => ?_
  exact (looks_logAll _).bind fun _ => (looks_log _ _).bind fun _ => looks_pure _

/-- The patterns of a root are those of its ignore file, the fixed ones and the excludes, read in
this order. -/
theorem readPatterns_of_ignoreList {excludes : List Text} {useGitignore : Bool}
    {patterns : List IgnorePattern}
    (h : (ignoreList root excludes useGitignore).perform s = (.ok patterns, s')) :
    ∃ listed, readPatterns (listed ++ alwaysIgnored ++ splitExcludes excludes) = .ok patterns := by
  unfold ignoreList at h
  extract_lets readAll at h
  have hall : ∃ listed s₁, (readAll listed).perform s₁ = (.ok patterns, s') := by
    split at h
    · obtain ⟨listed, s₁, -, h⟩ := perform_bind_eq_ok_iff.1 h
      exact ⟨listed, s₁, h⟩
    · exact ⟨[], s, h⟩
  obtain ⟨listed, s₁, h⟩ := hall
  refine ⟨listed, ?_⟩
  rw [perform_log_bind] at h
  split at h
  · next ps hps =>
    rw [perform_pure] at h
    cases h
    exact hps
  · simp at h

/-- What discovery finds: a root that is a file, or nothing where the root is no directory, or the
candidates that no pattern ignores. -/
theorem discover_eq_ok {excludes : List Text} {useGitignore : Bool} {found : List Path}
    (h : (discover table root excludes useGitignore).perform s = (.ok found, s')) :
    found = [] ∨ root.holdsNull = false ∧ (found = [root] ∨
      ∃ (t : FileTree) (listed : List Text) (patterns : List IgnorePattern),
        readPatterns (listed ++ alwaysIgnored ++ splitExcludes excludes) = .ok patterns ∧
        found = sortPaths ((t.candidates s.workingDirectory table root).filter fun p =>
          !ignores patterns (relativeKey s.workingDirectory p root))) := by
  obtain ⟨isFile, s₁, hfile, h⟩ := perform_bind_eq_ok_iff.1 h
  obtain ⟨rfl, hisFile⟩ := isFile_eq_ok hfile
  cases isFile with
  | true =>
    rw [if_pos rfl, perform_pure] at h
    cases h
    exact .inr ⟨FileTree.holdsNull_of_isFile hisFile.symm, .inl rfl⟩
  | false =>
    rw [if_neg Bool.false_ne_true] at h
    obtain ⟨isDirectory, s₂, hdir, h⟩ := perform_bind_eq_ok_iff.1 h
    obtain ⟨rfl, hisDirectory⟩ := isDirectory_eq_ok hdir
    cases isDirectory with
    | false =>
      rw [Bool.not_false, if_pos rfl, perform_log_bind, perform_pure] at h
      cases h
      exact .inl rfl
    | true =>
      rw [Bool.not_true, if_neg Bool.false_ne_true, perform_log_bind] at h
      obtain ⟨patterns, s₃, hpatterns, h⟩ := perform_bind_eq_ok_iff.1 h
      obtain ⟨listed, hread⟩ := readPatterns_of_ignoreList hpatterns
      have hcwd : s₃.workingDirectory = s₂.workingDirectory :=
        ((s₂.keeps_log _).trans ((looks_ignoreList ..).keeps hpatterns)).workingDirectory
      rw [candidates, perform_look_bind, perform_get_bind, perform_logAll_bind, perform_log_bind,
        perform_pure, hcwd] at h
      cases h
      exact .inr ⟨FileTree.holdsNull_of_isDirectory hisDirectory.symm,
        .inr ⟨_, listed, patterns, hread, rfl⟩⟩

/-- Discovery in a directory whose patterns can be read, while no log is written. -/
theorem perform_discover {excludes : List Text} {useGitignore : Bool}
    {patterns : List IgnorePattern} (hl : s.logFile = none)
    (hfile : ((isFile root).perform s).1 = .ok false)
    (hdir : ((isDirectory root).perform s).1 = .ok true)
    (hpatterns : ((ignoreList root excludes useGitignore).perform s).1 = .ok patterns) :
    ((discover table root excludes useGitignore).perform s).1 =
      .ok (sortPaths ((s.tree.candidates s.workingDirectory table root).filter fun p =>
        !ignores patterns (relativeKey s.workingDirectory p root))) := by
  obtain ⟨s₁, hk₁, h₁⟩ := (looks_isFile root).perform_bind (.refl s) hl hfile
  rw [discover, h₁, if_neg Bool.false_ne_true]
  obtain ⟨s₂, hk₂, h₂⟩ := (looks_isDirectory root).perform_bind hk₁ hl hdir
  rw [h₂, Bool.not_true, if_neg Bool.false_ne_true, perform_log_bind]
  obtain ⟨s₃, hk₃, h₃⟩ :=
    (looks_ignoreList ..).perform_bind (hk₂.trans (s₂.keeps_log _)) hl hpatterns
  rw [h₃, candidates, perform_look_bind, perform_get_bind, perform_logAll_bind, perform_log_bind,
    perform_pure, hk₃.tree hl, hk₃.workingDirectory]

/-! ## What is found -/

section Found

variable {excludes : List Text} {useGitignore : Bool} {found : List Path}
  (h : (discover table root excludes useGitignore).perform s = (.ok found, s'))

include h

/-- What is found is the root itself or spelled out in names below it. -/
theorem exists_names_of_discover : ∀ p ∈ found, root.holdsNull = false ∧
    ∃ names, (∀ name ∈ names, isName name = true) ∧ p = root.below names := by
  intro p hp
  rcases discover_eq_ok h with rfl | ⟨hroot, rfl | ⟨t, listed, patterns, -, rfl⟩⟩
  · simp at hp
  · exact ⟨hroot, [], by simp, by rw [List.mem_singleton.1 hp]; simp [Path.below]⟩
  · rw [sortPaths, List.mem_mergeSort] at hp
    obtain ⟨names, -, hnames, rfl⟩ :=
      FileTree.exists_names_of_mem_candidates (List.mem_of_mem_filter hp)
    exact ⟨hroot, names, hnames, rfl⟩

theorem nodup_discover : found.Nodup := by
  rcases discover_eq_ok h with rfl | ⟨-, rfl | ⟨t, listed, patterns, -, rfl⟩⟩
  · exact List.nodup_nil
  · exact List.nodup_singleton root
  · exact (List.mergeSort_perm ..).nodup_iff.2 (FileTree.nodup_candidates.filter _)

/-- No two of the files found are the same file. -/
theorem nodup_resolve_of_discover (cwd : Location) : (found.map (Path.resolve cwd)).Nodup :=
  nodup_resolve_of_names (nodup_discover h) fun p hp => (exists_names_of_discover h p hp).2

end Found

end Run

end LicenseAudit
