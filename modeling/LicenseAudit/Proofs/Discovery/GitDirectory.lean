import LicenseAudit.Proofs.Discovery.Found
import LicenseAudit.Proofs.Ignore.LastPattern

/-!
# Files of version control

The fixed pattern `.git/` stands between the patterns of the ignore file and the excludes. It fits
everything in a directory `.git` at any depth, unless a directory above has a line feed in its name
(`gitDirectory_fits`). So no ignore file takes a file in such a directory back, but an exclude does
that starts with an exclamation mark: where discovery finds one, the last exclude that fits it is of
this kind (`lastFit_of_mem_discover`).
-/

namespace LicenseAudit

open Text

/-- The directory in which version control keeps its own files. -/
def gitName : Text := ".git"

/-- The fixed pattern. -/
def gitDirectory : IgnorePattern where
  keeps := false
  shape := .glob ⟨.toSlash :: gitName.map fun c => .one (.only c), .slash⟩

theorem ofText?_gitDirectory : IgnorePattern.ofText? ".git/" = .ok (some gitDirectory) := by
  have h : (IgnorePattern.ofText? ".git/").toOption = some (some gitDirectory) := by
    decide +kernel
  exact eq_ok_of_toOption h

/-! ## What the fixed pattern fits -/

theorem mem_endsWhile_append {p : Char → Bool} {a : Text} (h : ∀ c ∈ a, p c = true) (b : Text) :
    b ∈ endsWhile p (a ++ b) := by
  induction a with
  | nil => cases b <;> simp [endsWhile]
  | cons c a ih =>
    rw [List.cons_append, endsWhile, if_pos (h c (List.mem_cons_self ..))]
    exact List.mem_cons_of_mem _ (ih fun d hd => h d (List.mem_cons_of_mem _ hd))

theorem mem_endsAfterSome_append {p : Char → Bool} {a : Text} (hne : a ≠ [])
    (h : ∀ c ∈ a, p c = true) (b : Text) : b ∈ endsAfterSome p (a ++ b) := by
  obtain ⟨c, a, rfl⟩ := List.exists_cons_of_ne_nil hne
  rw [List.cons_append, endsAfterSome, if_pos (h c (List.mem_cons_self ..))]
  exact mem_endsWhile_append (fun d hd => h d (List.mem_cons_of_mem _ hd)) b

/-- The characters of a text are taken off it one after the other. -/
theorem leaves_only (mark s : Text) : Leaves (mark.map fun c => .one (.only c)) (mark ++ s) s := by
  induction mark with
  | nil => exact .nil s
  | cons c mark ih => exact .cons (by simp [Piece.rests, CharSet.has]) ih

section Names

variable {front inner : List Text}

/-- Directories are taken off in front of a path where the names hold no line feed. -/
theorem mem_rests_toSlash (hfront : ∀ name ∈ front, name ≠ [] ∧ '\n' ∉ name) (hinner : inner ≠ []) :
    joinWith ['/'] inner ∈ Piece.toSlash.rests (joinWith ['/'] (front ++ inner)) := by
  by_cases hempty : front = []
  · subst hempty
    exact List.mem_cons_self ..
  · rw [joinWith_append _ hempty hinner, List.append_assoc]
    refine List.mem_cons_of_mem _ (List.mem_filterMap.2 ⟨_, mem_endsAfterSome_append ?_ ?_ _, rfl⟩)
    · exact joinWith_ne_nil hempty fun name hname => (hfront name hname).1
    · intro c hc
      rcases mem_joinWith hc with hc | ⟨name, hname, hc⟩
      · rw [List.mem_singleton.1 hc]; rfl
      · have hne : c ≠ '\n' := fun h => (hfront name hname).2 (h ▸ hc)
        simpa [onLine] using hne

/-- Patterns see a path of names as it is. -/
theorem patternPath_joinWith {names : List Text} (h : ∀ name ∈ names, isName name = true) :
    patternPath (joinWith ['/'] names) = joinWith ['/'] names := by
  cases names with
  | nil => rfl
  | cons name rest =>
    obtain ⟨hempty, hdot, -, hslash, -⟩ := isName_iff.1 (h name (List.mem_cons_self ..))
    -- The first name is neither empty nor a dot and holds no slash, so the path starts neither with
    -- a slash nor with a dot and a slash.
    rw [patternPath]
    · intro s hs
      cases name <;> cases rest <;> simp_all [joinWith]
    · intro s hs
      rcases name with _ | ⟨c, _ | ⟨d, name⟩⟩ <;> cases rest <;> simp_all [joinWith]

/-- The fixed pattern fits what is in its directory, unless a name above holds a line feed. -/
theorem gitDirectory_fits (h : ∀ name ∈ front ++ gitName :: inner, isName name = true)
    (hfront : ∀ name ∈ front, '\n' ∉ name) (hinner : inner ≠ []) :
    gitDirectory.fits (joinWith ['/'] (front ++ gitName :: inner)) = true := by
  rw [IgnorePattern.fits, patternPath_joinWith h]
  refine Glob.fits_iff.2 ⟨'/' :: joinWith ['/'] inner,
    .cons (m := joinWith ['/'] (gitName :: inner)) ?_ ?_, rfl⟩
  · refine mem_rests_toSlash (fun name hname => ⟨?_, hfront name hname⟩) (by simp)
    exact (isName_iff.1 (h name (List.mem_append_left _ hname))).1
  · rw [joinWith_cons_of_ne_nil _ _ hinner, List.append_assoc]
    exact leaves_only gitName _

end Names

/-! ## What discovery finds of it -/

section Discovery

variable {s s' : Session} {table : List Grammar} {root p : Path} {excludes front inner : List Text}
  {useGitignore : Bool} {found : List Path}

/-- Where discovery finds a file in a directory of version control below the root, a directory above
has a line feed in its name, or the last exclude that fits the file starts with an exclamation
mark. -/
theorem lastFit_of_mem_discover
    (h : (Run.discover table root excludes useGitignore).perform s = (.ok found, s'))
    (hp : p ∈ found) (hparts : p.parts = root.parts ++ (front ++ gitName :: inner))
    (hinner : inner ≠ []) :
    (∃ name ∈ front, '\n' ∈ name) ∨
      ∃ e q, LastFit (splitExcludes excludes) (joinWith ['/'] (front ++ gitName :: inner)) e q ∧
        startsWith ['!'] e = true := by
  rcases Run.discover_eq_ok h with rfl | ⟨hroot, rfl | ⟨t, listed, patterns, hread, rfl⟩⟩
  · simp at hp
  · rw [List.mem_singleton.1 hp] at hparts
    simp at hparts
  · rw [sortPaths, List.mem_mergeSort, List.mem_filter] at hp
    obtain ⟨hp, hignores⟩ := hp
    obtain ⟨names, hne, hnames, rfl⟩ := FileTree.exists_names_of_mem_candidates hp
    obtain rfl : names = front ++ gitName :: inner := List.append_cancel_left hparts
    rw [relativeKey_below _ hroot hne hnames, Bool.not_eq_true'] at hignores
    by_cases hfront : ∃ name ∈ front, '\n' ∈ name
    · exact .inl hfront
    · simp only [not_exists, not_and] at hfront
      obtain ⟨e, q, hlast, hkeeps⟩ := exists_lastFit_of_not_ignores ofText?_gitDirectory rfl
        (gitDirectory_fits hnames hfront hinner) hread hignores
      exact .inr ⟨e, q, hlast, startsWith_of_keeps hlast.reads hkeeps⟩

end Discovery

/-- A session with a hook of version control and a program. -/
def hookSession : Session where
  tree := (((FileTree.empty.makeDirectory [] gitName).makeDirectory [gitName] "hooks").putFile
    [gitName, "hooks".toList] "pre-commit.sh" []).putFile [] "app.py" []
  currentYear := 2024
  timeStamp := []

/-- The patterns of the session when the excludes take version control back. -/
def hookPatterns : List IgnorePattern := [gitDirectory, { gitDirectory with keeps := true }]

theorem discover_hookSession : ∃ s',
    (Run.discover builtinGrammars (Path.ofText ".") ["!.git/"] true).perform hookSession =
      (.ok [Path.ofText ".git/hooks/pre-commit.sh", Path.ofText "app.py"], s') := by
  have hpatterns : ((Run.ignoreList (Path.ofText ".") ["!.git/"] true).perform
      hookSession).1.toOption = some hookPatterns := by decide +kernel
  have hkept : (hookSession.tree.candidates hookSession.workingDirectory builtinGrammars
      (Path.ofText ".")).filter (fun p => !ignores hookPatterns
        (relativeKey hookSession.workingDirectory p (Path.ofText "."))) =
      [Path.ofText ".git/hooks/pre-commit.sh", Path.ofText "app.py"] := by decide +kernel
  have h : ((Run.discover builtinGrammars (Path.ofText ".") ["!.git/"] true).perform
      hookSession).1 = _ :=
    Run.perform_discover rfl (eq_ok_of_toOption (by decide +kernel))
      (eq_ok_of_toOption (by decide +kernel)) (eq_ok_of_toOption hpatterns)
  rw [hkept, sortPaths, List.mergeSort_of_pairwise (by decide)] at h
  exact ⟨_, Prod.ext h rfl⟩

theorem lastFit_of_mem_discover_hook : ∃ e q,
    LastFit (splitExcludes ["!.git/"]) (joinWith ['/'] [gitName, "hooks", "pre-commit.sh"]) e q ∧
      startsWith ['!'] e = true := by
  obtain ⟨s', h⟩ := discover_hookSession
  have hfound := lastFit_of_mem_discover (p := Path.ofText ".git/hooks/pre-commit.sh") h (by simp)
    (show _ = [] ++ ([] ++ gitName :: ["hooks".toList, "pre-commit.sh".toList]) by decide) (by simp)
  simpa using hfound

/-- Not everything in a directory of version control is left out. -/
theorem not_forall_discover_outside_gitDirectory :
    ¬ ∀ (table : List Grammar) (root : Path) (excludes : List Text) (useGitignore : Bool)
      (s s' : Session) (found : List Path),
      (Run.discover table root excludes useGitignore).perform s = (.ok found, s') →
        ∀ p ∈ found, ∀ front inner, p.parts = root.parts ++ (front ++ gitName :: inner) →
          inner = [] := by
  intro hall
  obtain ⟨s', h⟩ := discover_hookSession
  have hinner := hall _ _ _ _ _ _ _ h (Path.ofText ".git/hooks/pre-commit.sh") (by simp) []
    ["hooks".toList, "pre-commit.sh".toList] (by decide)
  simp at hinner

end LicenseAudit
