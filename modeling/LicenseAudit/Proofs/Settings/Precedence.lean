import LicenseAudit.Proofs.Settings.Loading
import Mathlib.Data.List.Induction

/-!
# The precedence of layers

Settings are put together from layers: the defaults, the file found in the root, the file that was
named, the command line. `Precedence` says field by field what they come to. Most settings are those
of the highest layer that has them; the excludes of all layers count, each where it comes first; and
the standalone license is decided by the highest layer that says anything about it.

The last one needs an argument, because a draft keeps the template and the word that the license is
not checked apart, and each of the two is overlaid on its own. A layer that names a template also
says that the license is checked (`Draft.IsDecided`), so what a lower layer says of either never
shows through (`Draft.standaloneLicense_freeze_overlay`). All layers that are read are of this kind.
-/

namespace LicenseAudit

open Text

/-! ## What layers come to -/

/-- The value of the highest layer that has one; layers are given from the lowest to the highest. -/
def highest {α : Type} (f : Draft → Option α) (layers : List Draft) : Option α :=
  layers.reverse.findSome? f

/-- What a layer says about the standalone license: nothing, that it is not checked, or by which
template it is checked. -/
def Draft.standaloneChoice (d : Draft) : Option (Option Path) :=
  match d.disableStandalone with
  | some true => some none
  | _ => d.standaloneLicense.map some

/-- The texts of lists one after the other, each list without what a list before it holds or what
is in `before`. -/
def newTexts (before : List Text) : List (List Text) → List Text
  | [] => []
  | texts :: rest =>
    texts.filter (fun e => !before.contains e) ++ newTexts (before ++ texts) rest

/-- The settings that layers come to, given from the lowest to the highest. -/
structure Precedence (layers : List Draft) (s : Settings) : Prop where
  header : highest Draft.headerLicense layers = some s.headerLicense
  fix : highest Draft.fix layers = some s.fix
  gitignore : highest Draft.useGitignore layers = some s.useGitignore
  logFile : highest Draft.logFile layers = s.logFile
  years : ∀ path, highest (fun d => d.years.get? path) layers = s.years.get? path
  excludes : newTexts [] (layers.map Draft.excludes) = s.excludes
  standalone : highest Draft.standaloneChoice layers = some s.standaloneLicense

/-- A layer that does not switch the standalone license off switches it on just when it names a
template. -/
def Draft.IsDecided (d : Draft) : Prop :=
  d.disableStandalone = some true ∨
    d.disableStandalone = d.standaloneLicense.map fun _ => false

theorem highest_concat {α : Type} (f : Draft → Option α) (layers : List Draft) (d : Draft) :
    highest f (layers ++ [d]) = (f d).or (highest f layers) := by
  rw [highest, List.reverse_append, List.reverse_singleton, List.singleton_append,
    List.findSome?_cons, highest]
  cases f d <;> rfl

/-! ## Texts of lists -/

theorem mem_newTexts {before : List Text} {lists : List (List Text)} {e : Text} :
    e ∈ newTexts before lists ↔ e ∉ before ∧ e ∈ lists.flatten := by
  induction lists generalizing before with
  | nil => simp [newTexts]
  | cons texts rest ih =>
    simp only [newTexts, List.mem_append, List.mem_filter, ih, List.flatten_cons]
    by_cases hb : e ∈ before <;> by_cases ht : e ∈ texts <;> simp [hb, ht]

theorem newTexts_concat (before : List Text) (lists : List (List Text)) (texts : List Text) :
    newTexts before (lists ++ [texts]) = newTexts before lists ++
      texts.filter fun e => !(before ++ newTexts before lists).contains e := by
  induction lists generalizing before with
  | nil => simp [newTexts]
  | cons first rest ih =>
    rw [List.cons_append, newTexts, newTexts, ih, ← List.append_assoc]
    congr 1
    refine List.filter_congr fun e _ => ?_
    -- What an earlier list holds again is not among its new texts, but then it is in `before`.
    have hmem : e ∈ before ++ first ++ newTexts (before ++ first) rest ↔
        e ∈ before ++ (first.filter (fun e => !before.contains e) ++
          newTexts (before ++ first) rest) := by
      by_cases hb : e ∈ before <;> simp [hb]
    simp only [List.contains_eq_mem, hmem]

/-! ## One layer over another -/

namespace Draft

variable (lower : Draft) {upper : Draft}

/-- One layer over another: a layer that says something about the standalone license decides. -/
theorem standaloneLicense_freeze_overlay (h : upper.IsDecided) :
    (lower.overlay upper).freeze.standaloneLicense =
      upper.standaloneChoice.getD lower.freeze.standaloneLicense := by
  rcases h with hoff | hon
  · simp [standaloneChoice, freeze, overlay, hoff]
  · rcases hp : upper.standaloneLicense with _ | p <;>
      simp [standaloneChoice, freeze, overlay, hon, hp]

end Draft

/-- The defaults come to themselves. -/
theorem precedence_defaults : Precedence [.defaults] Draft.defaults.freeze where
  header := rfl
  fix := rfl
  gitignore := rfl
  logFile := rfl
  years _ := rfl
  excludes := rfl
  standalone := rfl

/-- What one more layer on top changes. -/
theorem Precedence.overlay {layers : List Draft} {lower upper : Draft}
    (h : Precedence layers lower.freeze) (hupper : upper.IsDecided) :
    Precedence (layers ++ [upper]) (lower.overlay upper).freeze where
  header := by
    rw [highest_concat, h.header]
    cases hu : upper.headerLicense <;> simp [Draft.freeze, Draft.overlay, hu]
  fix := by
    rw [highest_concat, h.fix]
    cases hu : upper.fix <;> simp [Draft.freeze, Draft.overlay, hu]
  gitignore := by
    rw [highest_concat, h.gitignore]
    cases hu : upper.useGitignore <;> simp [Draft.freeze, Draft.overlay, hu]
  logFile := by
    rw [highest_concat, h.logFile]
    rfl
  years path := by
    rw [highest_concat, h.years]
    exact (YearMap.get?_overlay ..).symm
  excludes := by
    rw [List.map_append, List.map_singleton, newTexts_concat, List.nil_append, h.excludes]
    rfl
  standalone := by
    rw [highest_concat, h.standalone, Draft.standaloneLicense_freeze_overlay lower hupper]
    cases upper.standaloneChoice <;> rfl

theorem precedence_stack {layers : List Draft} (h : ∀ d ∈ layers, d.IsDecided) :
    Precedence (.defaults :: layers) (Draft.stack layers).freeze := by
  induction layers using List.reverseRecOn with
  | nil => exact precedence_defaults
  | append_singleton layers d ih =>
    rw [Draft.stack, List.foldl_append, ← List.cons_append]
    exact (ih fun e he => h e (List.mem_append_left _ he)).overlay (h d (by simp))

/-- No layer loses an exclude, and nothing else is excluded. -/
theorem Precedence.mem_excludes {layers : List Draft} {s : Settings} (h : Precedence layers s)
    {e : Text} : e ∈ s.excludes ↔ ∃ d ∈ layers, e ∈ d.excludes := by
  rw [← h.excludes, mem_newTexts]
  simp

/-! ## The layers that are read -/

/-- What a settings table says about the standalone license; paths are taken from `base`. -/
def Table.standaloneChoice (t : Table) (base : Path) : Option (Option Path) :=
  match t.get? "standalone" with
  | some (.truth false) => some none
  | some (.text written) => some (some (base / Path.ofText written))
  | _ => none

/-- What a command line says about the standalone license: that it is not checked, even where a
template is given too. -/
def Overrides.standaloneChoice (o : Overrides) : Option (Option Path) :=
  if o.noStandalone then some none else o.standalone.map some

section Read

variable (base p : Path) (years : YearMap) (t : Table) (o : Overrides)

theorem Draft.isDecided_ofTable : { Draft.ofTable base years t with sources := [p] }.IsDecided := by
  simp only [IsDecided, ofTable, Table.text?]
  rcases t.get? "standalone" with _ | _ | _ | _ | _ | (_ | _) | _ <;> simp

theorem Draft.standaloneChoice_ofTable :
    { Draft.ofTable base years t with sources := [p] }.standaloneChoice =
      t.standaloneChoice base := by
  simp only [standaloneChoice, ofTable, Table.text?, Table.standaloneChoice]
  rcases t.get? "standalone" with _ | _ | _ | _ | _ | (_ | _) | _ <;> simp

theorem Overrides.isDecided_toDraft : (o.toDraft years).IsDecided := by
  rw [Draft.IsDecided, toDraft]
  cases o.noStandalone <;> cases o.standalone <;> simp

theorem Overrides.standaloneChoice_toDraft :
    (o.toDraft years).standaloneChoice = o.standaloneChoice := by
  rw [Draft.standaloneChoice, toDraft, standaloneChoice]
  cases o.noStandalone <;> cases o.standalone <;> simp

end Read

namespace Run

/-- **The settings of a run follow the precedence of its layers.** Whatever layers the file found in
the root and the file that was named give, each of which may be absent, and whatever the command
line says, the settings are there and are those of `Precedence`. The layers of files are those of
settings tables, and what tables and the command line say about the standalone license is what their
layers say. -/
theorem precedence_of_layers {s : Session} {root : Path} {named : Option Path} {noDiscovery : Bool}
    {found explicit : Option Draft} (o : Overrides) (years : YearMap) (hl : s.logFile = none)
    (hfound : ((discoveredLayer root noDiscovery).perform s).1 = .ok found)
    (hexplicit : ((namedLayer named).perform s).1 = .ok explicit) :
    (∃ settings s', (resolveSettings root named noDiscovery (o.toDraft years)).perform s =
        (.ok settings, s') ∧
      Precedence (.defaults :: (found.toList ++ explicit.toList ++ [o.toDraft years])) settings) ∧
    (∀ d ∈ found.toList ++ explicit.toList, ∃ base ys t p,
      d = { Draft.ofTable base ys t with sources := [p] } ∧
      d.standaloneChoice = t.standaloneChoice base) ∧
    (o.toDraft years).standaloneChoice = o.standaloneChoice := by
  have htables := exists_ofTable_of_layers hfound hexplicit
  have hdecided : ∀ d ∈ found.toList ++ explicit.toList ++ [o.toDraft years], d.IsDecided := by
    intro d hd
    rcases List.mem_append.1 hd with hd | hd
    · obtain ⟨base, ys, t, p, rfl⟩ := htables d hd
      exact Draft.isDecided_ofTable base p ys t
    · rw [List.mem_singleton.1 hd]
      exact o.isDecided_toDraft years
  have hsettings := fst_perform_resolveSettings hl root named noDiscovery (o.toDraft years)
  rw [hfound, hexplicit] at hsettings
  refine ⟨⟨_, _, perform_eq_of_fst hsettings, precedence_stack hdecided⟩, fun d hd => ?_,
    o.standaloneChoice_toDraft years⟩
  obtain ⟨base, ys, t, p, rfl⟩ := htables d hd
  exact ⟨base, ys, t, p, rfl, Draft.standaloneChoice_ofTable base p ys t⟩

/-- A session with a settings file in the root that switches the standalone license off and another
file that names a template of it. -/
def layeredSession : Session where
  tree :=
    (FileTree.empty.putFile [] "licensetool.toml"
      (Utf8.encode "standalone = false\nexcludes = [\"a\"]\n")).putFile [] "more.toml"
      (Utf8.encode "standalone = \"MIT.txt\"\nfix = true\nexcludes = [\"b\", \"a\"]\n")
  currentYear := 2024
  timeStamp := []

/-- The layer of the file in the root. -/
def lowerLayer : Draft where
  disableStandalone := some true
  excludes := ["a"]
  sources := [Path.ofText "licensetool.toml"]

/-- The layer of the other file. -/
def upperLayer : Draft where
  standaloneLicense := some (Path.ofText "/MIT.txt")
  disableStandalone := some false
  fix := some true
  excludes := ["b", "a"]
  sources := [Path.ofText "more.toml"]

/-- The template counts although the file below switches the check off. -/
theorem precedence_of_layers_named : ∃ settings s',
    (resolveSettings (Path.ofText ".") (some (Path.ofText "more.toml")) false
        (Overrides.toDraft { excludes := ["b", "c"] } .empty)).perform layeredSession =
      (.ok settings, s') ∧
    settings.standaloneLicense = some (Path.ofText "/MIT.txt") ∧ settings.fix = true ∧
    settings.excludes = [['a'], ['b'], ['c']] := by
  have hfound : ((discoveredLayer (Path.ofText ".") false).perform layeredSession).1.toOption =
      some (some lowerLayer) := by decide +kernel
  have hexplicit : ((namedLayer (some (Path.ofText "more.toml"))).perform
      layeredSession).1.toOption = some (some upperLayer) := by decide +kernel
  obtain ⟨⟨settings, s', h, hsettings⟩, -, -⟩ := precedence_of_layers
    { excludes := ["b", "c"] } .empty rfl (eq_ok_of_toOption hfound) (eq_ok_of_toOption hexplicit)
  refine ⟨settings, s', h, ?_, ?_, ?_⟩
  · exact Option.some.inj (hsettings.standalone.symm.trans (by decide))
  · exact Option.some.inj (hsettings.fix.symm.trans (by decide))
  · exact hsettings.excludes.symm.trans (by decide)

end Run

end LicenseAudit
