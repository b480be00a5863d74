import LicenseAudit.Session
import LicenseAudit.Settings.Table
import LicenseAudit.Toml.Document

/-!
# Loading settings

Settings files are read into drafts, and the drafts put over one another: the defaults, the file
found in the checked root, the file named on the command line, the command line itself. Paths in
a settings file are taken from its directory.
-/

namespace LicenseAudit

open Text

/-- The settings that a command line gives. -/
structure Overrides where
  header : Option Path := none
  standalone : Option Path := none
  noStandalone : Bool := false
  fix : Bool := false
  excludes : List Text := []
  /-- A file of year entries, or the entries separated by commas. -/
  years : Option Text := none
  noGitignore : Bool := false
  logFile : Option Path := none
  deriving DecidableEq, Repr, Inhabited

namespace Overrides

/-- The layer of a command line, given its years. What is not asked for stays absent. -/
def toDraft (o : Overrides) (years : YearMap) : Draft where
  headerLicense := o.header
  standaloneLicense := o.standalone
  disableStandalone :=
    if o.noStandalone then some true
    else if o.standalone.isSome then some false
    else none
  fix := if o.fix then some true else none
  excludes := o.excludes
  useGitignore := if o.noGitignore then some false else none
  years := years
  logFile := o.logFile

end Overrides

/-- The settings file that is looked for first. -/
def settingsFileName : Text := "licensetool.toml"

/-! ## How a message shows settings -/

/-- A path as a message about settings shows it. -/
def Path.shown (p : Path) : Text := "PosixPath(" ++ quoted p.toText ++ ")"

/-- A path that may be absent. -/
def shownPath? : Option Path → Text
  | some p => p.shown
  | none => "None"

/-- Items in parentheses, with a comma after a single one. -/
def shownGroup : List Text → Text
  | [item] => '(' :: item ++ ",)"
  | items => '(' :: joinWith ", " items ++ [')']

/-- How a message shows the settings of a run. -/
def Settings.shown (s : Settings) : Text :=
  "Config(header_license=" ++ s.headerLicense.shown ++
    ", standalone_license=" ++ shownPath? s.standaloneLicense ++
    ", fix=" ++ (Value.truth s.fix).shown ++
    ", excludes=" ++ shownGroup (s.excludes.map quoted) ++
    ", use_gitignore=" ++ (Value.truth s.useGitignore).shown ++
    ", years=mappingproxy(" ++ s.years.shown ++
    "), log_file=" ++ shownPath? s.logFile ++
    ", config_files=" ++ shownGroup (s.sources.map Path.shown) ++ ")"

/-! ## Loading -/

namespace Run

/-- The table that a settings file holds. -/
def settingsContent (p : Path) : Run Table := do
  checkPath p
  match ← look fun t cwd => t.read cwd p with
  | .error fault => fail (.settingsUnreadable p fault)
  | .ok content =>
    match Utf8.decode content with
    | .error m => fail (.malformedText m)
    | .ok s =>
      match Toml.parse (unifyNewlines s) with
      | .ok t => return t
      | .error (.conflict c) => fail (.settingsConflict c)
      | .error _ => fail (.settingsMalformed p)

/-- The year map of a file of entries when the text names one, else of the entries that the text
holds between commas. A text that is too long for a path names none. -/
def yearMap (s : Text) : Run YearMap := do
  let p := Path.ofText s
  let entries ←
    if ← look fun t cwd => t.isFile cwd p then do
      log .debug ("Reading file start years from " ++ p.toText)
      pure (splitAtBreaks (← readLines p))
    else pure (splitOnChar ',' s)
  logAll (YearMap.entryRecords entries)
  return .ofEntries entries

/-- The years of a settings table. -/
def tableYears (base : Path) (t : Table) : Run YearMap :=
  match yearSource t with
  | .absent => return .empty
  | .table entries => do
    logAll (YearMap.tableRecords entries)
    return .ofTable entries
  | .text s => yearMap (base / Path.ofText s).toText

/-- The draft of a settings table. -/
def tableDraft (base : Path) (t : Table) : Run Draft := do
  logAll (tableRecordsBeforeYears t)
  let years ← tableYears base t
  logAll (tableRecordsAfterYears t)
  return .ofTable base years t

/-- The draft of a settings file; a project file without a settings table gives none. -/
def settingsFile (p : Path) : Run (Option Draft) := do
  log .debug ("Loading config from " ++ p.toText)
  let content ← settingsContent p
  logAll (settingsTableRecords p content)
  match settingsTable? p content with
  | none => return none
  | some t =>
    let cwd := (← get).workingDirectory
    let d ← tableDraft (Path.ofLocation (p.resolve cwd)).parent t
    return some { d with sources := [p] }

/-- The draft of the first of some files that exists and holds settings. -/
def firstSettingsFile : List Path → Run (Option Draft)
  | [] => return none
  | p :: rest => do
    if ← isFile p then
      match ← settingsFile p with
      | some d => return some d
      | none => firstSettingsFile rest
    else firstSettingsFile rest

/-- The draft of the settings file in a checked root, or beside it when it is a file. -/
def discoverSettings (root : Path) : Run (Option Draft) := do
  let directory := if ← isDirectory root then root else root.parent
  firstSettingsFile [directory.child settingsFileName, directory.child projectFileName]

/-- The layer of a command line. -/
def overridesDraft (o : Overrides) : Run Draft := do
  match o.years with
  | none | some [] => return o.toDraft .empty
  | some s => return o.toDraft (← yearMap s)

/-- The layer of the settings file in the root over another layer. -/
def overlayDiscovered (root : Path) (d : Draft) : Run Draft := do
  match ← discoverSettings root with
  | none => return d
  | some found =>
    log .info ("Using config from " ++ (found.sources.headD default).toText)
    return d.overlay found

/-- The layer of the named settings file over another layer. -/
def overlayNamed (p : Path) (d : Draft) : Run Draft := do
  match ← settingsFile p with
  | none =>
    log .warning ("No [tool.licensetool] table in " ++ p.toText)
    return d
  | some named => return d.overlay named

/-- The settings of a run: all layers put over one another. -/
def resolveSettings (root : Path) (named : Option Path) (noDiscovery : Bool) (top : Draft) :
    Run Settings := do
  let d ← if noDiscovery then pure Draft.defaults else overlayDiscovered root .defaults
  let d ←
    match named with
    | some p => overlayNamed p d
    | none => pure d
  let settings := (d.overlay top).freeze
  log .debug ("Effective config: " ++ settings.shown)
  return settings

end Run

end LicenseAudit
