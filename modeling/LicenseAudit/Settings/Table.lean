import LicenseAudit.Settings.Draft

/-!
# Settings from a table

What the keys of a settings table mean. A value of the wrong kind counts as absent and is logged,
so that one mistake affects nothing but itself.
-/

namespace LicenseAudit

open Text

/-! ## Keys of one kind -/

namespace Table

/-- A record that says what a key should hold. -/
def keyRecord (key expected : Text) (v : Value) : LogRecord :=
  ⟨.warning, "Config key " ++ quoted key ++ ": expected " ++ expected ++ ", got " ++ v.shown ++
    "; ignored"⟩

/-- The text of a key. -/
def text? (t : Table) (key : Text) : Option Text :=
  match t.get? key with
  | some (.text s) => some s
  | _ => none

/-- What is logged while a key that should hold a text is read. -/
def textRecords (t : Table) (key : Text) : List LogRecord :=
  match t.get? key with
  | none | some .empty | some (.text _) => []
  | some v => [keyRecord key "a string" v]

/-- The truth value of a key. -/
def truth? (t : Table) (key : Text) : Option Bool :=
  match t.get? key with
  | some (.truth b) => some b
  | _ => none

/-- What is logged while a key that should hold a truth value is read. -/
def truthRecords (t : Table) (key : Text) : List LogRecord :=
  match t.get? key with
  | none | some .empty | some (.truth _) => []
  | some v => [keyRecord key "a boolean" v]

/-- The value when it is a text. -/
def textItem? : Value → Option Text
  | .text s => some s
  | _ => none

/-- The texts that a key lists; a single text is a list of one, and other items are left out. -/
def texts? (t : Table) (key : Text) : Option (List Text) :=
  match t.get? key with
  | some (.text s) => some [s]
  | some (.list items) => some (items.filterMap textItem?)
  | _ => none

/-- What is logged while a key that should list texts is read. -/
def textsRecords (t : Table) (key : Text) : List LogRecord :=
  match t.get? key with
  | none | some .empty | some (.text _) => []
  | some (.list items) =>
    if items.all fun v => (textItem? v).isSome then []
    else [⟨.warning, "Config key " ++ quoted key ++ ": non-string entries ignored"⟩]
  | some v => [keyRecord key "a list of strings" v]

/-- A table inside the table. -/
def table? (t : Table) (key : Text) : Option Table :=
  match t.get? key with
  | some (.table entries) => some entries
  | _ => none

end Table

/-! ## The settings table of a file -/

/-- The keys that have a meaning. -/
def knownKeys : List Text :=
  ["header", "standalone", "fix", "excludes", "gitignore", "years", "log_file"]

/-- The project file, which holds the settings in a table of its own. -/
def projectFileName : Text := "pyproject.toml"

/-- The name of the settings table in the project file. -/
def toolTableName : Text := "licensetool"

/-- The settings table of a file's content: all of it, but in the project file the tool's own
table, which may be absent. -/
def settingsTable? (path : Path) (content : Table) : Option Table :=
  if path.name = projectFileName then
    (content.table? "tool").bind fun tool => Table.table? tool toolTableName
  else some content

/-- What is logged while the settings table is looked for. -/
def settingsTableRecords (path : Path) (content : Table) : List LogRecord :=
  match settingsTable? path content with
  | some _ => []
  | none =>
    [⟨.debug, "[tool." ++ toolTableName ++ "] section missing in " ++ path.toText⟩]

/-! ## The draft of a table -/

/-- Where the years of a table come from. -/
inductive YearSource
  | absent
  /-- A table of years. -/
  | table (entries : Table)
  /-- A text that names a file of entries or holds the entries. -/
  | text (s : Text)
  deriving Repr

/-- Where the years of a settings table come from. -/
def yearSource (t : Table) : YearSource :=
  match t.get? "years" with
  | some (.table entries) => .table entries
  | some (.text s) => .text s
  | _ => .absent

/-- The draft of a settings table, given its years. Paths are taken from the directory `base`. -/
def Draft.ofTable (base : Path) (years : YearMap) (t : Table) : Draft where
  headerLicense := (t.text? "header").map fun s => base / Path.ofText s
  standaloneLicense := (t.text? "standalone").map fun s => base / Path.ofText s
  disableStandalone :=
    match t.get? "standalone" with
    | some (.truth false) => some true
    | some (.text _) => some false
    | _ => none
  fix := t.truth? "fix"
  excludes := (t.texts? "excludes").getD []
  useGitignore := t.truth? "gitignore"
  years := years
  logFile := (t.text? "log_file").map fun s => base / Path.ofText s

/-- A key put among keys in order. -/
def insertKey (key : Text) : List Text → List Text
  | [] => [key]
  | other :: rest =>
    if precedes other key then other :: insertKey key rest else key :: other :: rest

/-- The keys without a meaning, in order. -/
def unknownKeys (t : Table) : List Text :=
  ((t.map Prod.fst).filter fun key => !knownKeys.contains key).foldr insertKey []

/-- What is logged about the standalone license. -/
def standaloneRecords (t : Table) : List LogRecord :=
  match t.get? "standalone" with
  | none | some .empty | some (.truth false) | some (.text _) => []
  | some v =>
    [⟨.warning, "Config key 'standalone': expected a path or false, got " ++ v.shown⟩]

/-- What is logged about the kind of the years. -/
def yearSourceRecords (t : Table) : List LogRecord :=
  match t.get? "years" with
  | none | some .empty | some (.table _) | some (.text _) => []
  | some v =>
    [⟨.warning, "Config key 'years': expected a table or a path, got " ++ v.shown⟩]

/-- What is logged before the years of a table are read. -/
def tableRecordsBeforeYears (t : Table) : List LogRecord :=
  (unknownKeys t).map (fun key => ⟨.warning, "Unknown config key " ++ quoted key ++ " ignored"⟩) ++
    t.textRecords "header" ++ standaloneRecords t ++ t.truthRecords "fix" ++
    t.truthRecords "gitignore" ++ t.textsRecords "excludes" ++ yearSourceRecords t

/-- What is logged after the years of a table have been read. -/
def tableRecordsAfterYears (t : Table) : List LogRecord := t.textRecords "log_file"

end LicenseAudit
