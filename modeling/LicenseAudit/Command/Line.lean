import LicenseAudit.Command.Check
import LicenseAudit.Log.Threshold

/-!
# The command line

The words of a command line are read in two steps: the options of the program up to the name of a
command, then the words of that command. The level of the log is settled between the two.
-/

namespace LicenseAudit

open Text

/-- The version of the program. -/
def programVersion : Text := "0.1.0"

/-! ## Values that name files -/

/-- What a value has to name. -/
structure FileDemand where
  /-- The option or argument, as the help names it. -/
  name : Text
  /-- What the value is called in a message. -/
  noun : Text
  mustExist : Bool := false
  allowsDirectory : Bool := true
  deriving DecidableEq, Repr

/-- What is wrong with a value that has to name a file. -/
def FileDemand.fault? (d : FileDemand) (t : FileTree) (cwd : Location) (value : Text) :
    Option UsageFault :=
  let unfit := fun reason : Text =>
    some (UsageFault.unfitValue d.name (d.noun ++ ' ' :: quoted value ++ reason))
  match t.findWritten? cwd value with
  | none => if d.mustExist then unfit " does not exist." else none
  | some .directory => if d.allowsDirectory then none else unfit " is a directory."
  | some (.file _ .sealed) => unfit " is not readable."
  | some (.file ..) => none

/-- What the value of an option of the check has to name. -/
def fileDemand? (long : Text) : Option FileDemand :=
  [(("--header" : Text), { name := "'-H' / '--header'", noun := "Path" }),
    ("--standalone", { name := "'-L' / '--standalone'", noun := "Path" }),
    ("--config",
      { name := "'--config'", noun := "File", mustExist := true, allowsDirectory := false }),
    ("--log-file", { name := "'--log-file'", noun := "File", allowsDirectory := false })].lookup
    long

/-- What the argument of the check has to name. -/
def pathDemand : FileDemand := { name := "'PATH'", noun := "Path" }

/-- How a check ends at a value that has to name a file. A value that holds the character that
ends a path is a failure that no command accounts for. -/
def FileDemand.ending? (d : FileDemand) (t : FileTree) (cwd : Location) (value : Text) :
    Option Ending :=
  if value.contains '\x00' then some (.broken .nullInPath)
  else (d.fault? t cwd value).map (.misused .check)

/-- How a check ends at the values of its options, taken in the order in which the options were
first given; of several values the last one counts. -/
def optionEnding? (t : FileTree) (cwd : Location) (given : List GivenOption) : Option Ending :=
  ((given.map (·.long)).eraseDups).findSome? fun long => do
    let d ← fileDemand? long
    let value ← GivenOption.value? given long
    d.ending? t cwd value

/-- The words of a check, understood, or how it ends at them. -/
def CheckCall.ofWords (t : FileTree) (cwd : Location) (given : List GivenOption)
    (words : List Text) : Except Ending CheckCall :=
  let path? := fun long : String => (GivenOption.value? given long).map Path.ofText
  let has := fun long : String => GivenOption.has given long
  match optionEnding? t cwd given, words with
  | some e, _ => .error e
  | none, [] => .error (.misused .check (.missingArgument "PATH"))
  | none, word :: extra =>
    match pathDemand.ending? t cwd word, extra with
    | some e, _ => .error e
    | none, _ :: _ => .error (.misused .check (.extraArguments extra))
    | none, [] =>
      .ok
        { path := Path.ofText word
          overrides :=
            { header := path? "--header"
              standalone := path? "--standalone"
              noStandalone := has "--no-standalone"
              fix := has "--fix"
              excludes := GivenOption.values given "--exclude"
              years := GivenOption.value? given "--years"
              noGitignore := has "--no-gitignore"
              logFile := path? "--log-file" }
          settings := path? "--config"
          noDiscovery := has "--no-config"
          summary := has "--summary" }

/-! ## The other commands -/

/-- The lines about a grammar, given the width of the column of names. -/
def Grammar.lines (g : Grammar) (t : Terminal) (width : Nat) (long : Bool) : List Text :=
  let selectors := g.extensions.map ('.' :: ·) ++ g.filenames
  let indent : Text := "  " ++ padRight width [] ++ "  "
  let form :=
    match long, g.writeForm with
    | true, some form =>
      [indent ++ "header:   " ++ quoted form.opener ++ " / " ++ quoted form.linePrefix ++ " / " ++
        quoted form.closer]
    | _, _ => []
  ["  " ++ t.styled Terminal.bold (padRight width g.name) ++ "  " ++ joinWith [' '] selectors,
    indent ++ "comments: " ++ g.summary] ++ form

/-- The list of file types. -/
def fileTypeLines (t : Terminal) (long : Bool) : List Text :=
  let width := (builtinGrammars.map (·.name.length)).foldl max 0
  t.styled Terminal.heading "Supported file types:" ::
    builtinGrammars.flatMap (Grammar.lines · t width long)

namespace Task

/-- Shows the help of a command. -/
def showHelp (c : Command) : Task Ending := do
  ofRun (Run.write (c.help ++ ['\n']))
  return .exit .success

/-- Carries out a command that was called with these words. -/
def command (t : Terminal) (c : Command) (words : List Text) : Task Ending := do
  match readOptions c.options true words with
  | .error f => finish (.misused c (.option f))
  | .ok (given, words) =>
    if GivenOption.has given "--help" then showHelp c
    else
      match c, words with
      | .check, words =>
        let s ← get
        match CheckCall.ofWords s.tree s.workingDirectory given words with
        | .error e => finish e
        | .ok call => check t call
      | c, _ :: _ => finish (.misused c (.extraArguments words))
      | .filetypes, [] =>
        t.lines (fileTypeLines t (GivenOption.has given "--long"))
        return .exit .success
      | _, [] =>
        t.line (t.styled Terminal.bold programVersion)
        return .exit .success

/-- Settles the level of the log by the options of the program and the environment. -/
def settleLevel (given : List GivenOption) (environment : Option Text) : Task Unit := do
  let more := GivenOption.count given "--verbose"
  let less := GivenOption.count given "--quiet"
  match Level.ofCounts more less with
  | .error f => finish (.error .badUsage f.message)
  | .ok asked =>
    match Level.ofEnvironment environment with
    | .error f => finish (.broken f)
    | .ok named => modify fun s => { s with threshold := some (named.getD asked) }

/-- Shows how to go on when no command is named. -/
def hint (t : Terminal) : Task Ending := do
  t.lines ["Hint: use 'licensetool check PATH' to validate license headers.", [],
    Command.program.help]
  return .exit .success

/-- Ends because a word names no command. A word that looks like an option is read as one
first. -/
def noCommand (name : Text) (rest : List Text) : Task Ending := do
  if isOptionWord name then
    match readOptions Command.program.options false (name :: rest) with
    | .error f => finish (.misused .program (.option f))
    | .ok (given, _) => if GivenOption.has given "--help" then return ← showHelp .program
  let similar := similarWords (Command.names.map Prod.fst) name
  finish (.misused .program (.unknownCommand name similar))

/-- Carries out a command line. -/
def commandLine (words : List Text) (environment : Option Text) : Task Ending := do
  match readOptions Command.program.options false words with
  | .error f => finish (.misused .program (.option f))
  | .ok (given, words) =>
    let t : Terminal :=
      { colored := !GivenOption.has given "--no-color", quiet := GivenOption.has given "--quiet" }
    if GivenOption.has given "--help" then showHelp .program
    else
      match words with
      | [] =>
        settleLevel given environment
        hint t
      | name :: rest =>
        match Command.named? name with
        | none => noCommand name rest
        | some c =>
          settleLevel given environment
          command t c rest

end Task

/-- Carries out a command line in a session: how it ends, and the session afterwards, in which no
records are shown any more. -/
def runCommandLine (words : List Text) (environment : Option Text) (s : Session) :
    Ending × Session :=
  let (result, s) := StateT.run (ExceptT.run (Task.commandLine words environment)) s
  let ending :=
    match result with
    | .ok e => e
    | .error e => e
  (ending, { s with threshold := none, logFile := none })

end LicenseAudit
