import LicenseAudit.Ignore.Glob
import LicenseAudit.Path
import LicenseAudit.Text.Digits
import LicenseAudit.Toml.Fault
import LicenseAudit.Text.Utf8

/-!
# Failures

What can stop an operation, each by its cause. `Failure.message` words a failure, but for what a
parser of settings says in words of its own.
-/

namespace LicenseAudit

open Text

/-- What the file system refuses. -/
inductive FileFault
  | missing
  | denied
  /-- Something stands already where a directory is to be made. -/
  | occupied
  /-- A component that is not the last one is a file. -/
  | notDirectory
  /-- A directory stands where a file is wanted. -/
  | isDirectory
  /-- A path or one of its components is longer than the system allows. -/
  | nameTooLong
  deriving DecidableEq, Repr

namespace FileFault

/-- The number that the system gives the fault. -/
def code : FileFault → Nat
  | .missing => 2
  | .denied => 13
  | .occupied => 17
  | .notDirectory => 20
  | .isDirectory => 21
  | .nameTooLong => 36

/-- The fault in words. -/
def reason : FileFault → Text
  | .missing => "No such file or directory"
  | .denied => "Permission denied"
  | .occupied => "File exists"
  | .notDirectory => "Not a directory"
  | .isDirectory => "Is a directory"
  | .nameTooLong => "File name too long"

/-- The message about a path. -/
def message (f : FileFault) (path : Path) : Text :=
  "[Errno " ++ ofInt f.code ++ "] " ++ f.reason ++ ": " ++ quoted path.toText

end FileFault

/-- Why an operation stopped. -/
inductive Failure
  /-- A file or directory could not be used. -/
  | file (fault : FileFault) (path : Path)
  /-- A path holds the character that ends a path. -/
  | nullInPath
  /-- A file is not valid UTF-8. -/
  | malformedText (m : Utf8.Malformed)
  /-- No grammar fits the name of a file. -/
  | noGrammar (path : Text)
  /-- The root of a check does not exist. -/
  | noRoot (path : Path)
  /-- A license template is not a file. -/
  | noTemplate (path : Path)
  /-- A settings file could not be opened. -/
  | settingsUnreadable (path : Path) (fault : FileFault)
  /-- A settings file is not well formed. What the parser found wrong is not recorded. -/
  | settingsMalformed (path : Path)
  /-- A table of a settings file defines something twice. -/
  | settingsConflict (c : Toml.Conflict)
  /-- An ignore pattern is invalid. -/
  | badPattern (pattern : Text)
  /-- A range of characters in an ignore pattern runs backwards. -/
  | badRange (fault : RangeFault)
  /-- More and less output are asked for at once. -/
  | verbosityConflict
  /-- A level is written in digits that make no number. -/
  | notANumeral (s : Text)
  /-- A level is written in more digits than a numeral may have. -/
  | numeralTooLong (count : Nat)
  deriving DecidableEq, Repr

/-- How many characters of a literal in quotes a message shows. -/
def shownLiteral : Nat := 200

/-- The message of a failure. For a settings file that is not well formed the message should go on
behind the path with a colon and the parser's own words; these are left out, and so the message is
only the beginning of the full one (`.settingsMalformed`). -/
def Failure.message : Failure → Text
  | .file fault path => fault.message path
  | .nullInPath => "embedded null byte"
  | .malformedText m => m.message
  | .noGrammar path => "Cannot find comment pattern for \"" ++ path ++ "\""
  | .noRoot path => "\"" ++ path.toText ++ "\" doesn't exist"
  | .noTemplate path => "\"" ++ path.toText ++ "\" is not a valid file"
  | .settingsUnreadable path fault =>
    "Cannot read config file " ++ path.toText ++ ": " ++ fault.message path
  | .settingsMalformed path => "Invalid TOML in " ++ path.toText
  | .settingsConflict c => c.message
  | .badPattern pattern => "Invalid git pattern: " ++ quoted pattern
  | .badRange fault => fault.message
  | .verbosityConflict => "The '--verbose' and '--quiet' options are mutually exclusive."
  | .notANumeral s => "invalid literal for int() with base 10: " ++ (quoted s).take shownLiteral
  | .numeralTooLong count =>
    "Exceeds the limit (" ++ ofInt numeralLimit ++ " digits) for integer string conversion: " ++
      "value has " ++ ofInt count ++
      " digits; use sys.set_int_max_str_digits() to increase the limit"

end LicenseAudit
