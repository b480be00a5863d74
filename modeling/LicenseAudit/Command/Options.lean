import LicenseAudit.Command.Similar

/-!
# Options

How options are read from the words of a command line. A word that starts with a hyphen holds one
long option, perhaps with a value after an equals sign, or a cluster of short ones, the last of
which may have its value in the rest of the word or in the next word. Two hyphens end the options.
-/

namespace LicenseAudit

open Text

/-- Whether an option has a value. -/
inductive OptionKind
  | flag
  | valued
  deriving DecidableEq, Repr

/-- An option: its long name with both hyphens, its short letter, and whether it has a value. -/
structure OptionSpec where
  long : Text
  short : Option Char := none
  kind : OptionKind := .flag
  deriving DecidableEq, Repr

/-- An option that was given, by its long name, with its value. -/
structure GivenOption where
  long : Text
  value : Text := []
  deriving DecidableEq, Repr

/-- What is wrong with options. -/
inductive OptionFault
  /-- There is no such option; the long options that may have been meant. -/
  | unknown (name : Text) (similar : List Text)
  | missingValue (name : Text)
  | unwantedValue (name : Text)
  deriving DecidableEq, Repr

/-- What a word with options gives: options, and perhaps one, by the name it was called and its
long name, that takes the next word as its value. -/
structure WordOptions where
  given : List GivenOption := []
  open? : Option (Text × Text) := none
  deriving DecidableEq, Repr

/-- Reads a cluster of short options. -/
def readCluster (specs : List OptionSpec) : Text → Except OptionFault WordOptions
  | [] => .ok {}
  | c :: rest =>
    match specs.find? (·.short == some c) with
    | none => .error (.unknown ['-', c] [])
    | some spec =>
      match spec.kind with
      | .flag =>
        (readCluster specs rest).map fun w => { w with given := ⟨spec.long, []⟩ :: w.given }
      | .valued =>
        if rest.isEmpty then .ok { open? := some (['-', c], spec.long) }
        else .ok { given := [⟨spec.long, rest⟩] }

/-- Reads a long option with the value that is attached to it. -/
def readLong (spec : OptionSpec) (attached : Option Text) : Except OptionFault WordOptions :=
  match spec.kind, attached with
  | .flag, none => .ok { given := [⟨spec.long, []⟩] }
  | .flag, some _ => .error (.unwantedValue spec.long)
  | .valued, some value => .ok { given := [⟨spec.long, value⟩] }
  | .valued, none => .ok { open? := some (spec.long, spec.long) }

/-- A word cut at its first equals sign. -/
def splitAttached (word : Text) : Text × Option Text :=
  match word.dropWhile (· != '=') with
  | _ :: value => (word.takeWhile (· != '='), some value)
  | [] => (word, none)

/-- Reads a word that starts with a hyphen. -/
def readWord (specs : List OptionSpec) (word : Text) : Except OptionFault WordOptions :=
  let (name, attached) := splitAttached word
  match specs.find? (·.long == name) with
  | some spec => readLong spec attached
  | none =>
    match word with
    | '-' :: '-' :: _ => .error (.unknown name (similarWords (specs.map (·.long)) name))
    | _ => readCluster specs (word.drop 1)

/-- Whether a word holds options. -/
def isOptionWord : Text → Bool
  | '-' :: _ :: _ => true
  | _ => false

/-- Reads the options among words; the result has the other words too. Unless options may stand
between other words, the first other word ends them. `pending` is an option that takes the next
word as its value. -/
def readWords (specs : List OptionSpec) (mixed : Bool) (pending : Option (Text × Text)) :
    List Text → Except OptionFault (List GivenOption × List Text)
  | [] =>
    match pending with
    | none => .ok ([], [])
    | some (name, _) => .error (.missingValue name)
  | word :: rest =>
    match pending with
    | some (_, long) => do
      let (given, words) ← readWords specs mixed none rest
      return (⟨long, word⟩ :: given, words)
    | none =>
      if word = ['-', '-'] then .ok ([], rest)
      else if isOptionWord word then do
        let w ← readWord specs word
        let (given, words) ← readWords specs mixed w.open? rest
        return (w.given ++ given, words)
      else if mixed then do
        let (given, words) ← readWords specs mixed none rest
        return (given, word :: words)
      else .ok ([], word :: rest)

/-- Reads the options among words. -/
def readOptions (specs : List OptionSpec) (mixed : Bool) (words : List Text) :
    Except OptionFault (List GivenOption × List Text) :=
  readWords specs mixed none words

namespace GivenOption

/-- Whether an option was given. -/
def has (given : List GivenOption) (long : Text) : Bool := given.any (·.long == long)

/-- How often an option was given. -/
def count (given : List GivenOption) (long : Text) : Nat := (given.filter (·.long == long)).length

/-- The values of an option in order. -/
def values (given : List GivenOption) (long : Text) : List Text :=
  (given.filter (·.long == long)).map (·.value)

/-- The value of an option; the last one counts. -/
def value? (given : List GivenOption) (long : Text) : Option Text := (values given long).getLast?

end GivenOption

end LicenseAudit
