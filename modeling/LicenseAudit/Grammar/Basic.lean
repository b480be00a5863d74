import LicenseAudit.Path
import LicenseAudit.Text.LetterCase

/-!
# Comment grammars

A grammar says how comments are spelled in a kind of file: which prefixes start a line comment,
which delimiters enclose a block comment, and which file names belong to it. Its write form says
how a header is written back.
-/

namespace LicenseAudit

/-- The delimiters of a block comment, as they are read and as they are written. -/
structure BlockDelimiters where
  /-- Opens a comment at the start of a trimmed line. -/
  opener : Text
  /-- Closes a comment at the end of a trimmed line. -/
  closer : Text
  /-- The decoration that is stripped from the start of every content line. -/
  decoration : Option Text := none
  /-- The opening line that is written, `opener` when absent or empty. -/
  writtenOpener : Option Text := none
  /-- The closing line that is written, `closer` when absent or empty. -/
  writtenCloser : Option Text := none
  /-- What stands before every content line that is written. -/
  writtenLinePrefix : Option Text := none
  deriving DecidableEq, Repr, Inhabited

/-- What a rendered header consists of beside its content. -/
structure WriteForm where
  opener : Text
  closer : Text
  linePrefix : Text
  deriving DecidableEq, Repr

/-- The comment syntax of a kind of file. -/
structure Grammar where
  name : Text
  /-- Extensions without their dot, in lower case. -/
  extensions : List Text := []
  /-- Whole file names, in lower case. -/
  filenames : List Text := []
  /-- Prefixes of line comments, tried in order. -/
  lineComments : List Text := []
  /-- Delimiters of block comments, tried in order. -/
  blockComments : List BlockDelimiters := []
  deriving DecidableEq, Repr, Inhabited

/-- The value when it is given and not empty, else the fallback. -/
def givenOr (fallback : Text) : Option Text → Text
  | some (c :: s) => c :: s
  | _ => fallback

namespace Grammar

/-- Whether a file name in lower case belongs to the grammar. -/
def selects (g : Grammar) (lowerName : Text) : Bool :=
  g.extensions.any (fun ext => Text.endsWith ('.' :: ext) lowerName) ||
    g.filenames.contains lowerName

/-- Whether a file belongs to the grammar; only the last component of its path counts, in any
case. -/
def matchesName (g : Grammar) (path : Text) : Bool := g.selects (Path.ofText path).name.lower

/-- How a header is written: by the first block delimiters, else by the first line prefix, which
then serves as opening line, closing line and prefix of every line. -/
def writeForm (g : Grammar) : Option WriteForm :=
  match g.blockComments, g.lineComments with
  | d :: _, _ =>
    some ⟨givenOr d.opener d.writtenOpener, givenOr d.closer d.writtenCloser,
      d.writtenLinePrefix.getD []⟩
  | [], mark :: _ => some ⟨mark, mark, mark⟩
  | [], [] => none

/-- The comment syntax in short. -/
def summary (g : Grammar) : Text :=
  let lines : List Text := g.lineComments.map fun mark => mark ++ (" ..." : Text)
  let blocks : List Text := g.blockComments.map fun d => d.opener ++ (" ... " : Text) ++ d.closer
  Text.joinWith ", " (lines ++ blocks)

end Grammar

/-- The first grammar of a table that a file belongs to. -/
def lookupGrammar? (table : List Grammar) (path : Text) : Option Grammar :=
  table.find? (·.matchesName path)

end LicenseAudit
