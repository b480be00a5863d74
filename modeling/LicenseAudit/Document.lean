import LicenseAudit.Comment.Scanner
import LicenseAudit.License.Template

/-!
# Documents

A source file taken apart: its byte order mark, its interpreter directive, its physical lines
with the line ending that joins them, and its comment blocks with the earliest copyright year
that they declare.
-/

namespace LicenseAudit

open Text

/-- The two line endings. -/
inductive LineEnding
  | lf
  | crlf
  deriving DecidableEq, Repr

/-- The characters of a line ending. -/
def LineEnding.text : LineEnding → Text
  | .lf => ['\n']
  | .crlf => ['\r', '\n']

/-- The ending that a text is taken to use: CR LF as soon as it holds a carriage return. -/
def LineEnding.of (s : Text) : LineEnding := if s.contains '\r' then .crlf else .lf

/-- The character U+FEFF at the start of a text, or nothing, and the rest. -/
def splitByteOrderMark : Text → Text × Text
  | c :: s => if c = '\ufeff' then ([c], s) else ([], c :: s)
  | [] => ([], [])

/-- Whether a character does not end a line. -/
def isInLine (c : Char) : Bool := c != '\r' && c != '\n'

/-- The interpreter directive that a text starts with, and the rest from the end of its line. -/
def splitDirective (s : Text) : Option Text × Text :=
  if startsWith "#!" s then (some (s.takeWhile isInLine), s.dropWhile isInLine) else (none, s)

/-- A source file taken apart. -/
structure Document where
  byteOrderMark : Text
  directive : Option Text
  lineEnding : LineEnding
  /-- The physical lines without the directive: with one, the first line is the empty rest of its
  line, so that places in the list are line numbers. -/
  lines : List Text
  /-- The annotated comment blocks in order. -/
  blocks : List Block
  /-- The start year of the file, as far as it is known. -/
  startYear : Option Int
  deriving DecidableEq, Repr

namespace Document

/-- Takes a file apart by a grammar. -/
def parse (g : Grammar) (s : Text) : Document :=
  let (mark, rest) := splitByteOrderMark s
  let (directive, body) := splitDirective rest
  let lines := splitLines body
  let (blocks, year) := annotate (scanLines g lines)
  ⟨mark, directive, .of rest, lines, blocks, year⟩

/-- The blocks that look like license declarations. -/
def licenseBlocks (d : Document) : List Block := d.blocks.filter (·.isLicense)

/-- The start year: the one that is known already, else the one in a block that is the license
but for its years. -/
def resolveYear (d : Document) (license : Text) : Option Int :=
  match d.startYear with
  | some year => some year
  | none => (findTemplate? license d.blocks).bind (·.2)

/-- What the header has to say, in one line. -/
def expectedHeader (d : Document) (license : Text) (current : Int) : Text :=
  normalizeLicense (expandYears license (d.resolveYear license) current)

/-- The first block that says exactly what the header has to say. -/
def findHeader? (d : Document) (license : Text) (current : Int) : Option Block :=
  let expected := d.expectedHeader license current
  d.blocks.find? (·.normalized == expected)

/-- What is logged while a file is taken apart. -/
def parseRecords (g : Grammar) (s : Text) : List LogRecord :=
  let d := parse g s
  scanRecords g d.lines ++
    [⟨.debug, "tokenized " ++ ofInt d.lines.length ++ " line(s) with grammar " ++
      quoted g.name ++ ": " ++ ofInt d.blocks.length ++ " comment block(s), " ++
      ofInt d.licenseBlocks.length ++ " license-like"⟩]

/-- What is logged while the header is looked for. -/
def headerRecord (d : Document) (license : Text) (current : Int) : LogRecord :=
  ⟨.trace, "expected normalized license: " ++ quoted (d.expectedHeader license current)⟩

end Document

end LicenseAudit
