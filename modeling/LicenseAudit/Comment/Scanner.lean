import LicenseAudit.Comment.Block
import LicenseAudit.Comment.Line
import LicenseAudit.Log.Record
import LicenseAudit.Text.Quoted

/-!
# The comment scanner

A machine that is fed the physical lines of a file one by one and collects the comment blocks.
While a comment is open, a line is looked at only for closing it; so the line that ends a run of
line comments counts as code, whatever it starts with. A run that is still open at the end of the
input is kept, a block comment is dropped.
-/

namespace LicenseAudit

open Text

/-- The state of the machine: the open comment with its content so far, and the blocks found. -/
structure Scanner where
  state : ScanState := .idle
  content : List Text := []
  startLine : Int := 0
  endLine : Int := 0
  blocks : List Block := []
  deriving DecidableEq, Repr

namespace Scanner

/-- Opens a comment on one line. -/
def start (m : Scanner) (number : Int) (content : Text) : Scanner :=
  { m with content := [content], startLine := number, endLine := number }

/-- Forgets the open comment. -/
def reset (m : Scanner) : Scanner := { blocks := m.blocks }

/-- Turns the open comment into a block. -/
def emit (m : Scanner) : Scanner :=
  { blocks := m.blocks ++ [⟨m.content, m.startLine, m.endLine, false, none⟩] }

/-- Adds a content line to the open comment. -/
def extend (m : Scanner) (number : Int) (content : Text) : Scanner :=
  { m with content := m.content ++ [content], endLine := number }

/-- Carries out an action on a classified line. -/
def act (m : Scanner) (number : Int) (line : ClassifiedLine) : Action → Scanner
  | .skip => m
  | .openRun => { m.start number line.content with state := .inRun }
  | .openBlock =>
    match line.delimiters with
    | some d => { m.start number line.content with state := .inBlock d }
    | none => m
  | .emitOneLiner => (m.start number line.content).emit
  | .append => m.extend number line.content
  | .closeBlock =>
    if line.content.isEmpty then { m with endLine := number }.emit
    else (m.extend number line.content).emit
  | .closeRun => m.emit

/-- Takes in one physical line. -/
def feed (g : Grammar) (m : Scanner) (number : Int) (rawLine : Text) : Scanner :=
  let line := classify g m.state (trim rawLine)
  match Action.of? m.state line.kind with
  | some action => m.act number line action
  | none => m

/-- Takes in physical lines numbered from `number` on. -/
def feedAll (g : Grammar) (m : Scanner) (number : Int) : List Text → Scanner
  | [] => m
  | line :: rest => feedAll g (m.feed g number line) (number + 1) rest

/-- Ends the input. -/
def finish (m : Scanner) : Scanner :=
  match m.state with
  | .idle => m
  | .inRun => m.emit
  | .inBlock _ => m.reset

/-! ## What is logged -/

/-- The record of one line. -/
def feedRecord (g : Grammar) (m : Scanner) (number : Int) (rawLine : Text) : List LogRecord :=
  let line := classify g m.state (trim rawLine)
  match Action.of? m.state line.kind with
  | some action =>
    [⟨.trace, "line " ++ ofInt number ++ ": " ++ line.kind.label ++ " -> " ++ action.label⟩]
  | none => []

/-- The record of the end of the input: a block comment that is dropped is mentioned. -/
def finishRecord (m : Scanner) : List LogRecord :=
  match m.state with
  | .inBlock d =>
    [⟨.debug, "dropping unterminated block comment opened at line " ++ ofInt m.startLine ++
      " (" ++ quoted d.opener ++ ")"⟩]
  | _ => []

/-- The records of all lines from `number` on and of the end of the input. -/
def records (g : Grammar) (m : Scanner) (number : Int) : List Text → List LogRecord
  | [] => m.finishRecord
  | line :: rest =>
    m.feedRecord g number line ++ records g (m.feed g number line) (number + 1) rest

end Scanner

/-- The comment blocks of a file's physical lines. -/
def scanLines (g : Grammar) (lines : List Text) : List Block :=
  (Scanner.feedAll g {} 1 lines).finish.blocks

/-- What is logged while a file's physical lines are scanned. -/
def scanRecords (g : Grammar) (lines : List Text) : List LogRecord :=
  Scanner.records g {} 1 lines

end LicenseAudit
