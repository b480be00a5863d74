import LicenseAudit.Comment.Decoration
import LicenseAudit.Grammar.Basic

/-!
# Classified lines

What a physical line is depends on the comment that is open when it is reached. `classify` names
the kind of a trimmed line and takes out the content; `Action.of?` is the table of what a scanner
does with a line of some kind in some state. Only the start of a line can open a comment: string
literals, comments after code and nested comments are not looked for.
-/

namespace LicenseAudit

open Text

/-- The comment that is open. -/
inductive ScanState
  /-- No comment is open. -/
  | idle
  /-- A block comment with these delimiters. -/
  | inBlock (delimiters : BlockDelimiters)
  /-- A run of line comments. -/
  | inRun
  deriving DecidableEq, Repr

/-- What a line is to the state in which it is reached. -/
inductive LineKind
  | code
  | lineComment
  | blockOpen
  | blockOneLiner
  | blockBody
  | blockClose
  deriving DecidableEq, Repr

/-- What is done with a line. -/
inductive Action
  | skip
  | openRun
  | openBlock
  | emitOneLiner
  | append
  | closeBlock
  | closeRun
  deriving DecidableEq, Repr

/-- The kind in words. -/
def LineKind.label : LineKind → Text
  | .code => "code"
  | .lineComment => "line comment"
  | .blockOpen => "block open"
  | .blockOneLiner => "block open and close"
  | .blockBody => "block body"
  | .blockClose => "block close"

/-- The action in words. -/
def Action.label : Action → Text
  | .skip => "skip"
  | .openRun => "open line run"
  | .openBlock => "open block"
  | .emitOneLiner => "emit single-line block"
  | .append => "append"
  | .closeBlock => "close block"
  | .closeRun => "close line run"

/-- A kind, the content of the line, and the delimiters when a block comment starts on it. -/
structure ClassifiedLine where
  kind : LineKind
  content : Text := []
  delimiters : Option BlockDelimiters := none
  deriving DecidableEq, Repr

/-- The first block delimiters that open a comment on the line, and the line after the opener. -/
def openerOf? (line : Text) : List BlockDelimiters → Option (BlockDelimiters × Text)
  | [] => none
  | d :: rest =>
    match after? d.opener line with
    | some r => some (d, r)
    | none => openerOf? line rest

/-- A line that may be a line comment. -/
def classifyPlain (g : Grammar) (line : Text) : ClassifiedLine :=
  match stripLinePrefix? g.lineComments line with
  | some content => { kind := .lineComment, content }
  | none => { kind := .code }

/-- The kind and content of a trimmed line. -/
def classify (g : Grammar) (state : ScanState) (line : Text) : ClassifiedLine :=
  match state with
  | .inBlock d =>
    match before? d.closer line with
    | some inner => { kind := .blockClose, content := stripDecoration d.decoration inner }
    | none => { kind := .blockBody, content := stripDecoration d.decoration line }
  | .inRun => classifyPlain g line
  | .idle =>
    match openerOf? line g.blockComments with
    | some (d, rest) =>
      match before? d.closer rest with
      | some inner =>
        { kind := .blockOneLiner, content := stripDecoration d.decoration inner,
          delimiters := some d }
      | none =>
        { kind := .blockOpen, content := stripDecoration d.decoration rest,
          delimiters := some d }
    | none => classifyPlain g line

/-- What is done with a line of some kind in some state; pairs that cannot occur have no entry. -/
def Action.of? : ScanState → LineKind → Option Action
  | .idle, .code => some .skip
  | .idle, .lineComment => some .openRun
  | .idle, .blockOpen => some .openBlock
  | .idle, .blockOneLiner => some .emitOneLiner
  | .inBlock _, .blockBody => some .append
  | .inBlock _, .blockClose => some .closeBlock
  | .inRun, .lineComment => some .append
  | .inRun, .code => some .closeRun
  | _, _ => none

end LicenseAudit
