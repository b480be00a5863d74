import LicenseAudit.Grammar.Builtin
import LicenseAudit.Header.Rebuild

/-!
# The verdict on one file

`checkText` compares a file's text with the canonical license. The header is right when some
comment block says exactly what it has to say; else the blocks that declare a license, and an
outdated copy of the header, are what a fix replaces. The check is a function of the text, the
path, the license and the years alone.
-/

namespace LicenseAudit

open Text

/-- What a check found. -/
inductive Finding
  /-- A block that is the canonical header. -/
  | matched (header : Block)
  /-- There is none; the blocks that a fix would replace. -/
  | needsFix (declarations : List Block)
  /-- There was none; the blocks that were replaced, and the new text. -/
  | fixed (declarations : List Block) (newText : Text)
  deriving DecidableEq, Repr

/-- The outcome of checking one file. -/
structure Verdict where
  grammar : Grammar
  path : Path
  /-- The start year that the header has to name. -/
  startYear : Option Int
  finding : Finding
  deriving DecidableEq, Repr

/-- What is asked of a file: the license, the current year, the start year when it is prescribed,
and whether to fix the file. -/
structure Order where
  license : Text
  currentYear : Int
  startYear : Option Int := none
  fix : Bool := false
  deriving DecidableEq, Repr

namespace Verdict

/-- The blocks that were or would be replaced. -/
def declarations (v : Verdict) : List Block :=
  match v.finding with
  | .matched _ => []
  | .needsFix blocks => blocks
  | .fixed blocks _ => blocks

/-- The new text of a fixed file. -/
def newText? (v : Verdict) : Option Text :=
  match v.finding with
  | .fixed _ s => some s
  | _ => none

/-- Whether the header was right. -/
def isMatched (v : Verdict) : Bool :=
  match v.finding with
  | .matched _ => true
  | _ => false

/-- Whether the file was left with a wrong header. -/
def needsFix (v : Verdict) : Bool :=
  match v.finding with
  | .needsFix _ => true
  | _ => false

/-- Whether the file was fixed. -/
def isFixed (v : Verdict) : Bool := v.newText?.isSome

end Verdict

namespace Document

/-- The file with its start year settled: the prescribed year, else the one that its blocks give. -/
def settleYear (d : Document) (order : Order) : Document :=
  let d := { d with startYear := order.startYear.or d.startYear }
  { d with startYear := d.resolveYear order.license }

/-- A block put among blocks in the order of their first lines, after those that start with it. -/
def insertBlock (b : Block) : List Block → List Block
  | [] => [b]
  | c :: rest => if b.startLine < c.startLine then b :: c :: rest else c :: insertBlock b rest

/-- The blocks that a fix replaces: those that look like declarations, and the first that is the
license but for its years. -/
def declarations (d : Document) (license : Text) : List Block :=
  match findTemplate? license d.blocks with
  | some (b, _) => if b.isLicense then d.licenseBlocks else insertBlock b d.licenseBlocks
  | none => d.licenseBlocks

/-- Judges a file whose start year is settled. -/
def judge (d : Document) (g : Grammar) (order : Order) : Finding :=
  match d.findHeader? order.license order.currentYear with
  | some header => .matched header
  | none =>
    let declarations := d.declarations order.license
    if order.fix then
      .fixed declarations (d.rebuild declarations g order.license order.currentYear)
    else .needsFix declarations

end Document

/-- Checks a file by the grammar it belongs to. -/
def checkWith (g : Grammar) (path : Path) (order : Order) (s : Text) : Verdict :=
  let d := (Document.parse g s).settleYear order
  ⟨g, path, d.startYear, d.judge g order⟩

/-- Checks a file; there is no verdict when no grammar of the table fits its name. -/
def checkText? (table : List Grammar) (path : Text) (order : Order) (s : Text) :
    Option Verdict :=
  (lookupGrammar? table path).map fun g => checkWith g (Path.ofText path) order s

/-! ## What is logged -/

/-- The record of the grammar that was found. -/
def grammarRecord (g : Grammar) (path : Text) : LogRecord :=
  ⟨.debug, "using grammar " ++ quoted g.name ++ " for " ++ path⟩

/-- The place of a block in words. -/
def Block.place (b : Block) : Text := ofInt b.startLine ++ " ~ " ++ ofInt b.endLine

/-- The record that shows a block. -/
def Block.record (b : Block) : LogRecord :=
  ⟨.debug, "  current license between line " ++ b.place ++ ":\n" ++ b.text⟩

/-- A year in words. -/
def yearWord : Option Int → Text
  | some year => ofInt year
  | none => "None"

/-- What is logged about a finding. -/
def Document.judgeRecords (d : Document) (g : Grammar) (order : Order) : List LogRecord :=
  match d.judge g order with
  | .matched header =>
    [⟨.info, "  license header matched at line " ++ header.place⟩, header.record]
  | .needsFix declarations => missing declarations
  | .fixed declarations _ =>
    missing declarations ++ d.rebuildRecords declarations g order.license order.currentYear
where
  missing (declarations : List Block) : List LogRecord :=
    ⟨.info, "  license header does not exist or match, should be fixed"⟩ ::
      declarations.flatMap fun b =>
        [b.record, ⟨.debug, "  current license starts at year " ++ yearWord b.year⟩]

/-- What is logged while a file is checked. -/
def checkRecords (g : Grammar) (path : Text) (order : Order) (s : Text) : List LogRecord :=
  let d := (Document.parse g s).settleYear order
  grammarRecord g path :: Document.parseRecords g s ++
    d.headerRecord order.license order.currentYear :: d.judgeRecords g order

end LicenseAudit
