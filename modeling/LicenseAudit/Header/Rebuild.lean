import LicenseAudit.Document
import LicenseAudit.Header.Render

/-!
# Rebuilding a file

A file is put together again with the canonical header in front: the directive and a blank line
when it has one, the header, a blank line unless the first line kept is blank already, and the
lines kept, which are those outside the spans of the removed blocks. The lines are joined with
the file's own line ending, and its byte order mark stays in front.
-/

namespace LicenseAudit

open Text

namespace Document

/-- The lines from `number` on that lie outside all the given blocks. -/
def keepLines (removed : List Block) (number : Int) : List Text → List Text
  | [] => []
  | line :: rest =>
    if removed.any (·.covers number) then keepLines removed (number + 1) rest
    else line :: keepLines removed (number + 1) rest

/-- The lines that stay when blocks are removed. -/
def keptLines (d : Document) (removed : List Block) : List Text := keepLines removed 1 d.lines

/-- The header lines for this file. -/
def headerLines (d : Document) (g : Grammar) (license : Text) (current : Int) : List Text :=
  renderHeader g (expandYears license d.startYear current)

/-- What separates the header from the first line kept. -/
def separator : List Text → List Text
  | [] => []
  | line :: _ => if isAllBlank line then [] else [[]]

/-- What stands before the header. -/
def directiveLines (d : Document) : List Text :=
  match d.directive with
  | some directive => [directive, []]
  | none => []

/-- The lines of the rebuilt file. -/
def rebuiltLines (d : Document) (removed : List Block) (g : Grammar) (license : Text)
    (current : Int) : List Text :=
  let kept := d.keptLines removed
  d.directiveLines ++ d.headerLines g license current ++ separator kept ++ kept

/-- The file with the canonical header and without the removed blocks. -/
def rebuild (d : Document) (removed : List Block) (g : Grammar) (license : Text)
    (current : Int) : Text :=
  d.byteOrderMark ++ joinWith d.lineEnding.text (d.rebuiltLines removed g license current)

/-- What is logged while a file is rebuilt. -/
def rebuildRecords (d : Document) (removed : List Block) (g : Grammar) (license : Text)
    (current : Int) : List LogRecord :=
  let kept := d.keptLines removed
  renderRecords g ++
    [⟨.debug, "rebuilt file: " ++ ofInt (d.headerLines g license current).length ++
      " header line(s), " ++ ofInt (d.lines.length - kept.length) ++ " line(s) removed, " ++
      ofInt kept.length ++ " line(s) kept"⟩]

end Document

end LicenseAudit
