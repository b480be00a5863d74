import LicenseAudit.Text.Blank

/-!
# Comment blocks

A block is a run of comment lines of one kind, without its delimiters and decoration, and the
span of physical lines that it covers.
-/

namespace LicenseAudit

/-- A run of comment lines. -/
structure Block where
  /-- The content lines, trimmed and stripped of delimiters and decoration. -/
  lines : List Text
  /-- The number of the first physical line, counted from one. -/
  startLine : Int
  /-- The number of the last physical line. -/
  endLine : Int
  /-- Whether the content looks like a license declaration. -/
  isLicense : Bool := false
  /-- The earliest copyright year in a block that looks like a license declaration. -/
  year : Option Int := none
  deriving DecidableEq, Repr, Inhabited

namespace Block

/-- The content in one line: blocks are compared by it. -/
def normalized (b : Block) : Text := Text.trim (Text.joinWith [' '] b.lines)

/-- The content with its line structure, for messages. -/
def text (b : Block) : Text := Text.trim (Text.joinWith ['\n'] b.lines)

/-- Whether a physical line lies in the span. -/
def covers (b : Block) (number : Int) : Bool := b.startLine ≤ number && number ≤ b.endLine

end Block

end LicenseAudit
