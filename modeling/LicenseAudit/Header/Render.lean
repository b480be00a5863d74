import LicenseAudit.Grammar.Basic
import LicenseAudit.License.Template
import LicenseAudit.Log.Record
import LicenseAudit.Text.Quoted

/-!
# Rendering a header

A license text becomes a comment by the write form of a grammar: an opening line, the trimmed
lines of the text with the line prefix before them, and a closing line. A grammar without comment
syntax gets the lines as they are.
-/

namespace LicenseAudit

open Text

/-- The lines of a license text that a header shows. -/
def contentLines (license : Text) : List Text := (splitLines (trim license)).map trim

/-- One content line behind the line prefix; a blank separates them when both are there. -/
def WriteForm.contentLine (form : WriteForm) (line : Text) : Text :=
  if form.linePrefix.isEmpty then line
  else if line.isEmpty then form.linePrefix
  else form.linePrefix ++ ' ' :: line

/-- The lines between the opening and the closing line. -/
def WriteForm.wrap (form : WriteForm) (content : List Text) : List Text :=
  form.opener :: content.map form.contentLine ++ [form.closer]

/-- The header of a license text whose years are filled in. -/
def renderHeader (g : Grammar) (license : Text) : List Text :=
  match g.writeForm with
  | some form => form.wrap (contentLines license)
  | none => contentLines license

/-- What is logged while a header is rendered. -/
def renderRecords (g : Grammar) : List LogRecord :=
  match g.writeForm with
  | some _ => []
  | none =>
    [⟨.warning, "grammar " ++ quoted g.name ++ " has no comment syntax; rendering plain text"⟩]

end LicenseAudit
