import LicenseAudit.License.Notice
import LicenseAudit.Text.Lines

/-!
# License templates

The canonical license text may hold the macro `{years}`, which stands for the years of a
file: its start year and the current year, or one year when they coincide. `normalizeLicense`
makes the text comparable with comment blocks, `expandYears` fills in the macro, and
`templateYears?` recognises a text that is the template with any years filled in.
-/

namespace LicenseAudit

open Text

/-- The place of the years in a license text. -/
def yearsMacro : Text := ['{', 'y', 'e', 'a', 'r', 's', '}']

/-- The lines of a license text, each trimmed, in one line. -/
def normalizeLicense (s : Text) : Text := trim (joinWith [' '] ((splitLines s).map trim))

/-! ## Filling in the years -/

/-- The years of a file: one when the start year is unknown or the current one, else both. -/
def yearRange (start : Option Int) (current : Int) : Text :=
  let first := start.getD current
  if first = current then ofInt current else ofInt first ++ ", " ++ ofInt current

/-- The text with the years in every place of the macro. -/
def expandYears (s : Text) (start : Option Int) (current : Int) : Text :=
  replaceAll yearsMacro (yearRange start current) s

/-! ## Recognising the years -/

/-- Reads a text as the given parts with years between neighbours: one year, or two with a comma
and a blank between them. Two years are preferred to one. The result lists the years. -/
def matchParts : List Text → Text → Option (List Int)
  | [], s => if s.isEmpty then some [] else none
  | [part], s => if s = part then some [] else none
  | part :: rest, s =>
    match after? part s with
    | none => none
    | some s =>
      match leadingYear? s with
      | none => none
      | some (first, s) =>
        let range := ((after? ", " s).bind leadingYear?).bind fun (second, s) =>
          (matchParts rest s).map fun years => first :: second :: years
        range.or ((matchParts rest s).map (first :: ·))

/-- The years in a text that is the normalized license with years in place of each macro. -/
def templateYears? (license : Text) (s : Text) : Option (List Int) :=
  matchParts (splitOn yearsMacro (normalizeLicense license)) s

/-- The first block that is the license but for its years, and the earliest of them. -/
def findTemplate? (license : Text) : List Block → Option (Block × Option Int)
  | [] => none
  | b :: rest =>
    match templateYears? license b.normalized with
    | some years => some (b, earliest years)
    | none => findTemplate? license rest

end LicenseAudit
