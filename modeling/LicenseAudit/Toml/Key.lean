import LicenseAudit.Toml.Quotation

/-!
# Keys of a settings file

A key is a list of parts with dots between them; each part is a word, or a string on one line.
-/

namespace LicenseAudit

open Text

namespace Toml

/-- Whether a character may stand in a key without quotes. -/
def isKeyChar (c : Char) : Bool := c.isAlphanum || c == '-' || c == '_'

/-- How many parts a key may have. -/
def partLimit : Nat := 100

/-- A part without quotes. It is read up to the first character that is neither part of a word nor
a gap; the gaps at its ends do not count, and there may be no space inside it. -/
def barePart (s : Text) : Except Fault (WithRest Text) :=
  let inPart := fun c => isKeyChar c || isGap c
  let word := (skipGap (s.takeWhile inPart)).reverse.dropWhile isGap |>.reverse
  if word.isEmpty ∨ word.contains ' ' then .error .malformed else .ok (word, s.dropWhile inPart)

/-- One part of a key, and the text after the gap that follows it. -/
def keyPart (s : Text) : Except Fault (WithRest Text) :=
  match s with
  | '"' :: _ | '\'' :: _ => do
    let ((part, isLong), rest) ← quotation (s.headD '"') s
    if isLong then .error (.unexpected rest) else return (part, skipGap rest)
  | s => barePart s

/-- A key of at most so many parts. -/
def keyParts : Nat → Text → Except Fault (WithRest (List Text))
  | 0, _ => .error .malformed
  | count + 1, s => do
    let (part, rest) ← keyPart (skipGap s)
    match rest with
    | '.' :: rest => mapResult (part :: ·) (keyParts count rest)
    | rest => return ([part], rest)

/-- A key. -/
def key (s : Text) : Except Fault (WithRest (List Text)) := keyParts partLimit s

/-- A key with the equals sign after it. -/
def keyOfPair (s : Text) : Except Fault (WithRest (List Text)) := do
  let (parts, rest) ← key s
  match skipGap rest with
  | '=' :: rest => return (parts, skipGap rest)
  | rest => .error (.unexpected rest)

end Toml

end LicenseAudit
