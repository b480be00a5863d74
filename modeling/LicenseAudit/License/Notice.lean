import LicenseAudit.Comment.Block
import LicenseAudit.Text.Digits
import LicenseAudit.Text.LetterCase
import LicenseAudit.Text.WordClass

/-!
# License notices

`isLicenseLike` recognises text that looks like a license declaration by a few phrases.
`copyrightYears` finds the years that follow the word "Copyright" on a line. `annotate` marks the
blocks of a file that look like declarations and gives each the earliest year it names.
-/

namespace LicenseAudit

open Text

/-! ## Phrases -/

/-- A phrase: words that stand in this order, in any case, with blanks between them. -/
abbrev Phrase := List Text

/-- The phrases that license declarations hold. -/
def licensePhrases : List Phrase :=
  [["SPDX-License-Identifier:"],
    ["Copyright", "(C)"],
    ["(C)", "Copyright"],
    ["©", "Copyright"],
    ["All", "rights", "reserved"],
    ["THE", "SOFTWARE", "IS", "PROVIDED"],
    ["Permission", "to", "use"]]

/-- Whether a text starts with the words of a phrase. -/
def Phrase.opens : Phrase → Text → Bool
  | [], _ => true
  | [word], s => (afterAnyCase? word s).isSome
  | word :: rest, s =>
    match afterAnyCase? word s with
    | some (c :: r) => isBlank c && Phrase.opens rest (trimLeft r)
    | _ => false

/-- Whether a phrase stands somewhere in a text. -/
def Phrase.occursIn (p : Phrase) : Text → Bool
  | [] => p.opens []
  | c :: s => p.opens (c :: s) || p.occursIn s

/-- Whether a text looks like a license declaration. -/
def isLicenseLike (s : Text) : Bool := licensePhrases.any (·.occursIn s)

/-! ## Years -/

/-- The year at the start of a text: a one or a two and three more decimal digits. The text after
it comes with it. -/
def leadingYear? : Text → Option (Int × Text)
  | c :: c₁ :: c₂ :: c₃ :: rest =>
    if c = '1' ∨ c = '2' then
      (readNumeral? [c, c₁, c₂, c₃]).map fun n => (Int.ofNat n, rest)
    else none
  | _ => none

/-- Whether a word may end before this text. -/
def endsWordBefore : Text → Bool
  | [] => true
  | c :: _ => !isWordChar c

/-- The years that stand as whole words in a text which follows the character `prev`. -/
def yearsAfter (prev : Char) : Text → List Int
  | [] => []
  | c :: s =>
    let later := yearsAfter c s
    match leadingYear? (c :: s) with
    | some (year, rest) =>
      if !isWordChar prev && endsWordBefore rest then year :: later else later
    | none => later

/-- The text after the first "Copyright", in any case, and the letter that it ends with. -/
def afterCopyright? : Text → Option Text
  | [] => none
  | c :: s =>
    match afterAnyCase? "Copyright" (c :: s) with
    | some rest => some rest
    | none => afterCopyright? s

/-- The years that follow the first "Copyright" of a line. -/
def copyrightYears (line : Text) : List Int :=
  match afterCopyright? line with
  | some rest => yearsAfter 't' rest
  | none => []

/-- The least of the years, when there is one. -/
def earliest (years : List Int) : Option Int := years.min?

/-- The earliest year that follows "Copyright" on one of the lines. -/
def earliestCopyrightYear (lines : List Text) : Option Int :=
  earliest (lines.flatMap copyrightYears)

/-! ## Annotation -/

/-- The block with its license mark and year. -/
def Block.annotate (b : Block) : Block :=
  if isLicenseLike b.normalized then
    { b with isLicense := true, year := earliestCopyrightYear b.lines }
  else b

/-- The blocks with their marks and years, and the earliest year of those that are marked. -/
def annotate (blocks : List Block) : List Block × Option Int :=
  let annotated := blocks.map Block.annotate
  (annotated, earliest ((annotated.filter (·.isLicense)).filterMap (·.year)))

end LicenseAudit
