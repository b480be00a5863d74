import LicenseAudit.Proofs.Verdict.Refix
import LicenseAudit.Report.Status

/-!
# A license wrapped in another way

How a license text is broken into lines, indented and spaced at its ends shows in the header that
is written, but in no verdict. A check reads the license in two ways: normalized and cut at the
macros, to recognise its years, and filled in and then normalized, to know what the header has to
say. Filling in the years and normalizing commute (`normalizeLicense_expandYears`), so both depend
on the normalized license alone (`templateYears?_congr`, `Document.expectedHeader_congr`), and with
them the start year, the header that is found and the blocks that are replaced
(`verdict_of_normalizeLicense_eq`).
-/

namespace LicenseAudit

open Text

/-- The block that was found to be the header. -/
def Verdict.header? (v : Verdict) : Option Block :=
  match v.finding with
  | .matched header => some header
  | _ => none

section Congr

variable {license license' : Text} (h : normalizeLicense license = normalizeLicense license')
include h

theorem templateYears?_congr : templateYears? license = templateYears? license' := by
  funext s
  rw [templateYears?, templateYears?, h]

theorem findTemplate?_congr : findTemplate? license = findTemplate? license' := by
  funext blocks
  induction blocks with
  | nil => rfl
  | cons b rest ih => rw [findTemplate?, findTemplate?, templateYears?_congr h, ih]

theorem normalizeLicense_expandYears_congr (start : Option Int) (current : Int) :
    normalizeLicense (expandYears license start current) =
      normalizeLicense (expandYears license' start current) := by
  rw [normalizeLicense_expandYears, normalizeLicense_expandYears, h]

namespace Document

variable (d : Document)

theorem resolveYear_congr : d.resolveYear license = d.resolveYear license' := by
  rw [resolveYear, resolveYear, findTemplate?_congr h]

theorem expectedHeader_congr (current : Int) :
    d.expectedHeader license current = d.expectedHeader license' current := by
  rw [expectedHeader, expectedHeader, d.resolveYear_congr h]
  exact normalizeLicense_expandYears_congr h _ _

theorem findHeader?_congr (current : Int) :
    d.findHeader? license current = d.findHeader? license' current := by
  simp only [findHeader?, d.expectedHeader_congr h]

theorem declarations_congr : d.declarations license = d.declarations license' := by
  rw [declarations, declarations, findTemplate?_congr h]

end Document

end Congr

/-! ## Verdicts -/

section Verdicts

variable {order : Order} {license : Text}
variable (h : normalizeLicense order.license = normalizeLicense license)
include h

theorem Document.settleYear_congr (d : Document) :
    d.settleYear order = d.settleYear { order with license } := by
  simp only [settleYear, resolveYear_congr h]

/-- What a file is judged to be, but for the text of a fix. -/
theorem Document.judge_congr (d : Document) (g : Grammar) :
    (∃ header, d.judge g order = .matched header ∧
      d.judge g { order with license } = .matched header) ∨
    (∃ declarations, d.judge g order = .needsFix declarations ∧
      d.judge g { order with license } = .needsFix declarations) ∨
    ∃ declarations newText newText', d.judge g order = .fixed declarations newText ∧
      d.judge g { order with license } = .fixed declarations newText' := by
  have hfind := d.findHeader?_congr h order.currentYear
  have hdeclarations := d.declarations_congr h
  cases hheader : d.findHeader? order.license order.currentYear with
  | some header =>
    rw [hheader] at hfind
    exact .inl ⟨header, judge_eq_matched d order hheader, judge_eq_matched d _ hfind.symm⟩
  | none =>
    rw [hheader] at hfind
    simp only [judge, hheader, ← hfind, ← hdeclarations]
    split
    · exact .inr (.inr ⟨_, _, _, rfl, rfl⟩)
    · exact .inr (.inl ⟨_, rfl, rfl⟩)

/-- **A verdict depends on the license only through its normalized text**, the text of a fix aside,
and it makes no difference whether the years are filled in before or after normalizing. -/
theorem verdict_of_normalizeLicense_eq {table : List Grammar} {path : Text} {g : Grammar}
    (hg : lookupGrammar? table path = some g) (s : Text) :
    (∃ v v', checkText? table path order s = some v ∧
      checkText? table path { order with license } s = some v' ∧
      v'.status = v.status ∧ v'.header? = v.header? ∧ v'.declarations = v.declarations ∧
      v'.startYear = v.startYear) ∧
    ∀ (start : Option Int) (current : Int),
      normalizeLicense (expandYears order.license start current) =
        expandYears (normalizeLicense order.license) start current := by
  refine ⟨⟨checkWith g (Path.ofText path) order s,
    checkWith g (Path.ofText path) { order with license } s, ?_, ?_, ?_⟩, fun start current =>
      normalizeLicense_expandYears start current order.license⟩
  · rw [checkText?, hg]
    rfl
  · rw [checkText?, hg]
    rfl
  · have hsettle := Document.settleYear_congr h (Document.parse g s)
    have hjudge := Document.judge_congr h ((Document.parse g s).settleYear order) g
    simp only [Verdict.status, Verdict.header?, Verdict.declarations, checkWith, ← hsettle]
    rcases hjudge with ⟨header, hj, hj'⟩ | ⟨declarations, hj, hj'⟩ | ⟨declarations, _, _, hj, hj'⟩
    · simp [hj, hj']
    · simp [hj, hj']
    · simp [hj, hj']

end Verdicts

/-- The usual notice, indented, with CR LF in the middle of it and empty lines around it. -/
def wrappedNotice : Text := "\n  Copyright (C) \r\n\t" ++ yearsMacro ++ " Acme  \r\n\r\n"

theorem verdict_of_normalizeLicense_eq_wrapped :
    normalizeLicense acmeOrder.license = normalizeLicense wrappedNotice ∧
    lookupGrammar? builtinGrammars "a.py" = some moduleVerdict.grammar ∧
    (∃ v v', checkText? builtinGrammars "a.py" acmeOrder moduleText = some v ∧
      checkText? builtinGrammars "a.py" { acmeOrder with license := wrappedNotice } moduleText =
        some v' ∧
      v'.status = v.status ∧ v'.header? = v.header? ∧ v'.declarations = v.declarations ∧
      v'.startYear = v.startYear) ∧
    ∀ (start : Option Int) (current : Int),
      normalizeLicense (expandYears acmeOrder.license start current) =
        expandYears (normalizeLicense acmeOrder.license) start current := by
  have hlicense : normalizeLicense acmeOrder.license = normalizeLicense wrappedNotice := by
    decide +kernel
  have hgrammar : lookupGrammar? builtinGrammars "a.py" = some moduleVerdict.grammar := by
    decide +kernel
  exact ⟨hlicense, hgrammar, verdict_of_normalizeLicense_eq hlicense hgrammar moduleText⟩

end LicenseAudit
