import LicenseAudit.Proofs.Document.Accounting
import LicenseAudit.Proofs.Document.Lossless

/-!
# The same file stored differently

A file whose lines end with line feeds can be stored with the other line ending, behind a byte order
mark, or both (`Storage`). It comes apart into the same directive, lines and blocks however it is
stored (`Document.parse_store`), and a file that is rebuilt from them is stored like the one that
was taken apart (`Document.Physical.rebuild_document`).

So the verdict does not depend on how a file is stored, and the new text of a fixed file is stored
like the old one: `checkText?_store`.
-/

namespace LicenseAudit

open Text

/-- How a text is stored: with which line ending, and whether behind a byte order mark. -/
structure Storage where
  ending : LineEnding
  marked : Bool
  deriving DecidableEq, Repr

namespace Storage

variable (e : Storage)

/-- What stands in front of a text that is stored. -/
def mark : Text := if e.marked then ['\ufeff'] else []

/-- The text as it is stored: every line feed of it is written as the line ending. -/
def store (s : Text) : Text := e.mark ++ replaceAll ['\n'] e.ending.text s

/-- The file as it is taken apart when it is stored. -/
def document (d : Document) : Document :=
  { d with byteOrderMark := e.mark, lineEnding := e.ending }

/-- What a check finds when the file is stored: a new text is stored too. -/
def finding : Finding → Finding
  | .fixed removed newText => .fixed removed (e.store newText)
  | found => found

/-- The verdict on the file when it is stored. -/
def verdict (v : Verdict) : Verdict := { v with finding := e.finding v.finding }

theorem mark_eq : e.mark = [] ∨ e.mark = ['\ufeff'] := by
  unfold mark
  split
  · exact .inr rfl
  · exact .inl rfl

end Storage

/-! ## Lines and their storage -/

theorem Text.splitOn_singleton (sep : Char) (s : Text) : splitOn [sep] s = splitOnChar sep s := by
  have hsep : [sep] ≠ [] := by simp
  induction s with
  | nil => rw [splitOn]; rfl
  | cons c s ih =>
    by_cases hc : c = sep
    · rw [hc, splitOnChar, if_pos rfl, ← ih]
      exact splitOn_append hsep s
    · have hs : startsWith [sep] (c :: s) = false := by
        simp [startsWith, after?, Ne.symm hc]
      rw [splitOnChar, if_neg hc, ← ih, splitOn_cons hsep hs]

theorem Storage.store_joinWith (e : Storage) {lines : List Text} (hne : lines ≠ [])
    (hn : ∀ line ∈ lines, '\n' ∉ line) :
    e.store (joinWith LineEnding.lf.text lines) = e.mark ++ joinWith e.ending.text lines := by
  rw [store, replaceAll, splitOn_singleton, LineEnding.text, splitOnChar_joinWith '\n' hne hn]

/-- A text that uses line feeds is its lines joined by them, and there are several. -/
theorem exists_eq_joinWith_lf {s : Text} (hr : '\r' ∉ s) (hn : '\n' ∈ s) :
    ∃ first rest, s = joinWith LineEnding.lf.text (first :: rest) ∧ rest ≠ [] ∧
      ∀ line ∈ first :: rest, ∀ c ∈ line, isInLine c = true := by
  have hjoin := joinWith_lf_splitLines hr
  have hin : ∀ line ∈ splitLines s, ∀ c ∈ line, isInLine c = true := by
    intro line hl c hc
    obtain ⟨hline, hs⟩ := chars_of_mem_splitLines hl
    have h₁ : c ≠ '\r' := fun h => hr (h ▸ hs c hc)
    have h₂ : c ≠ '\n' := fun h => hline (h ▸ hc)
    simp [isInLine, h₁, h₂]
  obtain ⟨first, rest, hs⟩ := List.exists_cons_of_ne_nil (splitLines_ne_nil s)
  rw [hs] at hjoin hin
  refine ⟨first, rest, hjoin.symm, ?_, hin⟩
  rintro rfl
  have := hin first (List.mem_cons_self ..) '\n' (by rwa [← hjoin] at hn)
  revert this
  decide

theorem joinable_of_isInLine {lines : List Text}
    (h : ∀ line ∈ lines, ∀ c ∈ line, isInLine c = true) (ending : LineEnding) :
    Joinable ending lines where
  inLine line hl hc := absurd (h line hl _ hc) (by decide)
  last _ line hl hlast := absurd (h line hl _ (List.mem_of_getLast? hlast)) (by decide)

/-! ## Files taken apart -/

section Lines

variable {first : Text} {rest : List Text}

/-- Joined lines hold a carriage return just when the line ending does. -/
theorem lineEnding_of_joinWith (hin : ∀ line ∈ first :: rest, ∀ c ∈ line, isInLine c = true)
    (hne : rest ≠ []) (ending : LineEnding) :
    LineEnding.of (joinWith ending.text (first :: rest)) = ending := by
  cases ending with
  | lf =>
    refine Document.lineEnding_of_eq_lf fun hc => ?_
    rcases mem_joinWith hc with hc | ⟨line, hl, hc⟩
    · revert hc
      decide
    · exact absurd (hin line hl _ hc) (by decide)
  | crlf =>
    rw [joinWith_ending_cons _ _ hne]
    exact Document.lineEnding_of_eq_crlf (by simp [LineEnding.text])

/-- The directive is in the first line, whatever line ending joins the lines. -/
theorem exists_splitDirective_joinWith
    (hin : ∀ line ∈ first :: rest, ∀ c ∈ line, isInLine c = true) (hne : rest ≠ []) :
    ∃ directive body, (∀ line ∈ body, ∀ c ∈ line, isInLine c = true) ∧ body ≠ [] ∧
      ∀ ending : LineEnding, splitDirective (joinWith ending.text (first :: rest)) =
        (directive, joinWith ending.text body) := by
  by_cases hd : startsWith "#!" first = true
  · refine ⟨some first, [] :: rest, ?_, by simp, fun ending => ?_⟩
    · simpa using fun line hl => hin line (List.mem_cons_of_mem _ hl)
    · rw [joinWith_ending_cons _ _ hne, joinWith_ending_cons _ _ hne,
        splitDirective_append hd (hin first (List.mem_cons_self ..)), List.nil_append]
  · refine ⟨none, first :: rest, hin, by simp, fun ending =>
      splitDirective_of_not_startsWith (Bool.eq_false_iff.2 fun h => hd ?_)⟩
    obtain ⟨c, s, hc, hcl⟩ := exists_ending_text_eq_cons ending
    rw [joinWith_ending_cons _ _ hne, hc] at h
    refine startsWith_of_startsWith_append (x := c) (fun hm => ?_) h
    rcases List.mem_cons.1 hm with rfl | hm
    · exact absurd hcl (by decide)
    · rw [List.mem_singleton.1 hm] at hcl
      exact absurd hcl (by decide)

theorem head?_joinWith (hfirst : first.head? ≠ some '\ufeff') (hne : rest ≠ [])
    (ending : LineEnding) :
    (joinWith ending.text (first :: rest)).head? ≠ some '\ufeff' := by
  rw [joinWith_ending_cons _ _ hne]
  cases first with
  | nil => cases ending <;> simp [LineEnding.text]
  | cons c first => exact hfirst

/-- The same lines make the same file, whatever joins them and stands in front of them. -/
theorem exists_parse_joinWith (g : Grammar)
    (hin : ∀ line ∈ first :: rest, ∀ c ∈ line, isInLine c = true) (hne : rest ≠ [])
    (hfirst : first.head? ≠ some '\ufeff') :
    ∃ d : Document, ∀ e : Storage,
      Document.parse g (e.mark ++ joinWith e.ending.text (first :: rest)) = e.document d := by
  obtain ⟨directive, body, hbody, hbne, hsplit⟩ := exists_splitDirective_joinWith hin hne
  refine ⟨⟨[], directive, .lf, body, (annotate (scanLines g body)).1,
    (annotate (scanLines g body)).2⟩, fun e => ?_⟩
  have hlines : splitLines (joinWith e.ending.text body) = body :=
    (joinable_of_isInLine hbody e.ending).splitLines_joinWith hbne
  rw [Document.parse, splitByteOrderMark_append e.mark_eq (head?_joinWith hfirst hne _)]
  simp only [hsplit, hlines, lineEnding_of_joinWith hin hne]
  rfl

end Lines

namespace Document

variable {g : Grammar} {s : Text} (hr : '\r' ∉ s) (hn : '\n' ∈ s) (hm : s.head? ≠ some '\ufeff')
include hr hn hm

/-- **However it is stored, a text comes apart into the same parts.** -/
theorem parse_store (e : Storage) : parse g (e.store s) = e.document (parse g s) := by
  obtain ⟨first, rest, rfl, hne, hin⟩ := exists_eq_joinWith_lf hr hn
  have hfirst : first.head? ≠ some '\ufeff' := by
    cases first with
    | nil => simp
    | cons c first => rwa [joinWith_ending_cons _ _ hne] at hm
  obtain ⟨d, hd⟩ := exists_parse_joinWith g hin hne hfirst
  rw [e.store_joinWith (by simp) fun line hl hc => absurd (hin line hl _ hc) (by decide), hd]
  have hplain : parse g (joinWith LineEnding.lf.text (first :: rest)) =
      (⟨.lf, false⟩ : Storage).document d := hd ⟨.lf, false⟩
  rw [hplain]
  rfl

end Document

/-! ## Files put together -/

namespace Document

variable {d : Document} {g : Grammar}

theorem Physical.inLine_rebuiltLines (hd : d.Physical) (hg : BuiltinSyntax g)
    (removed : List Block) (license : Text) (current : Int) :
    ∀ line ∈ d.rebuiltLines removed g license current, '\n' ∉ line := by
  intro line hl
  have hbody := (hd.joinable_bodyLines hg removed license current).inLine line
  simp only [rebuiltLines, bodyLines, leadLines, List.mem_append] at hl hbody
  rcases hl with ((hl | hl) | hl) | hl
  · unfold directiveLines at hl
    split at hl
    · next directive hdirective =>
      rcases List.mem_cons.1 hl with rfl | hl
      · exact fun hc => absurd ((hd.directive _ hdirective).2 _ hc) (by decide)
      · simp [List.mem_singleton.1 hl]
    · cases hl
  · exact hbody (.inl (.inl (.inr hl)))
  · exact hbody (.inl (.inr hl))
  · exact hbody (.inr hl)

/-- **A file that is rebuilt is stored like the one that was taken apart.** -/
theorem Physical.rebuild_document (hd : d.Physical) (hg : BuiltinSyntax g)
    (hm : d.byteOrderMark = []) (hl : d.lineEnding = .lf) (e : Storage) (removed : List Block)
    (license : Text) (current : Int) :
    (e.document d).rebuild removed g license current =
      e.store (d.rebuild removed g license current) := by
  have hne : d.rebuiltLines removed g license current ≠ [] := by
    have := two_le_length_rebuiltLines hg d removed license current
    intro h
    rw [h] at this
    simp at this
  rw [rebuild, rebuild, hm, hl, List.nil_append,
    e.store_joinWith hne (hd.inLine_rebuiltLines hg removed license current)]
  rfl

theorem settleYear_document (d : Document) (order : Order) (e : Storage) :
    (e.document d).settleYear order = e.document (d.settleYear order) := rfl

theorem Physical.judge_document (hd : d.Physical) (hg : BuiltinSyntax g)
    (hm : d.byteOrderMark = []) (hl : d.lineEnding = .lf) (e : Storage) (order : Order) :
    (e.document d).judge g order = e.finding (d.judge g order) := by
  have hfind : (e.document d).findHeader? order.license order.currentYear =
      d.findHeader? order.license order.currentYear := rfl
  have hdecl : (e.document d).declarations order.license = d.declarations order.license := rfl
  rw [judge, judge, hfind, hdecl]
  cases d.findHeader? order.license order.currentYear with
  | some header => rfl
  | none =>
    dsimp only
    cases order.fix with
    | false => rfl
    | true =>
      rw [if_pos rfl, if_pos rfl, hd.rebuild_document hg hm hl]
      rfl

end Document

/-! ## Checks -/

theorem splitByteOrderMark_of_head? {s : Text} (hm : s.head? ≠ some '\ufeff') :
    splitByteOrderMark s = ([], s) :=
  splitByteOrderMark_append (.inl rfl) hm

/-- **The verdict on a file does not depend on how the file is stored**, and the new text of a fixed
file is stored like the old one. -/
theorem checkText?_store {path s : Text} {g : Grammar}
    (hg : lookupGrammar? builtinGrammars path = some g) (hr : '\r' ∉ s) (hn : '\n' ∈ s)
    (hm : s.head? ≠ some '\ufeff') (order : Order) (e : Storage) :
    ∃ v, checkText? builtinGrammars path order s = some v ∧
      checkText? builtinGrammars path order (e.store s) = some (e.verdict v) := by
  have hsyntax := builtinSyntax_of_mem (mem_of_lookupGrammar?_eq_some hg)
  have hmark : (Document.parse g s).byteOrderMark = [] := by
    rw [Document.parse, splitByteOrderMark_of_head? hm]
  have hending : (Document.parse g s).lineEnding = .lf := by
    rw [Document.parse, splitByteOrderMark_of_head? hm]
    exact Document.lineEnding_of_eq_lf hr
  have hparse := Document.physical_parse g s
  have hphysical : ((Document.parse g s).settleYear order).Physical :=
    ⟨hparse.byteOrderMark, hparse.directive, hparse.joinable⟩
  refine ⟨checkWith g (Path.ofText path) order s, by rw [checkText?, hg]; rfl, ?_⟩
  rw [checkText?, hg, Option.map_some, checkWith, Document.parse_store hr hn hm e,
    Document.settleYear_document, hphysical.judge_document hsyntax hmark hending]
  rfl

/-- A script that declares another license, and how it is to be fixed. -/
def declaredShellText : Text := "#!/bin/sh\n# Copyright (C) 2020 Foo\necho\n"

def declaredShellOrder : Order where
  license := "Copyright (C) {years} Acme"
  currentYear := 2024
  fix := true

theorem checkText?_store_shell :
    let e : Storage := ⟨.crlf, true⟩
    e.store declaredShellText =
        "\ufeff#!/bin/sh\r\n# Copyright (C) 2020 Foo\r\necho\r\n".toList ∧
      lookupGrammar? builtinGrammars "a.sh" = some (hashGrammar "shell" ["sh", "bash"]) ∧
      '\r' ∉ declaredShellText ∧ '\n' ∈ declaredShellText ∧
      declaredShellText.head? ≠ some '\ufeff' ∧
      ∃ v, checkText? builtinGrammars "a.sh" declaredShellOrder declaredShellText = some v ∧
        checkText? builtinGrammars "a.sh" declaredShellOrder (e.store declaredShellText) =
          some (e.verdict v) := by
  intro e
  have hg : lookupGrammar? builtinGrammars "a.sh" = some (hashGrammar "shell" ["sh", "bash"]) := by
    decide +kernel
  have hr : '\r' ∉ declaredShellText := by decide
  have hn : '\n' ∈ declaredShellText := by decide
  have hm : declaredShellText.head? ≠ some '\ufeff' := by decide
  exact ⟨by decide +kernel, hg, hr, hn, hm, checkText?_store hg hr hn hm declaredShellOrder e⟩

end LicenseAudit
