import LicenseAudit.Comment.Scanner

/-!
# A direct scanner

The scanner is a machine with three states. `directScan` finds the same blocks without a state:
at each place it looks for the end of the comment that starts there, and goes on behind it.

What the machine does to an open comment is one leap over its lines (`Scanner.feedAll_inRun`,
`Scanner.feedAll_inBlock`), and so is a whole comment that an idle machine comes to
(`Scanner.feedAll_opener`, `Scanner.feedAll_lineComment`). These are the steps of the direct
scanner, so the two agree (`scanLines_eq_directScan`).
-/

namespace LicenseAudit

open Text

/-! ## The direct scanner -/

namespace Grammar

/-- The first delimiters whose opener starts the line. -/
def openerOn? (g : Grammar) (line : Text) : Option BlockDelimiters :=
  g.blockComments.find? fun d => startsWith d.opener line

/-- Whether a prefix of line comments starts the line. -/
def isLineComment (g : Grammar) (line : Text) : Bool :=
  g.lineComments.any fun mark => startsWith mark line

/-- What a line comment says. -/
def lineContent (g : Grammar) (line : Text) : Text :=
  (stripLinePrefix? g.lineComments line).getD []

end Grammar

namespace BlockDelimiters

/-- What is left of the line on which a comment opens. -/
def behindOpener (d : BlockDelimiters) (line : Text) : Text := line.drop d.opener.length

/-- What the line on which a comment closes says. -/
def lastContent (d : BlockDelimiters) (line : Text) : Text :=
  stripDecoration d.decoration ((before? d.closer line).getD line)

/-- What the lines after the first say, the closing line last: it counts only when something is
left of it. -/
def laterContent (d : BlockDelimiters) : List Text → List Text
  | [] => []
  | [last] => if (d.lastContent last).isEmpty then [] else [d.lastContent last]
  | line :: next :: rest => stripDecoration d.decoration line :: laterContent d (next :: rest)

/-- What a comment says that has `inner` behind its opener and these lines after it. -/
def content (d : BlockDelimiters) (inner : Text) (later : List Text) : List Text :=
  if later.isEmpty then [d.lastContent inner]
  else stripDecoration d.decoration inner :: d.laterContent later

/-- How many lines after the one it opens on a comment closes, `inner` being behind its opener. -/
def closesAfter? (d : BlockDelimiters) (inner : Text) (rest : List Text) : Option Nat :=
  (inner :: rest).findIdx? fun line => endsWith d.closer line

end BlockDelimiters

/-- The comment blocks of trimmed lines numbered from `number` on. A block comment reaches to the
first line that ends with its closer, and without one the rest of the file is dropped; a line
comment reaches as far as there are line comments, and the line after it is passed over. -/
def directScan (g : Grammar) (number : Int) (lines : List Text) : List Block :=
  match lines with
  | [] => []
  | line :: rest =>
    match g.openerOn? line with
    | some d =>
      match d.closesAfter? (d.behindOpener line) rest with
      | none => []
      | some k =>
        ⟨d.content (d.behindOpener line) (rest.take k), number, number + k, false, none⟩ ::
          directScan g (number + k + 1) (rest.drop k)
    | none =>
      if g.isLineComment line then
        let run := (line :: rest).takeWhile g.isLineComment
        ⟨run.map g.lineContent, number, number + run.length - 1, false, none⟩ ::
          directScan g (number + run.length + 1) (rest.drop run.length)
      else directScan g (number + 1) rest
termination_by lines.length
decreasing_by all_goals simp only [List.length_cons, List.length_drop]; omega

/-! ## The classification in these terms -/

theorem openerOf?_eq_map_find? (line : Text) (ds : List BlockDelimiters) :
    openerOf? line ds =
      (ds.find? fun d => startsWith d.opener line).map fun d => (d, d.behindOpener line) := by
  induction ds with
  | nil => rfl
  | cons d ds ih =>
    rw [openerOf?]
    cases h : after? d.opener line with
    | none => simp [startsWith, h, ih]
    | some r =>
      have hr : d.behindOpener line = r := by
        rw [BlockDelimiters.behindOpener, after?_eq_some_iff.1 h, List.drop_left]
      simp [startsWith, h, hr]

theorem openerOf?_eq (g : Grammar) (line : Text) :
    openerOf? line g.blockComments = (g.openerOn? line).map fun d => (d, d.behindOpener line) :=
  openerOf?_eq_map_find? line g.blockComments

theorem stripLinePrefix?_eq (g : Grammar) (line : Text) :
    stripLinePrefix? g.lineComments line =
      if g.isLineComment line then some (g.lineContent line) else none := by
  cases h : stripLinePrefix? g.lineComments line with
  | none =>
    have hn := stripLinePrefix?_eq_none_iff.1 h
    have : g.isLineComment line = false := by simpa [Grammar.isLineComment] using hn
    simp [this]
  | some content =>
    have hs : ¬ ∀ mark ∈ g.lineComments, startsWith mark line = false := by
      intro hn
      simp [stripLinePrefix?_eq_none_iff.2 hn] at h
    have : g.isLineComment line = true := by
      simpa [Grammar.isLineComment] using hs
    simp [this, Grammar.lineContent, h]

theorem closesAfter?_eq (d : BlockDelimiters) (inner : Text) (rest : List Text) :
    d.closesAfter? inner rest =
      if endsWith d.closer inner then some 0
      else (rest.findIdx? fun line => endsWith d.closer line).map (· + 1) :=
  List.findIdx?_cons

theorem classifyPlain_eq (g : Grammar) (line : Text) :
    classifyPlain g line =
      if g.isLineComment line then { kind := .lineComment, content := g.lineContent line }
      else { kind := .code } := by
  rw [classifyPlain, stripLinePrefix?_eq]
  split <;> simp_all

/-! ## What the machine does to an open comment -/

namespace Scanner

variable (g : Grammar) (content : List Text) (first last number : Int) (blocks : List Block)

theorem feed_inRun (line : Text) :
    feed g ⟨.inRun, content, first, last, blocks⟩ number line =
      if g.isLineComment (trim line) then
        ⟨.inRun, content ++ [g.lineContent (trim line)], first, number, blocks⟩
      else { blocks := blocks ++ [⟨content, first, last, false, none⟩] } := by
  have hc : classify g .inRun (trim line) = classifyPlain g (trim line) := rfl
  rw [classifyPlain_eq] at hc
  split <;> simp_all [feed, Action.of?, act, extend, emit]

theorem feed_inBlock (d : BlockDelimiters) (line : Text) :
    feed g ⟨.inBlock d, content, first, last, blocks⟩ number line =
      if endsWith d.closer (trim line) then
        { blocks := blocks ++
            [⟨content ++ d.laterContent [trim line], first, number, false, none⟩] }
      else
        ⟨.inBlock d, content ++ [stripDecoration d.decoration (trim line)], first, number,
          blocks⟩ := by
  cases h : before? d.closer (trim line) with
  | none =>
    have hc : classify g (.inBlock d) (trim line) =
        { kind := .blockBody, content := stripDecoration d.decoration (trim line) } := by
      simp [classify, h]
    simp [feed, hc, endsWith, h, Action.of?, act, extend]
  | some inner =>
    have hc : classify g (.inBlock d) (trim line) =
        { kind := .blockClose, content := d.lastContent (trim line) } := by
      simp [classify, BlockDelimiters.lastContent, h]
    simp only [feed, hc, endsWith, h, Action.of?, act, extend, emit, BlockDelimiters.laterContent]
    split <;> simp_all

theorem feed_idle (line : Text) :
    feed g { blocks } number line =
      match g.openerOn? (trim line) with
      | some d =>
        if endsWith d.closer (d.behindOpener (trim line)) then
          { blocks := blocks ++
              [⟨d.content (d.behindOpener (trim line)) [], number, number, false, none⟩] }
        else
          ⟨.inBlock d, [stripDecoration d.decoration (d.behindOpener (trim line))], number,
            number, blocks⟩
      | none =>
        if g.isLineComment (trim line) then
          ⟨.inRun, [g.lineContent (trim line)], number, number, blocks⟩
        else { blocks } := by
  have ho := openerOf?_eq g (trim line)
  cases h : g.openerOn? (trim line) with
  | none =>
    have hc : classify g .idle (trim line) = classifyPlain g (trim line) := by
      simp [classify, ho, h]
    rw [classifyPlain_eq] at hc
    cases hl : g.isLineComment (trim line) <;> simp_all [feed, Action.of?, act, start]
  | some d =>
    cases hb : before? d.closer (d.behindOpener (trim line)) with
    | none =>
      have hc : classify g .idle (trim line) =
          { kind := .blockOpen, delimiters := some d,
            content := stripDecoration d.decoration (d.behindOpener (trim line)) } := by
        simp [classify, ho, h, hb]
      simp [feed, hc, endsWith, hb, Action.of?, act, start]
    | some inner =>
      have hc : classify g .idle (trim line) =
          { kind := .blockOneLiner, delimiters := some d,
            content := d.lastContent (d.behindOpener (trim line)) } := by
        simp [classify, ho, h, hb, BlockDelimiters.lastContent]
      simp [feed, hc, endsWith, hb, Action.of?, act, start, emit, BlockDelimiters.content]

/-- An open run takes in the line comments that follow, and the line after them. -/
theorem feedAll_inRun (lines : List Text) (hn : number = last + 1) :
    (feedAll g ⟨.inRun, content, first, last, blocks⟩ number lines).finish =
      let run := (lines.map trim).takeWhile g.isLineComment
      (feedAll g
        { blocks := blocks ++
            [⟨content ++ run.map g.lineContent, first, last + run.length, false, none⟩] }
        (number + run.length + 1) (lines.drop (run.length + 1))).finish := by
  induction lines generalizing content last number with
  | nil => simp [feedAll, finish, emit]
  | cons line rest ih =>
    rw [feedAll, feed_inRun]
    by_cases hc : g.isLineComment (trim line) = true
    · have h₁ : ∀ k : Nat, number + (k : Int) = last + ↑(k + 1) := by omega
      have h₂ : ∀ k : Nat, number + 1 + (k : Int) = number + ↑(k + 1) := by omega
      rw [if_pos hc, ih _ _ _ rfl]
      simp [hc, h₁, h₂]
    · simp [hc]

/-- An open block comment takes in all lines up to the first that ends with its closer; without
one it is dropped. -/
theorem feedAll_inBlock (d : BlockDelimiters) (lines : List Text) :
    (feedAll g ⟨.inBlock d, content, first, last, blocks⟩ number lines).finish =
      match (lines.map trim).findIdx? fun line => endsWith d.closer line with
      | none => { blocks }
      | some k =>
        (feedAll g
          { blocks := blocks ++
              [⟨content ++ d.laterContent ((lines.map trim).take (k + 1)), first, number + k,
                false, none⟩] }
          (number + k + 1) (lines.drop (k + 1))).finish := by
  induction lines generalizing content last number with
  | nil => rfl
  | cons line rest ih =>
    rw [feedAll, feed_inBlock, List.map_cons, List.findIdx?_cons]
    by_cases hc : endsWith d.closer (trim line) = true
    · simp [hc]
    · rw [if_neg hc, if_neg hc, ih]
      cases hk : (rest.map trim).findIdx? fun line => endsWith d.closer line with
      | none => rfl
      | some k =>
        cases rest with
        | nil => simp at hk
        | cons next later =>
          have h₁ : number + 1 + (k : Int) = number + ↑(k + 1) := by omega
          simp [h₁, BlockDelimiters.laterContent]

variable {line : Text} (rest : List Text)

/-- From the line on which a block comment opens the machine gets behind the line on which it
closes. -/
theorem feedAll_opener {d : BlockDelimiters} (ho : g.openerOn? (trim line) = some d) :
    (feedAll g { blocks } number (line :: rest)).finish =
      match d.closesAfter? (d.behindOpener (trim line)) (rest.map trim) with
      | none => { blocks }
      | some k =>
        (feedAll g
          { blocks := blocks ++
              [⟨d.content (d.behindOpener (trim line)) ((rest.map trim).take k), number, number + k,
                false, none⟩] }
          (number + k + 1) (rest.drop k)).finish := by
  rw [feedAll, feed_idle, ho, closesAfter?_eq]
  by_cases hc : endsWith d.closer (d.behindOpener (trim line)) = true
  · simp [hc]
  · simp only [hc, Bool.false_eq_true, if_false]
    rw [feedAll_inBlock]
    cases hk : (rest.map trim).findIdx? fun line => endsWith d.closer line with
    | none => rfl
    | some k =>
      have hnumber : number + 1 + (k : Int) = number + ↑(k + 1) := by omega
      have hne : (rest.map trim).take (k + 1) ≠ [] := by
        intro h
        simp_all
      simp [BlockDelimiters.content, hne, hnumber]

/-- From the first line of a run the machine gets behind the line that ends it. -/
theorem feedAll_lineComment (ho : g.openerOn? (trim line) = none)
    (hc : g.isLineComment (trim line) = true) :
    (feedAll g { blocks } number (line :: rest)).finish =
      let run := ((line :: rest).map trim).takeWhile g.isLineComment
      (feedAll g
        { blocks := blocks ++
            [⟨run.map g.lineContent, number, number + run.length - 1, false, none⟩] }
        (number + run.length + 1) (rest.drop run.length)).finish := by
  have hrun : ((line :: rest).map trim).takeWhile g.isLineComment =
      trim line :: (rest.map trim).takeWhile g.isLineComment := List.takeWhile_cons_of_pos hc
  rw [feedAll, feed_idle, ho]
  simp only [hc, if_true]
  rw [feedAll_inRun _ _ _ _ _ _ _ rfl, hrun]
  generalize (rest.map trim).takeWhile g.isLineComment = later
  have h₁ : number + (later.length : Int) = number + ↑(later.length + 1) - 1 := by omega
  have h₂ : number + 1 + (later.length : Int) = number + ↑(later.length + 1) := by omega
  dsimp only [List.length_cons]
  rw [h₁, h₂]
  rfl

/-- An idle machine finds what the direct scanner finds. -/
theorem feedAll_idle (lines : List Text) :
    (feedAll g { blocks } number lines).finish =
      { blocks := blocks ++ directScan g number (lines.map trim) } := by
  generalize ht : lines.map trim = trimmed
  fun_induction directScan g number trimmed generalizing lines blocks with
  | case1 =>
    obtain rfl := List.map_eq_nil_iff.1 ht
    simp [feedAll, finish]
  | case2 number line rest d ho hk =>
    obtain ⟨raw, raws, rfl, rfl, rfl⟩ := List.map_eq_cons_iff.1 ht
    rw [feedAll_opener _ _ _ _ ho, hk]
    simp
  | case3 number line rest d ho k hk ih =>
    obtain ⟨raw, raws, rfl, rfl, rfl⟩ := List.map_eq_cons_iff.1 ht
    rw [feedAll_opener _ _ _ _ ho, hk]
    dsimp only
    rw [ih _ (raws.drop k) List.map_drop]
    simp
  | case4 number line rest ho hc run ih =>
    obtain ⟨raw, raws, rfl, rfl, rfl⟩ := List.map_eq_cons_iff.1 ht
    rw [feedAll_lineComment _ _ _ _ ho hc]
    dsimp only
    rw [List.map_cons, ih _ (raws.drop _) List.map_drop]
    simp [run]
  | case5 number line rest ho hc ih =>
    obtain ⟨raw, raws, rfl, rfl, rfl⟩ := List.map_eq_cons_iff.1 ht
    rw [feedAll, feed_idle, ho]
    simp [hc, ih _ _ rfl]

end Scanner

/-- **The machine finds exactly the blocks of the direct scanner.** -/
theorem scanLines_eq_directScan (g : Grammar) (lines : List Text) :
    scanLines g lines = directScan g 1 (lines.map trim) := by
  simp [scanLines, Scanner.feedAll_idle]

end LicenseAudit
