import LicenseAudit.Ignore.CharSet

/-!
# Globs

A glob is a list of pieces and an ending. A piece takes a beginning off a text: `Piece.rests` lists
what may be left when it has done so; since every rest is an end of the text, a glob is followed by
keeping the rests that are possible so far. The ending says what the last rest has to be.

`Glob.expression` writes a glob as a regular expression, and `Glob.rangeFault?` finds a range of
characters that runs backwards, with its place in that expression.
-/

namespace LicenseAudit

open Text

/-- A piece of a glob. -/
inductive Piece
  /-- One character of a set. -/
  | one (set : CharSet)
  /-- Any run of characters without a slash. -/
  | stretch
  /-- A run of at least one character without a slash. -/
  | name
  /-- Nothing, or anything up to a slash that is not the first character. -/
  | toSlash
  /-- Nothing, or a slash and something. -/
  | deeper
  deriving DecidableEq, Repr

/-- What comes after the pieces of a glob. -/
inductive GlobEnding
  /-- A slash. -/
  | slash
  /-- A slash, or nothing more than a line feed. -/
  | slashOrEnd
  deriving DecidableEq, Repr

/-- Whether a character is on the line, which runs of directories stay on. -/
def onLine (c : Char) : Bool := c != '\n'

/-- All ends of a text that are left when characters accepted by a test are taken off. -/
def endsWhile (p : Char → Bool) : Text → List Text
  | [] => [[]]
  | c :: s => (c :: s) :: if p c then endsWhile p s else []

/-- What follows a first run of characters accepted by a test, which is not empty. -/
def endsAfterSome (p : Char → Bool) : Text → List Text
  | [] => []
  | c :: s => if p c then endsWhile p s else []

/-- The text after a slash that it starts with. -/
def afterSlash? : Text → Option Text
  | '/' :: s => some s
  | _ => none

/-- What may be left of a text when a piece has taken its part. -/
def Piece.rests : Piece → Text → List Text
  | .one set, c :: s => if set.has c then [s] else []
  | .one _, [] => []
  | .stretch, s => endsWhile (· != '/') s
  | .name, s => endsAfterSome (· != '/') s
  | .toSlash, s => s :: (endsAfterSome onLine s).filterMap afterSlash?
  | .deeper, s =>
    s :: match afterSlash? s with
      | some r => endsAfterSome onLine r
      | none => []

/-- Whether a text is what may come after the pieces. -/
def GlobEnding.fits : GlobEnding → Text → Bool
  | .slash, s => startsWith ['/'] s
  | .slashOrEnd, s => startsWith ['/'] s || s.isEmpty || s == ['\n']

/-- Some pieces and what comes after them. -/
structure Glob where
  pieces : List Piece
  ending : GlobEnding
  deriving DecidableEq, Repr

/-- Ends of one text, each of them once: two of the same length are the same. -/
def distinctEnds (ends : List Text) : List Text :=
  ((ends.map fun s => (s.length, s)).eraseDupsBy fun a b => a.1 == b.1).map (·.2)

/-- What may be left when pieces have taken their parts of one of some texts, which are ends of
one text. -/
def restsOf (pieces : List Piece) (starts : List Text) : List Text :=
  pieces.foldl (fun ends piece => distinctEnds (ends.flatMap piece.rests)) starts

/-- Whether a glob takes a text. -/
def Glob.fits (g : Glob) (s : Text) : Bool := (restsOf g.pieces [s]).any g.ending.fits

/-! ## Globs as regular expressions -/

/-- A piece as a regular expression. -/
def Piece.expression : Piece → Text
  | .one set => set.expression
  | .stretch => "[^/]*".toList
  | .name => "[^/]+".toList
  | .toSlash => "(?:.+/)?".toList
  | .deeper => "(?:/.+)?".toList

/-- An ending as a regular expression. -/
def GlobEnding.expression : GlobEnding → Text
  | .slash => ['/']
  | .slashOrEnd => "(?:/|$)".toList

/-- A glob as a regular expression, which is tied to the start of the text. -/
def Glob.expression (g : Glob) : Text :=
  '^' :: g.pieces.flatMap Piece.expression ++ g.ending.expression

/-- A backward range and the expression that it stands in. -/
structure RangeFault where
  range : CharSet.BackwardRange
  /-- Where in the expression the set with the range starts. -/
  start : Nat
  expression : Text
  deriving DecidableEq, Repr

/-- Where in the expression the range starts. -/
def RangeFault.position (f : RangeFault) : Nat := f.start + f.range.offset

/-- The line and the column of a position, both counted from one. -/
def lineAndColumn (s : Text) (position : Nat) : Nat × Nat :=
  let before := s.take position
  (before.count '\n' + 1, (before.reverse.takeWhile onLine).length + 1)

/-- The message about a backward range. The line and the column are told if there are several
lines. -/
def RangeFault.message (f : RangeFault) : Text :=
  let place := lineAndColumn f.expression f.position
  "bad character range " ++ CharSet.bracketChar f.range.low ++ "-" ++
    CharSet.bracketChar f.range.high ++ " at position " ++ ofInt f.position ++
    if f.expression.contains '\n' then
      " (line " ++ ofInt place.1 ++ ", column " ++ ofInt place.2 ++ ")"
    else ""

/-- The first backward range of a piece. -/
def Piece.backwardRange? : Piece → Option CharSet.BackwardRange
  | .one set => set.backwardRange?
  | _ => none

/-- The first backward range of some pieces, with where its set starts; `start` is where the
first piece does. -/
def firstBackward? (start : Nat) : List Piece → Option (CharSet.BackwardRange × Nat)
  | [] => none
  | piece :: rest =>
    match piece.backwardRange? with
    | some r => some (r, start)
    | none => firstBackward? (start + piece.expression.length) rest

/-- The first backward range of a glob. -/
def Glob.rangeFault? (g : Glob) : Option RangeFault :=
  (firstBackward? 1 g.pieces).map fun (r, start) => ⟨r, start, g.expression⟩

/-! ## Reading segments -/

/-- Why a segment is no glob. -/
inductive SegmentFault
  /-- A bracket is not closed. -/
  | openBracket
  /-- Nothing follows a backslash. -/
  | danglingEscape
  deriving DecidableEq, Repr

/-- The content of brackets up to the closing one, which may not come first, and the rest. -/
def closeBracket? : Text → Option (Text × Text)
  | [] => none
  | c :: s =>
    match s.dropWhile (· != ']') with
    | _ :: rest => some (c :: s.takeWhile (· != ']'), rest)
    | [] => none

theorem length_closeBracket? {s content rest : Text}
    (h : closeBracket? s = some (content, rest)) : rest.length < s.length := by
  cases s with
  | nil => simp [closeBracket?] at h
  | cons c s =>
    rw [closeBracket?] at h
    split at h
    · next d r hd =>
      simp only [Option.some.injEq, Prod.mk.injEq] at h
      have hle : (s.dropWhile (· != ']')).length ≤ s.length :=
        (List.dropWhile_suffix (· != ']')).length_le
      rw [hd] at hle
      obtain ⟨-, rfl⟩ := h
      simp only [List.length_cons] at hle ⊢
      omega
    · simp at h

/-- Reads brackets after the opening one: the set and the rest. -/
def bracket? (s : Text) : Option (CharSet × Text) :=
  match s with
  | '!' :: r | '^' :: r =>
    (closeBracket? r).map fun (content, rest) => (.brackets true content, rest)
  | s => (closeBracket? s).map fun (content, rest) => (.brackets false content, rest)

theorem length_bracket? {s rest : Text} {set : CharSet} (h : bracket? s = some (set, rest)) :
    rest.length < s.length := by
  unfold bracket? at h
  split at h
  all_goals
    obtain ⟨⟨content, r⟩, hc, he⟩ := Option.map_eq_some_iff.1 h
    have hlt := length_closeBracket? hc
    simp only [Prod.mk.injEq] at he
    obtain ⟨-, rfl⟩ := he
    simp only [List.length_cons] at *
    omega

/-- Reads what stands between two slashes: `*` for any run of characters, `?` for one, brackets
for one of a set, and a backslash that makes the character after it stand for itself. -/
def segmentPieces : Text → Except SegmentFault (List Piece)
  | [] => .ok []
  | '*' :: s => (segmentPieces s).map (.stretch :: ·)
  | '?' :: s => (segmentPieces s).map (.one .inName :: ·)
  | '[' :: s =>
    match h : bracket? s with
    | some (set, rest) =>
      have : rest.length < s.length + 1 := Nat.lt_succ_of_lt (length_bracket? h)
      (segmentPieces rest).map (.one set :: ·)
    | none => .error .openBracket
  | '\\' :: c :: s => (segmentPieces s).map (.one (.only c) :: ·)
  | ['\\'] => .error .danglingEscape
  | c :: s => (segmentPieces s).map (.one (.only c) :: ·)
termination_by s => s.length

end LicenseAudit
