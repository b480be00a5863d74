import LicenseAudit.Ignore.Glob
import LicenseAudit.Failure
import LicenseAudit.Text.Blank

/-!
# Ignore patterns

A pattern names files by their paths below a root. It is cut at its slashes; a segment of two
asterisks stands for any number of directories. A pattern of one segment fits at any depth, one
that starts with a slash or has several segments fits from the root on, and what fits a directory
fits all that is below it. An exclamation mark in front turns a pattern round: what it fits is
not ignored.
-/

namespace LicenseAudit

open Text

/-- What a pattern fits. -/
inductive PatternShape
  /-- Every path with a character in it other than a line feed. -/
  | everything
  /-- Every path with a slash in it. -/
  | nested
  | glob (g : Glob)
  deriving DecidableEq, Repr

/-- An ignore pattern. -/
structure IgnorePattern where
  /-- Whether what it fits is kept. -/
  keeps : Bool
  shape : PatternShape
  deriving DecidableEq, Repr

/-- Whether a path has the shape. -/
def PatternShape.fits : PatternShape → Text → Bool
  | .everything, s => s.any onLine
  | .nested, s => s.contains '/'
  | .glob g, s => g.fits s

/-- A path as patterns see it, without a slash or a dot and a slash in front. -/
def patternPath : Text → Text
  | '/' :: s => s
  | '.' :: '/' :: s => s
  | s => s

/-- Whether a pattern fits a path. -/
def IgnorePattern.fits (p : IgnorePattern) (path : Text) : Bool := p.shape.fits (patternPath path)

/-! ## Reading -/

/-- The segment that stands for any number of directories. -/
def anyDepth : Text := ['*', '*']

/-- The segments counted from the root: without the empty one that a slash in front leaves, and
with any depth before a single segment. -/
def anchorSegments : List Text → List Text
  | [] :: rest => rest
  | [a] => if a = anyDepth then [a] else [anyDepth, a]
  | [a, []] => if a = anyDepth then [a, []] else [anyDepth, a, []]
  | segments => segments

/-- The segments with any depth for the empty one that a slash at the end leaves. -/
def openEnd : List Text → List Text
  | [] => []
  | [a] => if a = [] then [anyDepth] else [a]
  | a :: b :: rest => a :: openEnd (b :: rest)

/-- The segments with every run of two asterisks reduced to one. -/
def collapseDepth : List Text → List Text
  | a :: b :: rest =>
    if a = anyDepth ∧ b = anyDepth then collapseDepth (b :: rest)
    else a :: collapseDepth (b :: rest)
  | rest => rest

/-- The slash before a segment. -/
def slashPiece : Bool → List Piece
  | true => [.one (.only '/')]
  | false => []

/-- The pieces of one segment that is not any depth. -/
def namePieces (s : Text) : Except SegmentFault (List Piece) :=
  if s = ['*'] then .ok [.name] else segmentPieces s

/-- The glob of the segments after the first one. `slash` says whether the next one has a slash
before it. -/
def laterGlob (slash : Bool) : List Text → Except SegmentFault Glob
  | [] => .ok ⟨[], .slashOrEnd⟩
  | [s] =>
    if s = anyDepth then .ok ⟨[], .slash⟩
    else do return ⟨slashPiece slash ++ (← namePieces s), .slashOrEnd⟩
  | s :: rest => do
    if s = anyDepth then
      let g ← laterGlob true rest
      return ⟨.deeper :: g.pieces, g.ending⟩
    else
      let pieces ← namePieces s
      let g ← laterGlob true rest
      return ⟨slashPiece slash ++ pieces ++ g.pieces, g.ending⟩

/-- The glob of segments that are counted from the root. -/
def anchoredGlob : List Text → Except SegmentFault Glob
  | s :: t :: rest =>
    if s = anyDepth then do
      let g ← laterGlob false (t :: rest)
      return ⟨.toSlash :: g.pieces, g.ending⟩
    else laterGlob false (s :: t :: rest)
  | segments => laterGlob false segments

/-- The shape of segments; without any there is none. `isDirectory` says whether the pattern ends
in a slash, so that any depth alone leaves out what is directly in the root. -/
def shapeOf? (isDirectory : Bool) (segments : List Text) :
    Except SegmentFault (Option PatternShape) :=
  let segments := collapseDepth (openEnd (anchorSegments segments))
  if segments = [] then .ok none
  else if segments = [anyDepth] then .ok (some (if isDirectory then .nested else .everything))
  else if segments = [anyDepth, ['*']] then .ok (some .everything)
  else if segments = [anyDepth, ['*'], anyDepth] then .ok (some .nested)
  else (anchoredGlob segments).map fun g => some (.glob g)

/-- The first backward range of a shape. -/
def PatternShape.rangeFault? : PatternShape → Option RangeFault
  | .glob g => g.rangeFault?
  | _ => none

/-- Reads a pattern. Blank lines, comments, a single slash and unclosed brackets give none. -/
def IgnorePattern.ofText? (s : Text) : Except Failure (Option IgnorePattern) :=
  let line := trimRight s
  if line.isEmpty ∨ startsWith ['#'] line ∨ line = ['/'] then .ok none
  else
    let (keeps, body) :=
      match line with
      | '!' :: body => (true, body)
      | body => (false, body)
    let segments := splitOnChar '/' body
    match shapeOf? (segments.getLast? == some []) segments with
    | .ok (some shape) =>
      match shape.rangeFault? with
      | some fault => .error (.badRange fault)
      | none => .ok (some ⟨keeps, shape⟩)
    | .ok none | .error .danglingEscape => .error (.badPattern s)
    | .error .openBracket => .ok none

/-! ## Lists of patterns -/

/-- Reads patterns in order. -/
def readPatterns : List Text → Except Failure (List IgnorePattern)
  | [] => .ok []
  | s :: rest => do
    let p ← IgnorePattern.ofText? s
    return p.toList ++ (← readPatterns rest)

/-- Whether a list of patterns ignores a path: the last pattern that fits decides. -/
def ignores (patterns : List IgnorePattern) (path : Text) : Bool :=
  match patterns.reverse.find? (·.fits path) with
  | some p => !p.keeps
  | none => false

/-- The patterns that values list: each value may hold several, separated by semicolons. -/
def splitExcludes (values : List Text) : List Text :=
  (values.flatMap fun v => (splitOnChar ';' v).map trim).filter fun s => !s.isEmpty

end LicenseAudit
