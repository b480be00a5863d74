import LicenseAudit.Text.Basic

/-!
# Similar words

Which of the known words a mistyped one may have meant. Two words are compared by the characters
that they share in order: those of the longest common run, and on either side of it those of what
is left there.
-/

namespace LicenseAudit

open Text

/-- How many characters two texts start with in common. -/
def commonStart : Text → Text → Nat
  | a :: s, b :: t => if a = b then commonStart s t + 1 else 0
  | _, _ => 0

/-- A run that two texts have in common: where it starts in each, and its length. -/
structure CommonRun where
  left : Nat := 0
  right : Nat := 0
  length : Nat := 0
  deriving DecidableEq, Repr

/-- The longest common run; of several the one that starts first. -/
def longestRun (s t : Text) : CommonRun :=
  let starts := (List.range s.length).flatMap fun i => (List.range t.length).map fun j => (i, j)
  starts.foldl (fun best (i, j) =>
    let n := commonStart (s.drop i) (t.drop j)
    if n > best.length then ⟨i, j, n⟩ else best) {}

/-- How many characters two texts share in order, looking at most `fuel` runs deep. -/
def sharedDeep : Nat → Text → Text → Nat
  | 0, _, _ => 0
  | fuel + 1, s, t =>
    let run := longestRun s t
    if run.length = 0 then 0
    else
      run.length + sharedDeep fuel (s.take run.left) (t.take run.right) +
        sharedDeep fuel (s.drop (run.left + run.length)) (t.drop (run.right + run.length))

/-- How many characters two texts share in order. -/
def shared (s t : Text) : Nat := sharedDeep s.length s t

/-- Whether two texts share six tenths of their characters. -/
def isSimilar (s t : Text) : Bool := 6 * (s.length + t.length) ≤ 20 * shared s t

/-- Whether a candidate is nearer to a word than another one, or as near and later in order. -/
def isNearer (word a b : Text) : Bool :=
  let left := shared a word * (b.length + word.length)
  let right := shared b word * (a.length + word.length)
  left > right || (left == right && precedes b a)

/-- A candidate put among candidates, the nearest first. -/
def insertNearest (word a : Text) : List Text → List Text
  | [] => [a]
  | b :: rest => if isNearer word a b then a :: b :: rest else b :: insertNearest word a rest

/-- The three candidates at most that are nearest to a word among the similar ones. -/
def similarWords (candidates : List Text) (word : Text) : List Text :=
  ((candidates.filter (isSimilar · word)).foldr (insertNearest word) []).take 3

end LicenseAudit
