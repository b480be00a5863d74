import LicenseAudit.Text.Basic

/-!
# Terminal styles

A style is a list of layers, each with the code that switches it on and the code that switches it
off. `Style.paint` shows a text in a style: the style is left before every line break and every
stretch that is reset, and taken up again after it, and a text that switches one of the layers
off gets it switched on again. `stripStyles` takes the codes out of a text.
-/

namespace LicenseAudit

open Text

/-- The sequence that a code stands in. -/
def escapeCode (code : Nat) : Text := '\x1b' :: '[' :: ofInt code ++ ['m']

/-- A layer of a style. -/
structure StyleLayer where
  onCode : Nat
  offCode : Nat
  deriving DecidableEq, Repr

/-- A style, the outermost layer first. -/
abbrev Style := List StyleLayer

namespace Style

def red : Style := [⟨31, 39⟩]
def green : Style := [⟨32, 39⟩]
def yellow : Style := [⟨33, 39⟩]
def blue : Style := [⟨34, 39⟩]
def gray : Style := [⟨90, 39⟩]
def brightRed : Style := [⟨91, 39⟩]
def dimRed : Style := [⟨2, 22⟩, ⟨31, 39⟩]

/-- The codes that switch the style on. -/
def opening (style : Style) : Text := style.flatMap fun layer => escapeCode layer.onCode

/-- The codes that switch the style off. -/
def closing (style : Style) : Text := style.flatMap fun layer => escapeCode layer.offCode

/-- The text with every layer switched on again where it is switched off. -/
def reopen (style : Style) (s : Text) : Text :=
  style.foldl (fun s layer =>
    replaceAll (escapeCode layer.offCode) (escapeCode layer.offCode ++ escapeCode layer.onCode) s) s

/-- Stretches between two resets, which keep no style: the pieces around resets, taken by twos. -/
def aroundResets (style : Style) : List Text → Text
  | piece :: inner :: rest =>
    match rest with
    | [] => piece ++ escapeCode 0 ++ inner
    | _ =>
      piece ++ style.closing ++ escapeCode 0 ++ inner ++ escapeCode 0 ++ style.opening ++
        aroundResets style rest
  | [piece] => piece
  | [] => []

/-- The text with the style left at every line break. -/
def aroundBreaks (style : Style) : Text → Text
  | '\r' :: '\n' :: s => style.closing ++ '\r' :: '\n' :: style.opening ++ aroundBreaks style s
  | '\n' :: s => style.closing ++ '\n' :: style.opening ++ aroundBreaks style s
  | c :: s => c :: aroundBreaks style s
  | [] => []

/-- A text with the style left in its reset stretches, none of which goes past its line. -/
def leaveResets (style : Style) (s : Text) : Text :=
  joinWith ['\n'] ((splitOnChar '\n' s).map fun line =>
    style.aroundResets (splitOn (escapeCode 0) line))

/-- A text shown in a style. -/
def paint (style : Style) (s : Text) : Text :=
  style.opening ++ style.aroundBreaks (style.leaveResets (style.reopen s)) ++ style.closing

end Style

/-- A text with codes before it and all of them reset after it. -/
def emphasize (codes : List Nat) (s : Text) : Text :=
  codes.flatMap escapeCode ++ s ++ escapeCode 0

/-! ## Taking codes out -/

/-- Whether a character may stand between the bracket and the letter of a code. -/
def isCodeChar (c : Char) : Bool := c == ';' || c == '?' || ('0' ≤ c && c ≤ '9')

/-- The text after the code that it starts with. -/
def afterCode? : Text → Option Text
  | '\x1b' :: '[' :: s =>
    match s.dropWhile isCodeChar with
    | c :: rest => if c.isAlpha then some rest else none
    | [] => none
  | _ => none

theorem length_afterCode? {s r : Text} (h : afterCode? s = some r) : r.length < s.length := by
  unfold afterCode? at h
  split at h
  · next t =>
    split at h
    · next c rest hd =>
      split at h
      · have h1 : (t.dropWhile isCodeChar).length ≤ t.length :=
          (List.dropWhile_suffix isCodeChar).length_le
        rw [hd] at h1
        simp only [Option.some.injEq] at h
        subst h
        simp only [List.length_cons] at h1 ⊢
        omega
      · simp at h
    · simp at h
  · simp at h

/-- The text without codes. -/
def stripStyles : Text → Text
  | [] => []
  | c :: s =>
    match _h : afterCode? (c :: s) with
    | some rest => stripStyles rest
    | none => c :: stripStyles s
termination_by s => s.length
decreasing_by
  · exact length_afterCode? _h
  · exact Nat.lt_succ_self _

end LicenseAudit
