import LicenseAudit.Text.Basic

/-!
# Lines

Three ways to see lines in a text. `splitLines` cuts at each line feed, together with the one
carriage return that may stand before it; a carriage return elsewhere stays in its line.
`unifyNewlines` turns the two other spellings of a line end, CR LF and a lone CR, into a line
feed. `splitAtBreaks` cuts at every line boundary that Unicode names, and a boundary at the very
end opens no further line.
-/

namespace LicenseAudit.Text

/-- The lines of a text: cut at each line feed and at the carriage return just before it. -/
def splitLines : Text → List Text
  | [] => [[]]
  | '\n' :: s => [] :: splitLines s
  | '\r' :: '\n' :: s => [] :: splitLines s
  | c :: s => (splitLines s).modifyHead (c :: ·)

theorem splitLines_ne_nil (s : Text) : splitLines s ≠ [] := by
  fun_induction splitLines s with
  | case1 => simp
  | case2 => simp
  | case3 => simp
  | case4 _ _ _ _ ih => exact modifyHead_ne_nil _ ih

/-- Every line end written as a line feed. -/
def unifyNewlines : Text → Text
  | [] => []
  | '\r' :: '\n' :: s => '\n' :: unifyNewlines s
  | '\r' :: s => '\n' :: unifyNewlines s
  | c :: s => c :: unifyNewlines s

/-- The line boundaries of Unicode, the four information separators but the last among them. -/
def isBreak (c : Char) : Bool :=
  let n := c.toNat
  (10 ≤ n && n ≤ 13) || (28 ≤ n && n ≤ 30) || n == 0x85 || n == 0x2028 || n == 0x2029

/-- The lines between the boundaries; a carriage return and a line feed after it are one
boundary, and nothing follows a boundary at the end. -/
def splitAtBreaks : Text → List Text
  | [] => []
  | '\r' :: '\n' :: s => [] :: splitAtBreaks s
  | c :: s =>
    if isBreak c then [] :: splitAtBreaks s
    else match splitAtBreaks s with
      | [] => [[c]]
      | line :: rest => (c :: line) :: rest

end LicenseAudit.Text
