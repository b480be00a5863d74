import LicenseAudit.Text.Basic

/-!
# Faults of a settings file

Why a text is no document. Most faults are not told apart; a conflict names the key that is taken,
and an unexpected character is remembered with the text from it on, because a list may end there
all the same.
-/

namespace LicenseAudit

open Text

namespace Toml

/-- Why a key cannot be added to a table. -/
inductive Conflict
  /-- It stands for something else already. -/
  | taken (key : Text)
  /-- It stands for a table that is defined already. -/
  | redefined
  deriving DecidableEq, Repr

/-- The conflict in words. -/
def Conflict.message : Conflict → Text
  | .taken key => "Key \"" ++ key ++ "\" already exists."
  | .redefined => "Redefinition of an existing table"

/-- Why a text cannot be read. -/
inductive Fault
  | malformed
  /-- The first character of a text cannot stand where it stands. -/
  | unexpected (rest : Text)
  | conflict (c : Conflict)
  deriving DecidableEq, Repr

/-- What is read off the start of a text, and the rest. -/
abbrev WithRest (α : Type) := α × Text

/-- A reading with its result changed. -/
def mapResult {α β : Type} (f : α → β) (r : Except Fault (WithRest α)) :
    Except Fault (WithRest β) := r.map (Prod.map f id)

/-- The result, or the fault of a malformed text. -/
def orMalformed {α : Type} : Option α → Except Fault α
  | some a => .ok a
  | none => .error .malformed

/-! ## Characters -/

/-- Whether a character stands for itself in strings and comments. -/
def isPlain (c : Char) : Bool := c == '\t' || (0x20 ≤ c.toNat && c.toNat != 0x7F)

/-- Whether a character separates tokens on a line. -/
def isGap (c : Char) : Bool := c == ' ' || c == '\t'

/-- The text without the gap in front. -/
def skipGap (s : Text) : Text := s.dropWhile isGap

end Toml

end LicenseAudit
