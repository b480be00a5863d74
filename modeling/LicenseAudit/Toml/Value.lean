import LicenseAudit.Toml.Body
import LicenseAudit.Toml.Key
import LicenseAudit.Toml.Scalar

/-!
# Values of a settings file

A value is a string, a truth value, a number, a point in time, a list, or an inline table. Lists
and inline tables may run over several lines with comments between, and lie in one another up to
a greatest depth, by which reading goes down.
-/

namespace LicenseAudit

open Text

namespace Toml

/-- The text after a comment up to the end of its line; a comment holds plain characters only. -/
def skipComment (s : Text) : Except Fault Text :=
  match s with
  | '#' :: s =>
    match s.dropWhile isPlain with
    | '\n' :: rest => .ok ('\n' :: rest)
    | [] => .ok []
    | _ => .error .malformed
  | s => .ok s

/-- The text after all gaps, line ends and comments. `inComment` says whether it starts inside a
comment. -/
def skipFrom (inComment : Bool) : Text → Except Fault Text
  | [] => .ok []
  | c :: s =>
    if c = '\n' then skipFrom false s
    else if inComment then if isPlain c then skipFrom true s else .error .malformed
    else if isGap c then skipFrom false s
    else if c = '#' then skipFrom true s
    else .ok (c :: s)

/-- The text after all gaps, line ends and comments. -/
def skipSpace (s : Text) : Except Fault Text := skipFrom false s

/-- The items of a list and its closing bracket, at most so many. An item that is cut short by the
closing bracket does not count. A comma may follow the last item. -/
def items (item : Text → Except Fault (WithRest Value)) :
    Nat → Text → Except Fault (WithRest (List Value))
  | 0, _ => .error .malformed
  | count + 1, s => do
    match ← skipSpace s with
    | ']' :: rest => return ([], rest)
    | s =>
      match item s with
      | .ok (v, rest) =>
        match ← skipSpace rest with
        | ',' :: rest => mapResult (v :: ·) (items item count rest)
        | ']' :: rest => return ([v], rest)
        | rest => .error (.unexpected rest)
      | .error (.unexpected (']' :: rest)) => return ([], rest)
      | .error f => .error f

/-- The entries with a pair added. `add` says how an entry is added. -/
def addPair (add : Body → Text × Entry → Except Fault Body) (b : Body) (path : List Text)
    (v : Value) : Except Fault Body := do
  add b (← orMalformed (keyedPair? v path))

/-- The entries of an inline table with one more. -/
def addInline (b : Body) (e : Text × Entry) : Except Fault Body := (b.add e).mapError .conflict

/-- The pairs of an inline table and its closing brace, at most so many, added to the ones before
them. A comma may follow the last pair. -/
def pairs (item : Text → Except Fault (WithRest Value)) :
    Nat → Body → Text → Except Fault (WithRest Body)
  | 0, _, _ => .error .malformed
  | count + 1, b, s => do
    match ← skipSpace s with
    | '}' :: rest => return (b, rest)
    | ',' :: rest => .error (.unexpected (',' :: rest))
    | s =>
      let (path, rest) ← keyOfPair s
      let (v, rest) ← item rest
      let b ← addPair addInline b path v
      match ← skipSpace rest with
      | ',' :: rest => pairs item count b rest
      | '}' :: rest => return (b, rest)
      | rest => .error (.unexpected rest)

/-- How deep lists and inline tables may lie in one another. -/
def nestingLimit : Nat := 100

/-- A value, in which lists and inline tables lie in one another up to a depth. -/
def valueWithin (depth : Nat) (s : Text) : Except Fault (WithRest Value) :=
  match s, depth with
  | '"' :: _, _ => mapResult (fun t => .text t.1) (quotation '"' s)
  | '\'' :: _, _ => mapResult (fun t => .text t.1) (quotation '\'' s)
  | 't' :: 'r' :: 'u' :: 'e' :: rest, _ => .ok (.truth true, rest)
  | 'f' :: 'a' :: 'l' :: 's' :: 'e' :: rest, _ => .ok (.truth false, rest)
  | '[' :: _, 0 | '{' :: _, 0 => .error .malformed
  | '[' :: rest, depth + 1 => mapResult .list (items (valueWithin depth) (rest.length + 1) rest)
  | '{' :: rest, depth + 1 => do
    let (b, rest) ← pairs (valueWithin depth) (rest.length + 1) [] rest
    return (.table (← b.toTable.mapError .conflict), rest)
  | s, _ => scalar s

/-- A value. -/
def value (s : Text) : Except Fault (WithRest Value) := valueWithin nestingLimit s

end Toml

end LicenseAudit
