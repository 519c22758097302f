import ResourceBrowser.Pattern.Expr

/-!
# Matching

Whether an expression matches somewhere in a text. A set of positions in the text is a number
whose bit `i` stands for the position before the character `i`. An expression maps the positions
where a match may start to the positions where one may end, so alternatives are a union and a
repetition is an iteration that stops when nothing new is reached.
-/

namespace ResourceBrowser.Pattern

open Text

/-- The number whose bits are the given answers, the first one lowest. -/
def bitsOf (answers : List Bool) : Nat :=
  answers.foldr (fun b n => 2 * n + (if b then 1 else 0)) 0

/-- The positions of a text, each with the characters before and after it. -/
def positions (before : Option Char) : List Char → List (Option Char × Option Char)
  | [] => [(before, none)]
  | c :: cs => (before, some c) :: positions (some c) cs

/-- A word character; beyond the first 128 only with Unicode on. -/
def isWordChar (unicode : Bool) (c : Option Char) : Bool :=
  match c with
  | some c => if unicode then isWord c else c.isAlphanum || c == '_'
  | none => false

/-- Whether a position passes a test. -/
def Look.holds (before after : Option Char) : Look → Bool
  | .start => before.isNone
  | .finish => after.isNone
  | .lineStart => before.isNone || before == some '\n'
  | .lineEnd => after.isNone || after == some '\n'
  | .lineStartCRLF =>
    before.isNone || before == some '\n' || (before == some '\r' && after != some '\n')
  | .lineEndCRLF =>
    after.isNone || after == some '\r' || (after == some '\n' && before != some '\r')
  | .edge u => isWordChar u before != isWordChar u after
  | .notEdge u => isWordChar u before == isWordChar u after
  | .wordStart u => !isWordChar u before && isWordChar u after
  | .wordEnd u => isWordChar u before && !isWordChar u after
  | .wordStartHalf u => !isWordChar u before
  | .wordEndHalf u => !isWordChar u after

/-- Applies `step` the given number of times, or until nothing changes. -/
def iterate (step : Nat → Nat) : Nat → Nat → Nat
  | 0, at_ => at_
  | n + 1, at_ =>
    let next := step at_
    if next = at_ then at_ else iterate step n next

/-- The positions reached by at most the given number of steps. -/
def spread (step : Nat → Nat) : Nat → Nat → Nat
  | 0, reached => reached
  | n + 1, reached =>
    let next := reached ||| step reached
    if next = reached then reached else spread step n next

/-- The ends of matches that start at the positions `at_`. A test is the set of the characters
that pass it, `look` gives the positions that pass a look, and `bound` is at least the number of
positions. -/
def Expr.ends (look : Look → Nat) (bound : Nat) : Expr Nat → Nat → Nat
  | .empty, at_ => at_
  | .one test, at_ => (at_ &&& test) <<< 1
  | .look kind, at_ => at_ &&& look kind
  | .seq a b, at_ => b.ends look bound (a.ends look bound at_)
  | .alt a b, at_ => a.ends look bound at_ ||| b.ends look bound at_
  | .many min max a, at_ =>
    spread (a.ends look bound) ((max.map (· - min)).getD bound)
      (iterate (a.ends look bound) min at_)
  | .capture a, at_ => a.ends look bound at_

/-- True when the expression matches some part of the text. -/
def Expr.occursIn (e : Expr CodeSet) (text : List Char) : Bool :=
  let places := positions none text
  let look (kind : Look) := bitsOf (places.map fun p => kind.holds p.1 p.2)
  let tests := e.map fun s => bitsOf (text.map s.contains)
  let bound := places.length
  tests.ends look bound ((1 <<< bound) - 1) != 0

end ResourceBrowser.Pattern
