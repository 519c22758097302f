import ResourceBrowser.Fuzzy.Anchor
import ResourceBrowser.Table.Engine
import ResourceBrowser.Table.Query
import ResourceBrowser.Table.Row

/-!
# Filtered snapshots

A filter keeps some rows of a snapshot, under the same header and scope. Patterns keep the rows in
order; a fuzzy search puts the best match first and keeps the order among equally good ones.
-/

namespace ResourceBrowser.Table

open Text

/-- A query that is not a valid pattern, and what the engine says about it. -/
structure InvalidExpression where
  query : String
  message : String
deriving DecidableEq, Repr, Inhabited

/-- What is said of an invalid query whatever is wrong with it. -/
def InvalidExpression.heading (e : InvalidExpression) : String :=
  "invalid filter expression " ++ quote e.query

/-- The text shown for an invalid query. -/
def InvalidExpression.text (e : InvalidExpression) : String := e.heading ++ ": " ++ e.message

namespace RowEvent

/-- True when the field at `i` says why the resource is unhealthy. -/
def isFlagged (i : Nat) (e : RowEvent) : Bool := (e.row.fields[i]?.map (· != "")).getD false

/-- The text that patterns are matched against. -/
def searchText (e : RowEvent) : String := " ".intercalate e.row.fields

/-- How well the field at `i` matches a fuzzy search, if it does, where `score?` values matches. -/
def rankBy? (score? : String → String → Option Nat) (text : String) (i : Nat) (e : RowEvent) :
    Option Nat := do
  let value ← e.row.fields[i]?
  if Fuzzy.isAnchored text value then score? text value else none

/-- How well the field at `i` matches a fuzzy search, if it does. -/
def rank? [Engine] (text : String) (i : Nat) (e : RowEvent) : Option Nat :=
  e.rankBy? Engine.score? text i

end RowEvent

namespace Snapshot

/-- The same table with other rows. -/
def withRows (s : Snapshot) (rows : List RowEvent) : Snapshot := { s with rows }

/-- The unhealthy rows; every row when no column tells. -/
def faults (s : Snapshot) : Snapshot :=
  match s.header.validIndex? with
  | none => s
  | some i => s.withRows (s.rows.filter (·.isFlagged i))

/-- The rows that match a pattern. -/
def matching [Engine] (s : Snapshot) (pattern : String) : Except InvalidExpression Snapshot :=
  match Engine.compile pattern with
  | .error message => .error ⟨pattern, message⟩
  | .ok isMatch => .ok (s.withRows (s.rows.filter fun e => isMatch e.searchText))

/-- The rows whose field at `i` matches a fuzzy search, the best match first, with matches valued
by `score?`. -/
def rankedBy (score? : String → String → Option Nat) (s : Snapshot) (text : String) (i : Nat) :
    Snapshot :=
  if text == "" then s
  else
    let scored := s.rows.filterMap fun e => (e.rankBy? score? text i).map fun score => (score, e)
    s.withRows ((scored.mergeSort fun a b => decide (b.1 ≤ a.1)).map (·.2))

/-- The rows whose field at `i` matches a fuzzy search, the best match first. -/
def ranked [Engine] (s : Snapshot) (text : String) (i : Nat) : Snapshot :=
  s.rankedBy Engine.score? text i

/-- The rows that a query keeps. Label selectors are left to the data source. -/
def filter [Engine] (s : Snapshot) (query : String) : Except InvalidExpression Snapshot :=
  match Query.read query with
  | .empty | .label _ => .ok s
  | .fuzzy text => .ok (s.ranked text s.header.nameIndex)
  | .pattern text => s.matching text

end Snapshot

end ResourceBrowser.Table
