import ResourceBrowser.Text.Blank

/-!
# Filter queries

What the user types at the filter prompt. The first two characters choose between a label
selector, which the data source evaluates, a fuzzy search on names, and a pattern.
-/

namespace ResourceBrowser.Table

open Text

/-- A filter query. -/
inductive Query where
  | empty
  /-- A label selector, without blanks at the ends. -/
  | label (selector : String)
  /-- A fuzzy search, without blanks at the ends. -/
  | fuzzy (text : String)
  /-- A pattern, as typed. -/
  | pattern (text : String)
deriving DecidableEq, Repr, Inhabited

namespace Query

/-- Reads a query. -/
def read (text : String) : Query :=
  match text.toList with
  | [] => .empty
  | '-' :: 'l' :: rest => .label (.ofList (trimChars rest))
  | '-' :: 'f' :: rest => .fuzzy (.ofList (trimChars rest))
  | _ => .pattern text

/-- The name of the kind of a query. -/
def name : Query → String
  | .empty => "empty"
  | .label _ => "label"
  | .fuzzy _ => "fuzzy"
  | .pattern _ => "regex"

/-- What is searched for. -/
def text : Query → String
  | .empty => ""
  | .label s | .fuzzy s | .pattern s => s

/-- The selector of a label query. -/
def selector? : Query → Option String
  | .label s => some s
  | _ => none

/-- True for a label query. -/
def isLabel : Query → Bool
  | .label _ => true
  | _ => false

/-- True for a fuzzy query. -/
def isFuzzy : Query → Bool
  | .fuzzy _ => true
  | _ => false

/-- True when the query puts the rows into an order of its own. -/
def ranks : Query → Bool
  | .fuzzy text => text != ""
  | _ => false

end Query

end ResourceBrowser.Table
