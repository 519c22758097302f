import ResourceBrowser.Text.Quoted

/-!
# Table headers

A header is the list of the column descriptions of a table, in the order of a row's fields.
Columns are found by name; a column marked `wide` is only shown, and only found, when wide
columns are asked for.
-/

namespace ResourceBrowser.Table

open Text

/-- Horizontal alignment of a column. -/
inductive Align where
  | left
  | right
  | center
deriving DecidableEq, Repr, Inhabited

/-- The name of an alignment. -/
def Align.name : Align → String
  | .left => "left"
  | .right => "right"
  | .center => "center"

/-- The alignment with a name; every other name stands for the left. -/
def Align.ofName (name : String) : Align :=
  if name == "right" then .right else if name == "center" then .center else .left

/-- A column of a table. -/
structure Column where
  name : String
  /-- Only shown in wide mode. -/
  wide : Bool := false
  /-- Holds an age: sorted by duration, and its changes are not reported. -/
  time : Bool := false
  /-- Only meaningful when metrics are available. -/
  metric : Bool := false
  align : Align := .left
  /-- How a raw field is written for display. -/
  decorator : Option (String → String) := none

/-- The columns of a table, in the order of the fields of its rows. -/
abbrev Header := List Column

/-- Name of the namespace column. -/
def namespaceColumn : String := "NAMESPACE"

/-- Name of the column that holds the resource name. -/
def nameColumn : String := "NAME"

/-- Name of the column that says why a resource is unhealthy. -/
def validColumn : String := "VALID"

/-- Name of the age column. -/
def ageColumn : String := "AGE"

namespace Column

/-- The display form of a raw value. -/
def decorate (c : Column) (value : String) : String :=
  match c.decorator with
  | some f => f value
  | none => value

/-- True when two columns agree on everything but the decorator. -/
def agrees (a b : Column) : Bool :=
  a.name == b.name && a.wide == b.wide && a.time == b.time && a.metric == b.metric &&
    decide (a.align = b.align)

/-- The column in words, for logs. -/
def describe (c : Column) : String :=
  let align := match c.align with
    | .left => "Left"
    | .right => "Right"
    | .center => "Center"
  "HeaderColumn \x7b name: " ++ quote c.name ++ ", wide: " ++ toString c.wide ++
    ", time: " ++ toString c.time ++ ", mx: " ++ toString c.metric ++ ", align: " ++ align ++
    ", decorator: " ++ toString c.decorator.isSome ++ " \x7d"

end Column

namespace Header

/-- The position of the first column with a name. -/
def indexOf? (h : Header) (name : String) (includeWide : Bool) : Option Nat :=
  h.findIdx? fun c => c.name == name && (includeWide || !c.wide)

/-- The names of the columns shown in a mode. -/
def names (h : Header) (wide : Bool) : List String :=
  (h.filter fun c => wide || !c.wide).map (·.name)

/-- True when the column at `i` holds ages. -/
def isTime (h : Header) (i : Nat) : Bool := (h[i]?.map (·.time)).getD false

/-- The position of the column that says why a resource is unhealthy. -/
def validIndex? (h : Header) : Option Nat := h.indexOf? validColumn true

/-- The position of the name column; the first column stands in for it. -/
def nameIndex (h : Header) : Nat := (h.indexOf? nameColumn true).getD 0

/-- True when two headers agree column by column, decorators apart. -/
def agrees (a b : Header) : Bool :=
  a.length == b.length && (a.zip b).all fun p => p.1.agrees p.2

/-- The header in words, for logs. -/
def describe (h : Header) : String :=
  "Header([" ++ ", ".intercalate (h.map Column.describe) ++ "])"

end Header

end ResourceBrowser.Table
