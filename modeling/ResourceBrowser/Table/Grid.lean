import ResourceBrowser.Number.Quantity
import ResourceBrowser.Table.Order
import ResourceBrowser.Table.Plan

/-!
# Cells

The rows of a table as cells of text. Cells of left-aligned columns are filled with blanks to the
width of their column, and a row has one color class in all its cells.
-/

namespace ResourceBrowser.Table

open Number

/-- What the color of a row says about it. -/
inductive Color where
  | std
  | added
  | modified
  | pending
  | completed
  /-- Unhealthy; shown even on marked rows. -/
  | error
  | marked
deriving DecidableEq, Repr, Inhabited

/-- The name of a color. -/
def Color.name : Color → String
  | .std => "std"
  | .added => "added"
  | .modified => "modified"
  | .pending => "pending"
  | .completed => "completed"
  | .error => "error"
  | .marked => "marked"

/-- Chooses the color of a row from the scope, the full header and the row. -/
abbrev Colorer := String → Header → RowEvent → Color

/-- The color that tells what changed. -/
def colorByChange : Colorer := fun _ _ e =>
  match e.change with
  | .new => .added
  | .modified => .modified
  | .unchanged => .std

/-- A cell on display. -/
structure Cell where
  text : String
  align : Align
  color : Color
  /-- The id of the row, in its first cell only. -/
  reference : Option String
deriving DecidableEq, Repr, Inhabited

/-- How a change is pointed out: by its direction if both values are quantities that differ. -/
def changeNote (value old : String) : String :=
  match readQuantity? value, readQuantity? old with
  | some x, some y => (if y < x then "↑ " else if x < y then "↓ " else "Δ ") ++ old
  | _, _ => "Δ " ++ old

/-- The text of a cell: the decorated value, and the previous one if it changed. -/
def cellText (c : Column) (value : String) (old : Option String) : String :=
  match old with
  | some old =>
    if c.time then c.decorate value
    else c.decorate value ++ " (" ++ changeNote value old ++ ")"
  | none => c.decorate value

/-- The text of the cell of a row in column `c`, whose field is at `index`; none without a field. -/
def RowEvent.cellText? (e : RowEvent) (c : Column) (index : Nat) : Option String :=
  e.row.fields[index]?.map fun value => cellText c value (e.delta? index)

/-- Fills a text with blanks on the right up to a number of characters. -/
def fillRight (text : String) (width : Nat) : String :=
  text ++ .ofList (List.replicate (width - text.length) ' ')

namespace Plan

/-- The shown columns with the positions of their fields. -/
def columns (p : Plan) : List (Nat × Column) := p.indices.zip p.header

/-- The widths of the shown columns: room for every cell, and for the name with the mark of the
sort direction. -/
def widths (p : Plan) (rows : List RowEvent) : List Nat :=
  p.columns.map fun (index, c) =>
    rows.foldl (fun width e =>
      match e.cellText? c index with
      | some text => max width text.length
      | none => width) (c.name.length + 1)

end Plan

/-- What the cells of all rows depend on. -/
structure Rendering where
  /-- The full header. -/
  header : Header
  plan : Plan
  widths : List Nat
  colorer : Colorer
  ns : String
  marks : List String

namespace Rendering

/-- The color of a row: a mark hides every color but that of unhealthy rows. -/
def color (r : Rendering) (e : RowEvent) : Color :=
  let own := r.colorer r.ns r.header e
  if r.marks.contains e.row.id && own != .error then .marked else own

/-- The cells of a row; where the row has no field, the cell is empty. -/
def cells (r : Rendering) (e : RowEvent) : List Cell :=
  r.plan.columns.mapIdx fun i (index, c) =>
    let text := (e.cellText? c index).getD ""
    { text := if c.align = .left then fillRight text (r.widths[i]?.getD 0) else text
      align := c.align
      color := r.color e
      reference := if i = 0 then some e.row.id else none }

end Rendering

/-- Follows the name of the sort column. -/
def SortKey.mark (k : SortKey) : String := if k.ascending then "↑" else "↓"

/-- The cells above the columns. -/
def headCells (p : Plan) (k : SortKey) : List Cell :=
  p.header.map fun c =>
    ⟨if c.name == k.column then c.name ++ k.mark else c.name, c.align, .std, none⟩

end ResourceBrowser.Table
