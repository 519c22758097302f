import ResourceBrowser.Scope
import ResourceBrowser.Table.Filter
import ResourceBrowser.Table.Grid
import ResourceBrowser.Text.Case

/-!
# Live tables

A live table shows the latest snapshot of one kind of resource the way the user asked for: filtered,
sorted, with some columns, marks and a selected row. Every change of a setting draws the view again
from the snapshot, and the selection stays on the same resource as long as it is shown.
-/

namespace ResourceBrowser.Table

open Text

/-- A table on display. The fields from `visible` on are what the last drawing made of the
others. -/
structure LiveTable where
  kind : String
  /-- The resource that the table belongs to, named in the title instead of the scope. -/
  path : Option String := none
  /-- The latest snapshot. -/
  data : Snapshot := .empty
  query : String := ""
  /-- The user is typing the query. -/
  filtering : Bool := false
  sort : SortKey := {}
  /-- The last drawing had to sort by another column than asked for. -/
  fellBack : Bool := false
  wide : Bool := false
  /-- Only unhealthy rows are shown. -/
  faultsOnly : Bool := false
  metrics : Bool := false
  /-- The columns configured for the kind. -/
  viewColumns : List String := []
  colorer : Colorer := colorByChange
  /-- Applied to every snapshot that comes in. -/
  decorate : Option (Snapshot → Snapshot) := none
  /-- The ids of the marked rows, each once. -/
  marks : List String := []
  /-- The rows on display, filtered and sorted. -/
  visible : Snapshot := .empty
  plan : Plan := .empty
  head : List Cell := []
  grid : List (List Cell) := []
  selected : Nat := 0
  /-- The id of the selected row. -/
  trackedId : Option String := none
  /-- What went wrong last, until somebody asks. -/
  lastError : Option String := none

namespace LiveTable

/-! ## Drawing -/

/-- True when rows of every namespace are shown. -/
def clusterWide (t : LiveTable) : Bool := Scope.isAll t.data.ns

/-- What decides which columns are shown. -/
def columnOptions (t : LiveTable) : ColumnOptions :=
  ⟨t.wide, t.viewColumns, t.metrics, t.clusterWide⟩

/-- The rows that the faults mode leaves. -/
def base (t : LiveTable) : Snapshot := if t.faultsOnly then t.data.faults else t.data

/-- Keeps the selection on the tracked row if it is shown, and else moves it to the first row. -/
def settleSelection (t : LiveTable) : LiveTable :=
  let wanted := match t.trackedId with
    | some id => (t.visible.indexOf? id).getD 0
    | none => t.selected
  let selected := min wanted (t.visible.rows.length - 1)
  match t.visible.rows[selected]? with
  | some e => { t with selected, trackedId := some e.row.id }
  | none => { t with selected := 0, trackedId := none }

/-- Selects the row at a position, or the last one. -/
def select (t : LiveTable) (index : Nat) : LiveTable :=
  settleSelection { t with selected := index, trackedId := none }

/-- Draws the table with the rows of `shown`: settles the sort column, sorts unless the query
ranks the rows, and makes the cells. -/
def draw (t : LiveTable) (shown : Snapshot) : LiveTable :=
  let plan := t.columnOptions.plan shown.header
  let target := t.sort.resolve? shown.header plan.indices
  let fellBack := (target.map (·.fallback)).getD false
  let sort := match fellBack, plan.header.head? with
    | true, some c => { t.sort with column := c.name }
    | _, _ => t.sort
  let rows := match target with
    | some target =>
      if (Query.read t.query).ranks then shown.rows
      else sortRows shown.rows target.index target.isAge sort.ascending
    | none => shown.rows
  let rendering : Rendering :=
    ⟨t.data.header, plan, plan.widths rows, t.colorer, t.data.ns, t.marks⟩
  settleSelection { t with
    sort, fellBack, plan
    visible := shown.withRows rows
    head := headCells plan sort
    grid := rows.map rendering.cells }

variable [Engine]

/-- Draws the table from its settings. A query that is no valid pattern is dropped and reported. -/
def redraw (t : LiveTable) : LiveTable × Option InvalidExpression :=
  match t.base.filter t.query with
  | .ok shown => (t.draw shown, none)
  | .error e => ({ t with query := "", lastError := some e.text }.draw t.base, some e)

/-- Draws the table again. -/
def refresh (t : LiveTable) : LiveTable := t.redraw.1

/-! ## Data and settings -/

/-- Switches to another kind of resource. The query, the marks and the selection start anew. -/
def setKind (t : LiveTable) (kind : String) : LiveTable :=
  refresh { t with
    kind, path := none, query := "", filtering := false, marks := [], selected := 0
    trackedId := none, data := .empty }

/-- Names the resource that the table belongs to. -/
def setPath (t : LiveTable) (path : Option String) : LiveTable := { t with path }

/-- Chooses how rows are colored from the next drawing on. -/
def setColorer (t : LiveTable) (colorer : Colorer) : LiveTable := { t with colorer }

/-- Chooses what is applied to every snapshot that comes in. -/
def setDecorate (t : LiveTable) (decorate : Option (Snapshot → Snapshot)) : LiveTable :=
  { t with decorate }

/-- Tells whether metrics are available from the next drawing on. -/
def setMetrics (t : LiveTable) (metrics : Bool) : LiveTable := { t with metrics }

/-- Asks for columns by name; an empty list leaves the choice to the header. -/
def setViewColumns (t : LiveTable) (columns : List String) : LiveTable :=
  refresh { t with viewColumns := columns }

/-- Chooses the sort column from the next drawing on. -/
def setSort (t : LiveTable) (column : String) (ascending : Bool) : LiveTable :=
  { t with sort := ⟨column, ascending⟩ }

/-- Takes in a new snapshot. Marks of rows that are gone are dropped. -/
def update (t : LiveTable) (data : Snapshot) : LiveTable :=
  let data := match t.decorate with
    | some f => f data
    | none => data
  refresh { t with data, marks := t.marks.filter fun id => (data.find? id).isSome }

/-- Notes that a snapshot could not be loaded. -/
def noteError (t : LiveTable) (message : String) : LiveTable := { t with lastError := some message }

/-- Hands over what went wrong last. -/
def takeError (t : LiveTable) : LiveTable × Option String :=
  ({ t with lastError := none }, t.lastError)

/-! ## Filtering -/

/-- Starts to take input for the query. -/
def activateFilter (t : LiveTable) : LiveTable := { t with filtering := true }

/-- Stops taking input; the query stays. -/
def deactivateFilter (t : LiveTable) : LiveTable := { t with filtering := false }

/-- Replaces the query and goes back to the first row. -/
def setQuery (t : LiveTable) (query : String) : LiveTable × Option InvalidExpression :=
  redraw { t with query, trackedId := none, selected := 0 }

/-- Appends a character to the query while input is taken; tells whether it was. -/
def typeFilter (t : LiveTable) (c : Char) : LiveTable × Except InvalidExpression Bool :=
  if t.filtering then
    match t.setQuery (t.query.push c) with
    | (t, none) => (t, .ok true)
    | (t, some e) => (t, .error e)
  else (t, .ok false)

/-- Removes the last character of the query. -/
def eraseFilter (t : LiveTable) : LiveTable × Option InvalidExpression :=
  t.setQuery (.ofList t.query.toList.dropLast)

/-- Drops the query and stops taking input. -/
def clearFilter (t : LiveTable) : LiveTable :=
  refresh { t with query := "", filtering := false }

/-- The label selector of the query, unless it is blank. -/
def labelSelector? (t : LiveTable) : Option String :=
  (Query.read t.query).selector?.filter (· != "")

/-! ## Display modes -/

/-- Shows or hides the wide columns. -/
def toggleWide (t : LiveTable) : LiveTable := refresh { t with wide := !t.wide }

/-- Shows only unhealthy rows, or all again. -/
def toggleFaults (t : LiveTable) : LiveTable := refresh { t with faultsOnly := !t.faultsOnly }

/-- Shows healthy rows too. -/
def resetFaults (t : LiveTable) : LiveTable := refresh { t with faultsOnly := false }

/-- Sorts by a column; asking for the current one turns the direction. -/
def sortBy (t : LiveTable) (column : String) (ascending : Bool) : LiveTable :=
  refresh { t with sort := t.sort.toggle column ascending }

/-- Turns the sort direction. -/
def invertSort (t : LiveTable) : LiveTable := refresh { t with sort := t.sort.invert }

/-! ## Marks -/

/-- Marks the selected row, or takes its mark away. -/
def toggleMark (t : LiveTable) : LiveTable :=
  match t.trackedId with
  | none => t
  | some id =>
    let marks := if t.marks.contains id then t.marks.filter (· != id) else id :: t.marks
    refresh { t with marks }

/-- Takes every mark away. -/
def clearMarks (t : LiveTable) : LiveTable := refresh { t with marks := [] }

/-- True when a row is marked. -/
def isMarked (t : LiveTable) (id : String) : Bool := t.marks.contains id

/-- The ids of the marked rows in the order of the snapshot. -/
def marked (t : LiveTable) : List String := t.data.ids.filter t.isMarked

/-! ## Selection -/

/-- Moves the selection up by a number of rows. -/
def up (t : LiveTable) (n : Nat) : LiveTable := t.select (t.selected - n)

/-- Moves the selection down by a number of rows. -/
def down (t : LiveTable) (n : Nat) : LiveTable := t.select (t.selected + n)

/-- Selects the first row. -/
def home (t : LiveTable) : LiveTable := t.select 0

/-- Selects the last row. -/
def last (t : LiveTable) : LiveTable := t.select t.visible.rows.length

/-- The selected row. -/
def selectedRow? (t : LiveTable) : Option Row :=
  t.trackedId.bind fun id => (t.data.find? id).map (·.row)

/-! ## Title -/

/-- The text with its first letter in upper case. -/
def capitalize (s : String) : String :=
  match s.toList with
  | [] => ""
  | c :: cs => .ofList (uppercase c ++ cs)

/-- The place that the title names: the resource that the table belongs to, or the scope. -/
def titlePlace (t : LiveTable) : String :=
  match t.path with
  | some path =>
    let (ns, name) := Scope.split path
    if Scope.isCluster ns then name else path
  | none => if t.clusterWide then Scope.all else t.data.ns

/-- The kind, the place unless it is the whole cluster, the number of rows and the query. -/
def title (t : LiveTable) : String :=
  let count := "[" ++ toString t.visible.rows.length ++ "]"
  let place := if t.titlePlace == Scope.cluster then "" else "(" ++ t.titlePlace ++ ")"
  let query := match Query.read t.query with
    | .empty => ""
    | .label selector => " </" ++ selector ++ ">"
    | _ => " </" ++ t.query ++ ">"
  capitalize t.kind ++ place ++ count ++ query

end LiveTable

end ResourceBrowser.Table
