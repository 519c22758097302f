import ResourceBrowser.Table.Header

/-!
# Rows and snapshots

A snapshot is a table at one point in time: a header, rows and the scope it was taken in. Every
row carries what changed since the snapshot before, as the previous value of each changed field.
-/

namespace ResourceBrowser.Table

/-- What happened to a row since the previous snapshot. -/
inductive Change where
  | new
  | modified
  | unchanged
deriving DecidableEq, Repr, Inhabited

/-- The name of a change. -/
def Change.name : Change → String
  | .new => "new"
  | .modified => "modified"
  | .unchanged => "unchanged"

/-- The change with a name; every other name stands for no change. -/
def Change.ofName (name : String) : Change :=
  if name == "new" then .new else if name == "modified" then .modified else .unchanged

/-- A row; its id is unique within a snapshot. -/
structure Row where
  id : String
  fields : List String
deriving DecidableEq, Repr, Inhabited

/-- A row with what changed in it. An empty previous value means that the field did not change. -/
structure RowEvent where
  change : Change
  row : Row
  deltas : List String
deriving DecidableEq, Repr, Inhabited

namespace RowEvent

/-- A row without a history. -/
def ofRow (row : Row) : RowEvent := ⟨.unchanged, row, []⟩

/-- True when no field has a previous value. -/
def isBlank (e : RowEvent) : Bool := e.deltas.all (· == "")

/-- The previous value of field `i`, if it changed. -/
def delta? (e : RowEvent) (i : Nat) : Option String :=
  e.deltas[i]?.filter (· != "")

/-- The previous values of the fields of `row`; ages are left out. -/
def deltasFrom (header : Header) (old : List String) (fields : List String) : List String :=
  fields.mapIdx fun i field =>
    match old[i]? with
    | some value => if value != field && !header.isTime i then value else ""
    | none => ""

/-- The event of a row, given the row of that id in the previous snapshot. -/
def diff (header : Header) (prev : Option Row) (row : Row) : RowEvent :=
  match prev with
  | none => ⟨.new, row, []⟩
  | some old =>
    let deltas := deltasFrom header old.fields row.fields
    ⟨if deltas.all (· == "") then .unchanged else .modified, row, deltas⟩

end RowEvent

/-- A table at one point in time, with the scope it was taken in. -/
structure Snapshot where
  header : Header
  rows : List RowEvent
  ns : String

namespace Snapshot

/-- A table without columns and rows. -/
def empty : Snapshot := ⟨[], [], ""⟩

instance : Inhabited Snapshot := ⟨empty⟩

/-- The ids of the rows in order. -/
def ids (s : Snapshot) : List String := s.rows.map (·.row.id)

/-- The position of the first row with an id. -/
def indexOf? (s : Snapshot) (id : String) : Option Nat := s.rows.findIdx? (·.row.id == id)

/-- The first row with an id. -/
def find? (s : Snapshot) (id : String) : Option RowEvent := s.rows.find? (·.row.id == id)

end Snapshot

end ResourceBrowser.Table
