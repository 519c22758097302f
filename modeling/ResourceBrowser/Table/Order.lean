import ResourceBrowser.Number.Age
import ResourceBrowser.Number.Quantity
import ResourceBrowser.Table.Row

/-!
# Row order

Rows are sorted by one column. Quantities come before texts, ages are compared by duration with
the youngest first, and rows that compare equal keep the order of the snapshot in both directions.
-/

namespace ResourceBrowser.Table

open Number

/-- The column that rows are sorted by, and the direction. -/
structure SortKey where
  column : String := nameColumn
  ascending : Bool := true
deriving DecidableEq, Repr

/-- Rows are sorted by name until the user asks for something else. -/
instance : Inhabited SortKey := ⟨{}⟩

namespace SortKey

/-- The same column in the other direction. -/
def invert (k : SortKey) : SortKey := { k with ascending := !k.ascending }

/-- Asks for a column: the current one changes direction, another one starts with `ascending`. -/
def toggle (k : SortKey) (column : String) (ascending : Bool) : SortKey :=
  if k.column == column then k.invert else ⟨column, ascending⟩

end SortKey

/-- The field that a sort reads. -/
structure SortTarget where
  /-- Position in the full header. -/
  index : Nat
  isAge : Bool
  /-- The wanted column is not shown, and the first shown one stands in for it. -/
  fallback : Bool
deriving DecidableEq, Repr

/-- Finds the sort column among the shown ones; without shown columns there is none. -/
def SortKey.resolve? (k : SortKey) (header : Header) (shown : List Nat) : Option SortTarget :=
  match shown.find? fun i => (header[i]?.map (·.name)) == some k.column with
  | some i => some ⟨i, header.isTime i, false⟩
  | none => shown.head?.map fun i => ⟨i, header.isTime i, true⟩

/-- The order of values in a direction. -/
def directed (ascending : Bool) (o : Ordering) : Ordering := if ascending then o else o.swap

/-- The order of ages: by duration in the given direction, and what is not an age comes last in
both directions. -/
def compareAges (ascending : Bool) (a b : String) : Ordering :=
  match readAge? a, readAge? b with
  | some x, some y => directed ascending (compare x y)
  | some _, none => .lt
  | none, some _ => .gt
  | none, none => .eq

/-- The order of the fields of a column. -/
def compareFields (isAge ascending : Bool) (a b : String) : Ordering :=
  if isAge then compareAges ascending a b else directed ascending (compareValues a b)

/-- The order of rows by the field at `index`; a missing field counts as empty. -/
def compareRows (index : Nat) (isAge ascending : Bool) (a b : RowEvent) : Ordering :=
  compareFields isAge ascending (a.row.fields[index]?.getD "") (b.row.fields[index]?.getD "")

/-- The rows in order of the field at `index`. -/
def sortRows (rows : List RowEvent) (index : Nat) (isAge ascending : Bool) : List RowEvent :=
  rows.mergeSort fun a b => (compareRows index isAge ascending a b).isLE

end ResourceBrowser.Table
