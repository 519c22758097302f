import ResourceBrowser.Table.Header

/-!
# Column plans

Which columns of a table are shown, and in what order. A plan maps every shown column to the
position of its field in the rows.
-/

namespace ResourceBrowser.Table

/-- What decides which columns are shown. -/
structure ColumnOptions where
  wide : Bool := false
  /-- The columns asked for by name, in order; when empty, the header decides. -/
  explicit : List String := []
  metrics : Bool := false
  /-- Rows of every namespace are shown. -/
  clusterWide : Bool := false
deriving DecidableEq, Repr

/-- The shown columns. -/
structure Plan where
  header : Header
  /-- The positions of the shown columns in the full header. -/
  indices : List Nat
  /-- The number of columns of the full header. -/
  sourceLength : Nat

namespace Plan

/-- The plan of a table without columns. -/
def empty : Plan := ⟨[], [], 0⟩

instance : Inhabited Plan := ⟨empty⟩

end Plan

namespace ColumnOptions

/-- The namespace is only shown next to rows of other namespaces, and metrics only where there are
some. -/
def admits (o : ColumnOptions) (c : Column) : Bool :=
  !(c.name == namespaceColumn && !o.clusterWide) && !(c.metric && !o.metrics)

/-- The columns asked for by name, or those that the display mode shows. -/
def candidates (o : ColumnOptions) (header : Header) : List Nat :=
  if o.explicit.isEmpty then
    (List.range header.length).filter fun i =>
      (header[i]?.map fun c => o.wide || !c.wide).getD false
  else o.explicit.filterMap fun name => header.indexOf? name true

/-- The plan for a header. -/
def plan (o : ColumnOptions) (header : Header) : Plan :=
  let indices := (o.candidates header).filter fun i => (header[i]?.map o.admits).getD false
  ⟨indices.filterMap fun i => header[i]?, indices, header.length⟩

end ColumnOptions

end ResourceBrowser.Table
