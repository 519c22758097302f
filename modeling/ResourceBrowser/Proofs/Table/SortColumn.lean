import ResourceBrowser.Proofs.Table.VisibleRows

/-!
# The sort column

The sort column of a table can be hidden by other settings at any time, and the first shown column
stands in for it then. After a drawing the name in the sort key, the mark above the columns and the
order of the rows are about the same column, provided that columns can be told apart by name.

* `RowEvent.Precedes`: what the order of a column asks of two rows, `precedes_iff`.
* `headCells_text_iff`, `markedAt_iff`: which cell above the columns carries a mark of a direction.
* `TellsSort`: the agreement, `tellsSort_draw` after a drawing and `tellsSort_of_draws` after every
  history.
-/

namespace ResourceBrowser.Table

open Number

/-! ## The order of a column -/

/-- Row `a` may come before row `b` in the order of field `i`. A missing field counts as empty. Ages
are compared by duration, and one that cannot be read comes last in both directions. -/
def RowEvent.Precedes (i : Nat) (isAge ascending : Bool) (a b : RowEvent) : Prop :=
  let x := a.row.fields[i]?.getD ""
  let y := b.row.fields[i]?.getD ""
  if isAge then ∀ n, readAge? y = some n →
    ∃ m, readAge? x = some m ∧ if ascending then m ≤ n else n ≤ m
  else if ascending then (compareValues x y).isLE else (compareValues y x).isLE

/-- Rows compare by a column as its order asks. -/
theorem precedes_iff {i : Nat} {isAge ascending : Bool} {a b : RowEvent} :
    (compareRows i isAge ascending a b).isLE ↔ a.Precedes i isAge ascending b := by
  unfold compareRows compareFields RowEvent.Precedes
  cases isAge with
  | true => exact isLE_compareAges_iff ascending _ _
  | false =>
    cases ascending with
    | true => exact Iff.rfl
    | false =>
      have hswap : ∀ x y, (compareValues x y).swap = compareValues y x := by
        intro x y
        exact (@Std.OrientedCmp.eq_swap _ compareValues _ y x).symm
      simp [directed, hswap]

/-! ## The mark of the direction -/

/-- The cell above a column carries a mark exactly if the column is the sort column, and the mark
is that of the direction. -/
theorem headCells_text_iff {p : Plan} {k : SortKey} {j : Nat} {c : Column} {mark : String}
    (hc : p.header[j]? = some c) (hmark : mark ≠ "") :
    (∃ cell, (headCells p k)[j]? = some cell ∧ cell.text = c.name ++ mark) ↔
      c.name = k.column ∧ mark = k.mark := by
  unfold headCells
  rw [List.getElem?_map, hc, Option.map_some]
  by_cases hname : c.name = k.column
  · have hbeq : (c.name == k.column) = true := beq_iff_eq.2 hname
    constructor
    · rintro ⟨cell, hcell, htext⟩
      cases hcell
      rw [if_pos hbeq, String.append_right_inj] at htext
      exact ⟨hname, htext.symm⟩
    · rintro ⟨-, rfl⟩
      exact ⟨_, rfl, if_pos hbeq⟩
  · have hbeq : ¬(c.name == k.column) = true := by rwa [beq_iff_eq]
    constructor
    · -- a bare name carries no mark
      rintro ⟨cell, hcell, htext⟩
      cases hcell
      rw [if_neg hbeq] at htext
      have hempty : c.name ++ "" = c.name ++ mark := by rwa [String.append_empty]
      exact absurd (String.append_right_inj _ |>.1 hempty).symm hmark
    · rintro ⟨heq, -⟩
      exact absurd heq hname

namespace LiveTable

/-- The cell above the shown column at `j` carries a mark behind the name of the column. -/
def MarkedAt (t : LiveTable) (j : Nat) (mark : String) : Prop :=
  ∃ c cell, t.plan.header[j]? = some c ∧ t.head[j]? = some cell ∧ cell.text = c.name ++ mark

/-- The sort key, the mark above the columns and the order of the rows are about the shown column at
`j`, which is column `i` of the full header. -/
structure TellsSort (t : LiveTable) (j i : Nat) (c : Column) : Prop where
  shown : t.plan.indices[j]? = some i
  header : t.plan.header[j]? = some c
  source : t.data.header[i]? = some c
  name : t.sort.column = c.name
  length : t.head.length = t.plan.header.length
  /-- No other column has a mark of a direction, and the mark is that of the sort key. -/
  marked (k : Nat) (mark : String) : mark = "↑" ∨ mark = "↓" →
    (t.MarkedAt k mark ↔ k = j ∧ mark = if t.sort.ascending then "↑" else "↓")
  ordered : t.visible.rows.Pairwise (RowEvent.Precedes i c.time t.sort.ascending)

variable {t : LiveTable}

/-- If shown columns can be told apart by name, the mark of the direction is in one place only. -/
theorem markedAt_iff {j k : Nat} {c : Column} {mark : String}
    (hhead : t.head = headCells t.plan t.sort) (hnames : (t.plan.header.map (·.name)).Nodup)
    (hc : t.plan.header[j]? = some c) (hname : c.name = t.sort.column) (hmark : mark ≠ "") :
    t.MarkedAt k mark ↔ k = j ∧ mark = t.sort.mark := by
  unfold MarkedAt
  rw [hhead]
  constructor
  · rintro ⟨d, cell, hd, hcell, htext⟩
    obtain ⟨hdname, hdmark⟩ := (headCells_text_iff hd hmark).1 ⟨cell, hcell, htext⟩
    refine ⟨?_, hdmark⟩
    have hk : k < (t.plan.header.map (·.name)).length := by
      rw [List.length_map]
      exact (List.getElem?_eq_some_iff.1 hd).1
    refine (List.getElem?_inj hk hnames).1 ?_
    simp only [List.getElem?_map, hd, hc, Option.map_some, hdname, hname]
  · rintro ⟨rfl, hdmark⟩
    obtain ⟨cell, hcell, htext⟩ := (headCells_text_iff hc hmark).2 ⟨hname, hdmark⟩
    exact ⟨c, cell, hc, hcell, htext⟩

/-- A drawing settles on a shown column, if there is any. -/
theorem exists_target_of_draw (t : LiveTable) (shown : Snapshot)
    (h : (t.draw shown).plan.indices ≠ []) : ∃ target,
    t.sort.resolve? shown.header (t.draw shown).plan.indices = some target ∧
    (t.draw shown).sort.resolve? shown.header (t.draw shown).plan.indices =
      some { target with fallback := false } := by
  have hsome : t.sort.resolve? shown.header (t.draw shown).plan.indices ≠ none := by
    rwa [Ne, SortKey.resolve?_eq_none_iff]
  obtain ⟨target, htarget⟩ := Option.ne_none_iff_exists'.1 hsome
  refine ⟨target, htarget, ?_⟩
  rw [draw_resolve?, htarget]
  rfl

/-- Unless the query ranks the rows, they are drawn in the order of the column settled on. -/
theorem pairwise_precedes_draw {shown : Snapshot} {target : SortTarget}
    (htarget : t.sort.resolve? shown.header (t.draw shown).plan.indices = some target)
    (hranks : (Query.read t.query).ranks = false) : (t.draw shown).visible.rows.Pairwise
      (RowEvent.Precedes target.index target.isAge (t.draw shown).sort.ascending) := by
  have hrows : (t.draw shown).visible.rows =
      sortRows shown.rows target.index target.isAge t.sort.ascending := by
    rw [draw_visible, htarget, hranks]
    rfl
  rw [hrows, draw_ascending]
  exact (stablySorted_sortRows _ _ _ _).ordered.imp precedes_iff.1

/-- Drawing rows under the header of the snapshot tells of one sort column. -/
theorem tellsSort_draw {shown : Snapshot} (hheader : shown.header = t.data.header)
    (hnames : (t.data.header.map (·.name)).Nodup) (hcolumns : t.viewColumns.Nodup)
    (hplan : (t.draw shown).plan.indices ≠ []) (hranks : (Query.read t.query).ranks = false) :
    ∃ j i c, (t.draw shown).TellsSort j i c := by
  obtain ⟨target, htarget, hkey⟩ := exists_target_of_draw t shown hplan
  obtain ⟨hname, hage⟩ := SortKey.column_of_resolve? hkey rfl
  obtain ⟨c, hc, hcname⟩ := Option.map_eq_some_iff.1 hname
  obtain ⟨j, hj⟩ := List.mem_iff_getElem?.1 (SortKey.mem_of_resolve? hkey)
  have hcolumn : (t.draw shown).plan.header[j]? = some c := by
    rw [draw_plan] at hj ⊢
    rw [ColumnOptions.getElem?_header _ _ hj]
    exact hc
  -- shown columns can be told apart by name, like those of the full header
  have hshown : ((t.draw shown).plan.header.map (·.name)).Nodup := by
    rw [draw_plan, hheader]
    exact ColumnOptions.nodup_names t.columnOptions t.data.header hnames hcolumns
  refine ⟨j, target.index, c, hj, hcolumn, ?_, hcname.symm, ?_, ?_, ?_⟩
  · rw [draw_data, ← hheader]
    exact hc
  · rw [draw_head, headCells, List.length_map]
  · intro k mark hmark
    have hne : mark ≠ "" := by
      rcases hmark with rfl | rfl <;> decide
    exact markedAt_iff (draw_head t shown) hshown hcolumn hcname hne
  · have htime : target.isAge = c.time := by
      rw [hage, Header.isTime, hc]
      rfl
    rw [← htime]
    exact pairwise_precedes_draw htarget hranks

/-- Whatever operations a table has been through, after one that draws it anew it tells of one sort
column, if columns can be told apart by name, some are shown, and the query leaves the order to
them. -/
theorem tellsSort_of_draws [Engine] (kind : String) (ops : List Operation) (op : Operation)
    {t : LiveTable} (ht : t = ((({ kind } : LiveTable).run ops).apply op).1)
    (h : op.draws (({ kind } : LiveTable).run ops) = true)
    (hnames : (t.data.header.map (·.name)).Nodup) (hcolumns : t.viewColumns.Nodup)
    (hplan : t.plan.indices ≠ []) (hranks : (Query.read t.query).ranks = false) :
    ∃ j i c, t.TellsSort j i c := by
  obtain ⟨u, hu, -⟩ := exists_refresh_of_draws h
  obtain ⟨query, lastError, shown, hdraw, hheader⟩ := exists_draw_header u
  rw [ht, hu, hdraw] at hnames hcolumns hplan hranks ⊢
  obtain ⟨_, _, _, _, _, _, _, _, hframe⟩ := draw_frame { u with query, lastError } shown
  refine tellsSort_draw (t := { u with query, lastError }) hheader ?_ ?_ hplan ?_
  · rwa [draw_data] at hnames
  · rwa [hframe] at hcolumns
  · rwa [draw_query] at hranks

attribute [local instance] nativeEngine

/-- Three pods, to be sorted by a column that they do not have. -/
def misSorted : LiveTable :=
  ((({ kind := "pods" } : LiveTable).run [.setSort "IP" false]).apply (.update threePods)).1

/-- The first shown column stands in for the one that is not there. -/
theorem tellsSort_misSorted :
    misSorted =
      ((({ kind := "pods" } : LiveTable).run [.setSort "IP" false]).apply (.update threePods)).1 ∧
    (Operation.update threePods).draws
      (({ kind := "pods" } : LiveTable).run [.setSort "IP" false]) = true ∧
    (misSorted.data.header.map (·.name)).Nodup ∧ misSorted.viewColumns.Nodup ∧
    misSorted.plan.indices ≠ [] ∧ (Query.read misSorted.query).ranks = false ∧
    ∃ j i c, misSorted.TellsSort j i c := by
  have hdrawn : misSorted =
      ({ kind := "pods", sort := ⟨"IP", false⟩, data := threePods } : LiveTable).refresh := rfl
  have hnames : (misSorted.data.header.map (·.name)).Nodup := by
    rw [hdrawn, refresh_data]
    decide
  have hcolumns : misSorted.viewColumns.Nodup := by
    have hoptions : misSorted.columnOptions = _ := refresh_columnOptions _
    have hexplicit : misSorted.viewColumns = [] := congrArg ColumnOptions.explicit hoptions
    rw [hexplicit]
    exact List.nodup_nil
  have hplan : misSorted.plan.indices ≠ [] := by
    rw [hdrawn, refresh_plan]
    decide
  have hranks : (Query.read misSorted.query).ranks = false := by
    rw [hdrawn, refresh_query Query.isValid_empty]
    rfl
  exact ⟨rfl, rfl, hnames, hcolumns, hplan, hranks,
    tellsSort_of_draws "pods" [.setSort "IP" false] (.update threePods) rfl rfl hnames hcolumns
      hplan hranks⟩

end LiveTable

end ResourceBrowser.Table
