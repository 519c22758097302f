import ResourceBrowser.Proofs.Table.VisibleRows

/-!
# The selected row

A table with rows on display always has exactly one of them selected, and everything that can be
asked about the selection tells of that row: its id, the row of the snapshot, and the cells. The
selection is settled after every operation (`isSettled_apply`); what is left to show is that the
row can be looked up in the snapshot and that its cells are where it is.

* `HasCells`: the cells belong to the rows on display, `hasCells_apply`.
* `SelectionAgrees`: what holds of the selection, `selectionAgrees_run`.
-/

namespace ResourceBrowser.Table

/-- The first cell of a row refers to the row. -/
theorem Rendering.reference_cells (r : Rendering) (e : RowEvent) (h : r.plan.columns ≠ []) :
    ∃ cell, (r.cells e)[0]? = some cell ∧ cell.reference = some e.row.id := by
  cases hc : r.plan.columns with
  | nil => exact absurd hc h
  | cons p rest => simp [cells, hc]

namespace LiveTable

/-- Everything that can be asked about the selection tells of one row on display, if there is
any. -/
structure SelectionAgrees (t : LiveTable) : Prop where
  empty : t.visible.rows = [] → t.selected = 0 ∧ t.trackedId = none ∧ t.selectedRow? = none
  shown : t.visible.rows ≠ [] → ∃ h : t.selected < t.visible.rows.length,
    t.trackedId = some t.visible.rows[t.selected].row.id ∧
    (∃ row, t.selectedRow? = some row ∧ row.id = t.visible.rows[t.selected].row.id) ∧
    (t.plan.indices ≠ [] → ∃ cells cell, t.grid[t.selected]? = some cells ∧
      cells[0]? = some cell ∧ cell.reference = some t.visible.rows[t.selected].row.id)
  grid : t.grid.length = t.visible.rows.length

/-! ## Cells of the rows on display -/

/-- The cells are those of the rows on display under the plan of the table. -/
structure HasCells (t : LiveTable) : Prop where
  cells : ∃ r : Rendering, r.plan = t.plan ∧ t.grid = t.visible.rows.map r.cells
  plan : t.plan.header.length = t.plan.indices.length

variable {t : LiveTable}

theorem hasCells_draw (t : LiveTable) (shown : Snapshot) : (t.draw shown).HasCells := by
  refine ⟨⟨(t.draw shown).rendering, rfl, draw_grid t shown⟩, ?_⟩
  rw [draw_plan]
  exact ColumnOptions.length_header _ _

theorem hasCells_new (kind : String) : ({ kind } : LiveTable).HasCells :=
  ⟨⟨⟨[], .empty, [], colorByChange, "", []⟩, rfl, rfl⟩, rfl⟩

variable [Engine]

theorem hasCells_apply (t : LiveTable) (op : Operation) (h : t.HasCells) :
    (t.apply op).1.HasCells := by
  apply apply_of_refresh op
  · intro u
    obtain ⟨query, lastError, shown, hdraw, -⟩ := exists_draw u
    rw [hdraw]
    exact hasCells_draw _ shown
  · intros
    exact ⟨h.cells, h.plan⟩

/-! ## The selected row in the snapshot -/

/-- A row on display can be looked up in the snapshot. -/
theorem exists_find?_of_mem {e : RowEvent} (h : t.HoldsWanted) (he : e ∈ t.visible.rows) :
    ∃ found, t.data.find? e.row.id = some found ∧ found.row.id = e.row.id := by
  have hdata := mem_data_of_mem_visible h he
  cases hf : t.data.find? e.row.id with
  | none =>
    have hnone := List.find?_eq_none.1 hf e hdata
    simp at hnone
  | some found =>
    have hid := List.find?_some hf
    exact ⟨found, rfl, by simpa using hid⟩

/-! ## After a history -/

/-- A settled selection agrees with rows and cells. -/
theorem selectionAgrees_of_isSettled (hsettled : t.IsSettled) (hholds : t.HoldsWanted)
    (hcells : t.HasCells) : t.SelectionAgrees := by
  obtain ⟨r, hr, hgrid⟩ := hcells.cells
  unfold IsSettled at hsettled
  refine ⟨?_, ?_, ?_⟩
  · intro hrows
    have hnone : t.visible.rows[t.selected]? = none := by simp [hrows]
    rw [hnone] at hsettled
    refine ⟨hsettled.2.1, hsettled.2.2, ?_⟩
    simp [selectedRow?, hsettled.2.2]
  · intro hrows
    cases he : t.visible.rows[t.selected]? with
    | none =>
      rw [he] at hsettled
      exact absurd hsettled.1 hrows
    | some e =>
      rw [he] at hsettled
      obtain ⟨hlt, hget⟩ := List.getElem?_eq_some_iff.1 he
      obtain ⟨found, hfound, hid⟩ := exists_find?_of_mem hholds (List.mem_of_getElem? he)
      refine ⟨hlt, ?_, ?_, ?_⟩
      · rw [hget]
        exact hsettled
      · rw [hget]
        refine ⟨found.row, ?_, hid⟩
        simp [selectedRow?, hsettled, hfound]
      · -- the cells were made under the same plan, so there is a first one
        intro hplan
        have hcolumns : r.plan.columns ≠ [] := by
          intro hnil
          have hlen := congrArg List.length hnil
          rw [hr] at hlen
          simp [Plan.columns, hcells.plan] at hlen
          exact hplan hlen
        obtain ⟨cell, hcell, href⟩ := r.reference_cells e hcolumns
        refine ⟨r.cells e, cell, ?_, hcell, ?_⟩
        · simp [hgrid, he]
        · rw [hget]
          exact href
  · simp [hgrid]

/-- Whatever operations a table has been through, its selection is on a row on display. -/
theorem selectionAgrees_run (kind : String) (ops : List Operation) :
    (({ kind } : LiveTable).run ops).SelectionAgrees :=
  selectionAgrees_of_isSettled (run_induction (isSettled_new kind) isSettled_apply ops)
    (run_induction (holdsWanted_new kind) holdsWanted_apply ops)
    (run_induction (hasCells_new kind) hasCells_apply ops)

end LiveTable

end ResourceBrowser.Table
