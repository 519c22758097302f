import ResourceBrowser.Proofs.Table.Marks

/-!
# The color of errors and the faults mode

What a table displays as an error can be read off its cells, and a mark never hides it. The faults
mode takes the other rows away and leaves the columns as they are.

* `errorRows`: the rows that a table displays as errors, `errorRows_eq`.
* `IsDrawn`: a table as a drawing leaves it, `isDrawn_refresh`.
* `toggleFaults_frame`, `visible_perm`: what the faults mode does.
-/

namespace ResourceBrowser.Table.LiveTable

variable {t : LiveTable}

/-! ## Rows in the color of errors -/

/-- A mark hides no error, and makes none. -/
theorem rowColor_eq_error_iff (t : LiveTable) (e : RowEvent) :
    t.rowColor e = .error ↔ t.colorer t.data.ns t.data.header e = .error := by
  unfold rowColor
  cases t.colorer t.data.ns t.data.header e
  case error => simp
  all_goals
    dsimp only
    split <;> simp

/-- The rows on display all of whose cells are in the color of errors. -/
def errorRows (t : LiveTable) : List RowEvent :=
  ((t.visible.rows.zip t.grid).filter fun row => row.2.all (·.color == .error)).map (·.1)

theorem cells_ne_nil (h : t.plan.columns ≠ []) (e : RowEvent) : t.rendering.cells e ≠ [] := by
  unfold Rendering.cells rendering
  dsimp only
  rw [ne_eq, List.mapIdx_eq_nil_iff]
  exact h

/-- The color of a row can be read off its cells, as long as there are some. -/
theorem all_cells_error (h : t.plan.columns ≠ []) (e : RowEvent) :
    ((t.rendering.cells e).all (·.color == .error)) = decide (t.rowColor e = .error) := by
  rw [Bool.eq_iff_iff, List.all_eq_true, decide_eq_true_iff]
  constructor
  · intro hall
    obtain ⟨cell, hcell⟩ := List.exists_mem_of_ne_nil _ (cells_ne_nil h e)
    rw [← color_rendering, ← Rendering.color_of_mem_cells _ e hcell]
    exact beq_iff_eq.1 (hall cell hcell)
  · intro herror cell hcell
    rw [beq_iff_eq, Rendering.color_of_mem_cells _ e hcell, color_rendering, herror]

variable [Engine]

/-- A table as a drawing leaves it. -/
structure IsDrawn (t : LiveTable) : Prop where
  holds : t.HoldsWanted
  plan : t.plan = t.columnOptions.plan t.data.header
  grid : t.grid = t.visible.rows.map t.rendering.cells

theorem isDrawn_refresh (t : LiveTable) : t.refresh.IsDrawn := by
  refine ⟨(showsWanted_refresh t).toHoldsWanted, ?_, ?_⟩
  · rw [refresh_plan, refresh_columnOptions, refresh_data]
  · obtain ⟨query, lastError, shown, hdraw, -⟩ := exists_draw t
    rw [hdraw]
    exact draw_grid _ shown

/-- With some column on display, the rows displayed as errors are those that are colored so. -/
theorem errorRows_eq (h : t.IsDrawn) (hcolumns : t.plan.columns ≠ []) :
    t.errorRows = t.visible.rows.filter fun e => decide (t.rowColor e = .error) := by
  -- each row stands beside its own cells
  rw [errorRows, h.grid, ← List.map_prod_left_eq_zip, List.filter_map, List.map_map]
  refine (List.map_id _).trans (List.filter_congr fun e _ => ?_)
  exact all_cells_error hcolumns e

/-! ## The faults mode -/

/-- Turning the faults mode on or off changes neither the rows of the snapshot nor the columns on
display. -/
theorem toggleFaults_frame (h : t.IsDrawn) : t.toggleFaults.colorer = t.colorer ∧
    t.toggleFaults.data = t.data ∧ t.toggleFaults.plan = t.plan ∧
    t.toggleFaults.query = t.query ∧ t.toggleFaults.faultsOnly = !t.faultsOnly := by
  unfold toggleFaults
  refine ⟨refresh_colorer _, refresh_data _, ?_, refresh_query h.holds.valid,
    refresh_faultsOnly _⟩
  rw [refresh_plan, h.plan]
  rfl

/-- Under the empty query, the rows on display are those that the faults mode leaves. -/
theorem visible_perm (h : t.HoldsWanted) (hquery : Query.read t.query = .empty) :
    t.visible.rows.Perm
      (t.data.rows.filter fun e => !t.faultsOnly || e.isFaulty t.data.header) := by
  have hwanted : t.wanted =
      t.data.rows.filter fun e => !t.faultsOnly || e.isFaulty t.data.header := by
    apply List.filter_congr
    intro e _
    rw [hquery]
    exact Bool.and_true _
  rw [← hwanted]
  exact h.perm

/-- In the faults mode, the rows on display under the empty query are the faulty ones. -/
theorem visible_perm_faulty (h : t.HoldsWanted) (hquery : Query.read t.query = .empty)
    (hfaults : t.faultsOnly = true) :
    t.visible.rows.Perm (t.data.rows.filter (·.isFaulty t.data.header)) := by
  have hvisible := visible_perm h hquery
  rw [hfaults] at hvisible
  exact hvisible

end ResourceBrowser.Table.LiveTable
