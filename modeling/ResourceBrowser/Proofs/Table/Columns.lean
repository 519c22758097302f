import ResourceBrowser.Proofs.Table.RowChange
import ResourceBrowser.Proofs.Table.VisibleRows

/-!
# Columns and their cells

A field has two positions, one among all columns and one among the shown ones. Drawing a table goes
from one to the other for the columns, the cells above them and the cells of the rows; all of these
agree, however ragged the rows are and in whatever order the columns are asked for.

* `Column.Says`: what a column says of a field, `says_cellText?`.
* `Rendering.exists_cell`: a row has one cell for each shown column, about the field of that column.
* `MapsColumns`: the agreement, `mapsColumns_refresh` after a drawing and `mapsColumns_run` after
  every history.
-/

namespace ResourceBrowser.Table

open Number

/-! ## What is said of a field -/

/-- How it is pointed out that a field was `old` before it was `value`: with an arrow if both are
quantities and one is greater. -/
inductive PointsOut (value old : String) : String → Prop where
  | raised {x y : Float} (hx : readQuantity? value = some x) (hy : readQuantity? old = some y)
      (h : y < x) : PointsOut value old ("↑ " ++ old)
  | lowered {x y : Float} (hx : readQuantity? value = some x) (hy : readQuantity? old = some y)
      (h : x < y) : PointsOut value old ("↓ " ++ old)
  | changed (h : ∀ x y, readQuantity? value = some x → readQuantity? old = some y →
      ¬y < x ∧ ¬x < y) : PointsOut value old ("Δ " ++ old)

/-- What column `c` says of field `i` of a row: nothing if the row has no such field, and else the
decorated value, with the previous one if there is one and the column does not hold ages. -/
inductive Column.Says (c : Column) (e : RowEvent) (i : Nat) : String → Prop where
  | blank (h : e.row.fields[i]? = none) : c.Says e i ""
  | plain {value : String} (h : e.row.fields[i]? = some value)
      (hold : c.time = true ∨ ∀ old, e.deltas[i]? = some old → old = "") :
      c.Says e i (c.decorate value)
  | changed {value old note : String} (h : e.row.fields[i]? = some value) (htime : c.time = false)
      (hold : e.deltas[i]? = some old) (hne : old ≠ "") (hnote : PointsOut value old note) :
      c.Says e i (c.decorate value ++ " (" ++ note ++ ")")

theorem pointsOut_changeNote (value old : String) : PointsOut value old (changeNote value old) := by
  unfold changeNote
  split
  · rename_i x y hx hy
    by_cases hraised : y < x
    · rw [if_pos hraised]
      exact .raised hx hy hraised
    · rw [if_neg hraised]
      by_cases hlowered : x < y
      · rw [if_pos hlowered]
        exact .lowered hx hy hlowered
      · rw [if_neg hlowered]
        refine .changed ?_
        intro x' y' hx' hy'
        rw [hx] at hx'
        rw [hy] at hy'
        cases hx'
        cases hy'
        exact ⟨hraised, hlowered⟩
  · rename_i hunread
    refine .changed ?_
    intro x y hx hy
    exact (hunread x y hx hy).elim

/-- The text of a cell is what its column says of the field. -/
theorem says_cellText? (c : Column) (e : RowEvent) (i : Nat) :
    c.Says e i ((e.cellText? c i).getD "") := by
  unfold RowEvent.cellText?
  cases hvalue : e.row.fields[i]? with
  | none => exact .blank hvalue
  | some value =>
    rw [Option.map_some, Option.getD_some]
    unfold cellText
    cases hdelta : e.delta? i with
    | none =>
      refine .plain hvalue (.inr ?_)
      intro old hold
      by_contra hne
      have hsome := RowEvent.delta?_eq_some_iff.2 ⟨hold, hne⟩
      rw [hdelta] at hsome
      cases hsome
    | some old =>
      obtain ⟨hold, hne⟩ := RowEvent.delta?_eq_some_iff.1 hdelta
      dsimp only
      split
      · rename_i htime
        exact .plain hvalue (.inl htime)
      · rename_i htime
        rw [Bool.not_eq_true] at htime
        exact .changed hvalue htime hold hne (pointsOut_changeNote value old)

/-- A row without what it has beyond the first `n` fields. -/
def RowEvent.cutTo (n : Nat) (e : RowEvent) : RowEvent :=
  { e with row.fields := e.row.fields.take n, deltas := e.deltas.take n }

/-- A column says the same of a row that is cut behind the column. -/
theorem Column.Says.cutTo {c : Column} {e : RowEvent} {i n : Nat} {text : String}
    (h : c.Says e i text) (hi : i < n) : c.Says (e.cutTo n) i text := by
  have hfields : (e.cutTo n).row.fields[i]? = e.row.fields[i]? := List.getElem?_take_of_lt hi
  have hdeltas : (e.cutTo n).deltas[i]? = e.deltas[i]? := List.getElem?_take_of_lt hi
  cases h with
  | blank h => exact .blank (hfields.trans h)
  | plain h hold => exact .plain (hfields.trans h) (hdeltas ▸ hold)
  | changed h htime hold hne hnote =>
    exact .changed (hfields.trans h) htime (hdeltas.trans hold) hne hnote

/-! ## Cells of a row -/

/-- A cell shows field `i` of a row under column `c`: it says what the column says of the field,
and only left-aligned cells are filled up, with blanks on the right. -/
structure Cell.Shows (cell : Cell) (c : Column) (e : RowEvent) (i : Nat) : Prop where
  text : ∃ text blanks, c.Says e i text ∧
    cell.text = text ++ .ofList (List.replicate blanks ' ') ∧ (c.align ≠ .left → blanks = 0)
  align : cell.align = c.align

theorem Cell.Shows.cutTo {cell : Cell} {c : Column} {e : RowEvent} {i n : Nat}
    (h : cell.Shows c e i) (hi : i < n) : cell.Shows c (e.cutTo n) i := by
  obtain ⟨text, blanks, hsays, htext, hblanks⟩ := h.text
  exact ⟨⟨text, blanks, hsays.cutTo hi, htext, hblanks⟩, h.align⟩

namespace Rendering

variable (r : Rendering) (e : RowEvent)

theorem length_cells (h : r.plan.header.length = r.plan.indices.length) :
    (r.cells e).length = r.plan.indices.length := by
  simp [cells, Plan.columns, h]

/-- Under each shown column there is a cell about the field of the column, and the first one refers
to the row. -/
theorem exists_cell {j i : Nat} {c : Column} (hi : r.plan.indices[j]? = some i)
    (hc : r.plan.header[j]? = some c) : ∃ cell, (r.cells e)[j]? = some cell ∧ cell.Shows c e i ∧
      cell.reference = if j = 0 then some e.row.id else none := by
  have hcolumn : r.plan.columns[j]? = some (i, c) := List.getElem?_zip_eq_some.2 ⟨hi, hc⟩
  unfold cells
  rw [List.getElem?_mapIdx, hcolumn]
  refine ⟨_, rfl, ⟨?_, rfl⟩, rfl⟩
  dsimp only
  split
  · rename_i hleft
    exact ⟨_, _, says_cellText? c e i, rfl, fun hne => absurd hleft hne⟩
  · exact ⟨_, 0, says_cellText? c e i, (String.append_empty).symm, fun _ => rfl⟩

end Rendering

namespace LiveTable

/-- The cells above the columns and the cells of the rows go by the plan of the table, and the plan
goes by the full header. -/
structure MapsColumns (t : LiveTable) : Prop where
  head : t.head.length = t.plan.indices.length
  header : t.plan.header.length = t.plan.indices.length
  grid : t.grid.length = t.visible.rows.length
  /-- A shown column is the column of the full header at its position there. -/
  column (j i : Nat) : t.plan.indices[j]? = some i →
    i < t.data.header.length ∧ t.plan.header[j]? = t.data.header[i]?
  /-- A row has one cell for each shown column. -/
  width (r : Nat) (cells : List Cell) : t.grid[r]? = some cells →
    cells.length = t.plan.indices.length
  /-- The cell under a shown column is about the field of that column, and what the row has beyond
  the full header does not matter. Only the first cell refers to the row. -/
  cell (r j i : Nat) (e : RowEvent) (c : Column) : t.visible.rows[r]? = some e →
    t.plan.indices[j]? = some i → t.data.header[i]? = some c →
    ∃ cells cell, t.grid[r]? = some cells ∧ cells[j]? = some cell ∧ cell.Shows c e i ∧
      cell.Shows c (e.cutTo t.data.header.length) i ∧
      cell.reference = if j = 0 then some e.row.id else none

/-- Drawing rows under the header of the snapshot maps every column. -/
theorem mapsColumns_draw (t : LiveTable) {shown : Snapshot} (h : shown.header = t.data.header) :
    (t.draw shown).MapsColumns := by
  have hlength : (t.draw shown).plan.header.length = (t.draw shown).plan.indices.length := by
    rw [draw_plan]
    exact ColumnOptions.length_header _ _
  have hcolumn : ∀ j i : Nat, (t.draw shown).plan.indices[j]? = some i →
      i < t.data.header.length ∧ (t.draw shown).plan.header[j]? = t.data.header[i]? := by
    intro j i hi
    rw [draw_plan] at hi ⊢
    rw [← h]
    refine ⟨?_, ColumnOptions.getElem?_header _ _ hi⟩
    have hsome := ColumnOptions.isSome_of_mem_indices _ _ (List.mem_of_getElem? hi)
    simpa using hsome
  refine ⟨?_, hlength, ?_, ?_, ?_, ?_⟩
  · rw [draw_head, headCells, List.length_map]
    exact hlength
  · rw [draw_grid, List.length_map]
  · rw [draw_data]
    exact hcolumn
  · intro r cells hcells
    rw [draw_grid, List.getElem?_map] at hcells
    obtain ⟨e, -, rfl⟩ := Option.map_eq_some_iff.1 hcells
    exact Rendering.length_cells _ e hlength
  · intro r j i e c he hi hc
    rw [draw_data] at hc ⊢
    obtain ⟨hlt, hheader⟩ := hcolumn j i hi
    obtain ⟨cell, hcell, hshows, hreference⟩ :=
      (t.draw shown).rendering.exists_cell e hi (hheader.trans hc)
    exact ⟨_, cell, getElem?_draw_grid t shown he, hcell, hshows, hshows.cutTo hlt, hreference⟩

/-- A new table has no columns. -/
theorem mapsColumns_new (kind : String) : ({ kind } : LiveTable).MapsColumns where
  head := rfl
  header := rfl
  grid := rfl
  column := nofun
  width := nofun
  cell := nofun

variable [Engine]

/-- Drawing a table anew maps every column, whatever the table was before. -/
theorem mapsColumns_refresh (t : LiveTable) : t.refresh.MapsColumns := by
  obtain ⟨query, lastError, shown, hdraw, hheader⟩ := exists_draw_header t
  rw [hdraw]
  exact mapsColumns_draw _ hheader

/-- What does not draw the table leaves the plan, the cells, the rows and the snapshot. -/
theorem mapsColumns_apply (t : LiveTable) (op : Operation) (h : t.MapsColumns) :
    (t.apply op).1.MapsColumns := by
  apply apply_of_refresh op mapsColumns_refresh
  intros
  exact ⟨h.head, h.header, h.grid, h.column, h.width, h.cell⟩

/-- Whatever operations a table has been through, its cells are about the fields of the columns
that they stand under. -/
theorem mapsColumns_run (kind : String) (ops : List Operation) :
    (({ kind } : LiveTable).run ops).MapsColumns :=
  run_induction (mapsColumns_new kind) mapsColumns_apply ops

end LiveTable

end ResourceBrowser.Table
