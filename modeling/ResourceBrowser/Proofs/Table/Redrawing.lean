import ResourceBrowser.Proofs.Table.Tracking

/-!
# Drawing again

A drawing reads settings that it writes itself: it drops a query that cannot be read, it puts
another sort column in the place of one that is not shown, and it moves the selection. Still nothing
is left to be done after one drawing. The next one finds the query valid, the sort column shown and
the selected row where it is, and makes the same display.

* `draw_settled`: drawing with the sort key that a drawing has settled makes the same display.
* `draw_draw`, `refresh_refresh`: drawing the same rows again, and drawing a table anew again.
* `refresh_refresh_run`: drawing again after any history.
-/

namespace ResourceBrowser.Table.LiveTable

variable (t : LiveTable) (shown : Snapshot)

/-! ## Drawing with a settled sort key -/

/-- A table without the note that it had to sort by another column than asked for. -/
def steady (t : LiveTable) : LiveTable := { t with fellBack := false }

theorem settleSelection_steady : t.steady.settleSelection = t.settleSelection.steady := by
  unfold settleSelection steady
  dsimp only
  split <;> rfl

/-- A table with what a drawing makes of it, before the selection is settled. -/
def laidOut (t : LiveTable) (shown : Snapshot) : LiveTable :=
  let d := t.draw shown
  let rendering : Rendering :=
    ⟨t.data.header, d.plan, d.plan.widths d.visible.rows, t.colorer, t.data.ns, t.marks⟩
  { t with
    sort := d.sort, fellBack := d.fellBack, plan := d.plan, visible := d.visible
    head := headCells d.plan d.sort
    grid := d.visible.rows.map rendering.cells }

/-- The cells follow from the sort key, the columns and the rows that a drawing settles on. -/
theorem draw_eq_laidOut : t.draw shown = (t.laidOut shown).settleSelection := by
  obtain ⟨u, hdraw, hu⟩ : ∃ u : LiveTable, t.draw shown = u.settleSelection ∧ u =
      { t with
        sort := u.sort, fellBack := u.fellBack, plan := u.plan, visible := u.visible
        head := headCells u.plan u.sort
        grid := u.visible.rows.map (Rendering.mk t.data.header u.plan (u.plan.widths u.visible.rows)
          t.colorer t.data.ns t.marks).cells } := ⟨_, rfl, rfl⟩
  -- settling the selection changes none of these fields
  obtain ⟨selected, trackedId, hframe⟩ := settleSelection_frame u
  unfold laidOut
  rw [hdraw, hframe]
  dsimp only
  rw [← hu, hframe]

/-- The sort key that a drawing settles depends on the header, and not on the rows. -/
theorem draw_sort_congr {u : LiveTable} {other : Snapshot} (hsort : t.sort = u.sort)
    (hoptions : t.columnOptions = u.columnOptions) (hheader : shown.header = other.header) :
    (t.draw shown).sort = (u.draw other).sort := by
  simp only [draw_sort, draw_plan, hsort, hoptions, hheader]

/-- Drawing with the sort key that a drawing has settled makes the same display, and there is
nothing to fall back from. -/
theorem draw_settled : ({ t with sort := (t.draw shown).sort } : LiveTable).draw shown =
    (t.draw shown).steady := by
  have hplan : (({ t with sort := (t.draw shown).sort } : LiveTable).draw shown).plan =
      (t.draw shown).plan := by
    rw [draw_plan, draw_plan]
    rfl
  -- the settled key finds the column that was found before, if one was
  have hresolve := draw_resolve? t shown
  have hsort : (({ t with sort := (t.draw shown).sort } : LiveTable).draw shown).sort =
      (t.draw shown).sort := by
    rw [draw_sort, hplan]
    dsimp only
    rw [hresolve]
    cases t.sort.resolve? shown.header (t.draw shown).plan.indices <;> rfl
  have hfell : (({ t with sort := (t.draw shown).sort } : LiveTable).draw shown).fellBack =
      false := by
    rw [draw_fellBack, hplan]
    dsimp only
    rw [hresolve]
    cases t.sort.resolve? shown.header (t.draw shown).plan.indices <;> rfl
  have hvisible : (({ t with sort := (t.draw shown).sort } : LiveTable).draw shown).visible =
      (t.draw shown).visible := by
    rw [draw_visible, hplan, draw_visible t]
    dsimp only
    rw [hresolve, draw_ascending]
    cases t.sort.resolve? shown.header (t.draw shown).plan.indices <;> rfl
  have hlaid : ({ t with sort := (t.draw shown).sort } : LiveTable).laidOut shown =
      (t.laidOut shown).steady := by
    simp only [laidOut, steady, hplan, hsort, hfell, hvisible]
  rw [draw_eq_laidOut, hlaid, settleSelection_steady, ← draw_eq_laidOut]

/-! ## Drawing what was drawn -/

/-- Where the selection is before a drawing matters for where it is settled, and for nothing
else. -/
theorem draw_selection (selected : Nat) (trackedId : Option String) :
    ({ t with selected, trackedId } : LiveTable).draw shown =
      ({ t.draw shown with selected, trackedId } : LiveTable).settleSelection := by
  obtain ⟨u, hdraw, hmoved⟩ : ∃ u : LiveTable, t.draw shown = u.settleSelection ∧
      ({ t with selected, trackedId } : LiveTable).draw shown =
        ({ u with selected, trackedId } : LiveTable).settleSelection := ⟨_, rfl, rfl⟩
  obtain ⟨_, _, hframe⟩ := settleSelection_frame u
  rw [hmoved, hdraw, hframe]

/-- Drawing the same rows again settles the selection again. -/
theorem draw_draw : (t.draw shown).draw shown = (t.draw shown).settleSelection.steady := by
  obtain ⟨_, _, _, _, _, _, selected, trackedId, hframe⟩ := draw_frame t shown
  -- of what was drawn, only the sort key and the selection are read
  have hread : (t.draw shown).draw shown =
      ({ ({ t with sort := (t.draw shown).sort } : LiveTable) with selected, trackedId } :
        LiveTable).draw shown := by
    rw [hframe]
    rfl
  have hsame : ({ (t.draw shown).steady with selected, trackedId } : LiveTable) =
      (t.draw shown).steady := by
    rw [hframe]
    rfl
  rw [hread, draw_selection, draw_settled, hsame, settleSelection_steady]

variable [Engine] {t shown}

/-- A drawing of rows that a query leaves is drawn anew from these rows. -/
theorem refresh_draw (h : t.base.filter t.query = .ok shown) :
    (t.draw shown).refresh = (t.draw shown).draw shown := by
  obtain ⟨_, _, _, _, _, _, _, _, hframe⟩ := draw_frame t shown
  have hagain : (t.draw shown).base.filter (t.draw shown).query = .ok shown := by
    rw [hframe]
    exact h
  unfold refresh redraw
  rw [hagain]

/-- Drawing a table twice settles the selection twice. -/
theorem refresh_refresh_eq (t : LiveTable) :
    t.refresh.refresh = t.refresh.settleSelection.steady := by
  obtain ⟨query, lastError, shown, hdraw, hfilter⟩ := exists_draw t
  rw [hdraw]
  have hanew := refresh_draw (t := { t with query, lastError }) hfilter
  rw [hanew, draw_draw]

/-- Drawing a table twice is drawing it once, and the second time there is nothing to fall back
from. -/
theorem refresh_refresh (h : t.trackedId = none → t.selected = 0) :
    t.refresh.refresh = t.refresh.steady := by
  obtain ⟨u, hu, hid, hselected⟩ := refresh_eq_settleSelection t
  have hfirst : u.trackedId = none → u.selected = 0 := by
    intro hnone
    exact hselected.trans (h (hid.symm.trans hnone))
  rw [refresh_refresh_eq, hu, settleSelection_settleSelection hfirst]

/-! ## After a history -/

/-- Whatever operations a table has been through, drawing it twice leaves everything as drawing it
once does, except that the second time no other column has to stand in for the sort column. -/
theorem refresh_refresh_run (kind : String) (ops : List Operation) :
    (({ kind } : LiveTable).run ops).refresh.refresh =
      { (({ kind } : LiveTable).run ops).refresh with fellBack := false } := by
  have hsettled := run_induction (isSettled_new kind) isSettled_apply ops
  apply refresh_refresh
  intro hid
  -- nothing is tracked only where there are no rows
  exact (untracked_of_isSettled hsettled hid).2

end ResourceBrowser.Table.LiveTable
