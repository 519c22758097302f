import ResourceBrowser.Proofs.Table.Plan
import ResourceBrowser.Table.Operation

/-!
# Drawings and operations

What a drawing makes of the settings of a table, and what an operation can do to a table at all.

* `draw_visible`, `draw_resolve?`, `draw_grid`, `draw_head`: what is on display after a drawing.
* `exists_draw`: drawing anew is drawing what the faults mode and a valid query leave.
* `apply_cases`: an operation draws the table anew, moves the selection, or changes settings that
  only the next drawing reads. The other results about operations split on these three.
-/

namespace ResourceBrowser.Table

namespace LiveTable

variable (t : LiveTable) (shown : Snapshot)

/-! ## Settling the selection -/

/-- Settling picks a row that is shown, if there is any. -/
theorem settleSelection_eq : ∃ i, i ≤ t.visible.rows.length - 1 ∧
    t.settleSelection =
      match t.visible.rows[i]? with
      | some e => { t with selected := i, trackedId := some e.row.id }
      | none => { t with selected := 0, trackedId := none } :=
  ⟨_, Nat.min_le_right _ _, rfl⟩

/-- Settling the selection changes the selection only. -/
theorem settleSelection_frame :
    ∃ selected trackedId, t.settleSelection = { t with selected, trackedId } := by
  obtain ⟨i, -, h⟩ := settleSelection_eq t
  rw [h]
  split
  · exact ⟨_, _, rfl⟩
  · exact ⟨_, _, rfl⟩

/-- The selection is on the row whose id is tracked; without rows there is none. -/
def IsSettled (t : LiveTable) : Prop :=
  match t.visible.rows[t.selected]? with
  | some e => t.trackedId = some e.row.id
  | none => t.visible.rows = [] ∧ t.selected = 0 ∧ t.trackedId = none

theorem isSettled_settleSelection : t.settleSelection.IsSettled := by
  obtain ⟨i, hi, h⟩ := settleSelection_eq t
  rw [h]
  cases hrow : t.visible.rows[i]? with
  | some e => simp [IsSettled, hrow]
  | none =>
    have hempty : t.visible.rows = [] := by
      rw [List.getElem?_eq_none_iff] at hrow
      apply List.eq_nil_of_length_eq_zero
      omega
    simp [IsSettled, hempty]

/-- Moving the selection changes the selection only. -/
theorem select_frame (i : Nat) :
    ∃ selected trackedId, t.select i = { t with selected, trackedId } :=
  settleSelection_frame { t with selected := i, trackedId := none }

theorem select_filtering (i : Nat) : (t.select i).filtering = t.filtering := by
  obtain ⟨_, _, h⟩ := select_frame t i
  rw [h]

/-- A new table has no rows, and none is selected. -/
theorem isSettled_new (kind : String) : ({ kind } : LiveTable).IsSettled := ⟨rfl, rfl, rfl⟩

/-- Without a tracked row there are no rows, and the selection is at the start. -/
theorem untracked_of_isSettled {t : LiveTable} (h : t.IsSettled) (hid : t.trackedId = none) :
    t.visible.rows = [] ∧ t.selected = 0 := by
  unfold IsSettled at h
  split at h
  · rw [hid] at h
    cases h
  · exact ⟨h.1, h.2.1⟩

theorem rows_eq_nil_of_isSettled {t : LiveTable} (h : t.IsSettled) (hid : t.trackedId = none) :
    t.visible.rows = [] :=
  (untracked_of_isSettled h hid).1

/-- The tracked row is on display. -/
theorem mem_visible_ids_of_isSettled {t : LiveTable} (h : t.IsSettled) {id : String}
    (hid : t.trackedId = some id) : id ∈ t.visible.ids := by
  unfold IsSettled at h
  split at h
  · rename_i e he
    rw [hid] at h
    cases h
    exact List.mem_map_of_mem (List.mem_of_getElem? he)
  · rw [hid] at h
    cases h.2.2

/-! ## Drawing -/

/-- Drawing keeps the snapshot and the settings, apart from the sort column. -/
theorem draw_frame : ∃ sort fellBack visible plan head grid selected trackedId,
    t.draw shown =
      { t with sort, fellBack, visible, plan, head, grid, selected, trackedId } := by
  unfold draw
  obtain ⟨selected, trackedId, h⟩ := settleSelection_frame _
  exact ⟨_, _, _, _, _, _, selected, trackedId, h⟩

@[simp] theorem draw_data : (t.draw shown).data = t.data := by
  obtain ⟨_, _, _, _, _, _, _, _, h⟩ := draw_frame t shown
  rw [h]

@[simp] theorem draw_query : (t.draw shown).query = t.query := by
  obtain ⟨_, _, _, _, _, _, _, _, h⟩ := draw_frame t shown
  rw [h]

@[simp] theorem draw_faultsOnly : (t.draw shown).faultsOnly = t.faultsOnly := by
  obtain ⟨_, _, _, _, _, _, _, _, h⟩ := draw_frame t shown
  rw [h]

@[simp] theorem draw_columnOptions : (t.draw shown).columnOptions = t.columnOptions := by
  obtain ⟨_, _, _, _, _, _, _, _, h⟩ := draw_frame t shown
  rw [h]
  rfl

theorem draw_plan : (t.draw shown).plan = t.columnOptions.plan shown.header := by
  unfold draw
  obtain ⟨selected, trackedId, h⟩ := settleSelection_frame _
  rw [h]

/-- The direction of sorting is kept, and a column that is not shown is replaced by the first one. -/
theorem draw_sort : (t.draw shown).sort =
    match t.sort.resolve? shown.header (t.draw shown).plan.indices with
    | some ⟨_, _, true⟩ =>
      { t.sort with
        column := ((t.draw shown).plan.header.head?.map (·.name)).getD t.sort.column }
    | _ => t.sort := by
  rw [draw_plan]
  unfold draw
  obtain ⟨selected, trackedId, h⟩ := settleSelection_frame _
  rw [h]
  dsimp only
  rcases t.sort.resolve? shown.header (t.columnOptions.plan shown.header).indices with
    _ | ⟨index, isAge, fallback⟩
  · rfl
  · cases fallback
    · rfl
    · cases (t.columnOptions.plan shown.header).header.head? <;> rfl

/-- After a drawing, the sort key finds the column that was found before, without falling back. -/
theorem draw_resolve? : (t.draw shown).sort.resolve? shown.header (t.draw shown).plan.indices =
    (t.sort.resolve? shown.header (t.draw shown).plan.indices).map
      ({ · with fallback := false }) := by
  have hplan := draw_plan t shown
  cases h : t.sort.resolve? shown.header (t.draw shown).plan.indices with
  | none =>
    rw [SortKey.resolve?_eq_none_iff] at h
    rw [h]
    rfl
  | some target =>
    -- the column in use is one of the plan, and the new key names it
    have hmem := SortKey.mem_of_resolve? h
    obtain ⟨c, hc⟩ := Option.isSome_iff_exists.1
      (ColumnOptions.isSome_of_mem_indices t.columnOptions shown.header (hplan ▸ hmem))
    have hsort : (t.draw shown).sort =
        { t.sort with column := if target.fallback then c.name else t.sort.column } := by
      rw [draw_sort, h]
      rcases target with ⟨index, isAge, _ | _⟩
      · rfl
      · have hhead := SortKey.head?_of_resolve? h rfl
        rw [hplan] at hhead ⊢
        rw [ColumnOptions.head?_header _ _ hhead, hc]
        rfl
    rw [hsort]
    exact SortKey.resolve?_column h hc

theorem draw_ascending : (t.draw shown).sort.ascending = t.sort.ascending := by
  rw [draw_sort]
  split <;> rfl

theorem draw_fellBack : (t.draw shown).fellBack =
    ((t.sort.resolve? shown.header (t.draw shown).plan.indices).map (·.fallback)).getD false := by
  rw [draw_plan]
  unfold draw
  obtain ⟨selected, trackedId, h⟩ := settleSelection_frame _
  rw [h]

/-- The rows on display: as they are if the query ranks them or no column is shown, and else sorted
by the column that the sort key finds. -/
theorem draw_visible : (t.draw shown).visible = shown.withRows
    (match t.sort.resolve? shown.header (t.draw shown).plan.indices with
    | some target =>
      if (Query.read t.query).ranks then shown.rows
      else sortRows shown.rows target.index target.isAge t.sort.ascending
    | none => shown.rows) := by
  rw [← draw_ascending t shown, draw_plan]
  unfold draw
  obtain ⟨selected, trackedId, h⟩ := settleSelection_frame _
  rewrite [h]
  rfl

/-- What the cells of a table depend on. -/
def rendering (t : LiveTable) : Rendering :=
  ⟨t.data.header, t.plan, t.plan.widths t.visible.rows, t.colorer, t.data.ns, t.marks⟩

/-- The cells on display are those of the rows on display. -/
theorem draw_grid :
    (t.draw shown).grid = (t.draw shown).visible.rows.map (t.draw shown).rendering.cells := by
  unfold draw
  obtain ⟨selected, trackedId, h⟩ := settleSelection_frame _
  rw [h]
  rfl

theorem getElem?_draw_grid {r : Nat} {e : RowEvent}
    (h : (t.draw shown).visible.rows[r]? = some e) :
    (t.draw shown).grid[r]? = some ((t.draw shown).rendering.cells e) := by
  rw [draw_grid, List.getElem?_map, h, Option.map_some]

/-- The cells above the columns are those of the columns on display, for the sort key in use. -/
theorem draw_head :
    (t.draw shown).head = headCells (t.draw shown).plan (t.draw shown).sort := by
  unfold draw
  obtain ⟨selected, trackedId, h⟩ := settleSelection_frame _
  rw [h]

theorem isSettled_draw : (t.draw shown).IsSettled := by
  unfold draw
  exact isSettled_settleSelection _

/-! ## Drawing anew -/

variable [Engine]

/-- The empty query leaves every row. -/
theorem filter_empty (s : Snapshot) : s.filter "" = .ok s := rfl

/-- Drawing anew is drawing what the faults mode and the query leave; a query that cannot be read
is dropped first. -/
theorem exists_draw : ∃ query lastError shown,
    t.refresh = { t with query, lastError }.draw shown ∧ t.base.filter query = .ok shown := by
  unfold refresh redraw
  cases h : t.base.filter t.query with
  | ok shown => exact ⟨t.query, t.lastError, shown, rfl, h⟩
  | error e => exact ⟨"", some e.text, t.base, rfl, filter_empty _⟩

/-- Drawing anew keeps the snapshot and the settings, apart from the query and the sort column. -/
theorem refresh_frame :
    ∃ query lastError sort fellBack visible plan head grid selected trackedId,
      t.refresh = { t with
        query, lastError, sort, fellBack, visible, plan, head, grid, selected, trackedId } := by
  obtain ⟨query, lastError, shown, hdraw, -⟩ := exists_draw t
  obtain ⟨_, _, _, _, _, _, _, _, hframe⟩ := draw_frame { t with query, lastError } shown
  rw [hdraw, hframe]
  exact ⟨_, _, _, _, _, _, _, _, _, _, rfl⟩

theorem refresh_data : t.refresh.data = t.data := by
  obtain ⟨_, _, _, _, _, _, _, _, _, _, h⟩ := refresh_frame t
  rw [h]

theorem refresh_decorate : t.refresh.decorate = t.decorate := by
  obtain ⟨_, _, _, _, _, _, _, _, _, _, h⟩ := refresh_frame t
  rw [h]

theorem refresh_marks : t.refresh.marks = t.marks := by
  obtain ⟨_, _, _, _, _, _, _, _, _, _, h⟩ := refresh_frame t
  rw [h]

theorem refresh_filtering : t.refresh.filtering = t.filtering := by
  obtain ⟨_, _, _, _, _, _, _, _, _, _, h⟩ := refresh_frame t
  rw [h]

theorem refresh_colorer : t.refresh.colorer = t.colorer := by
  obtain ⟨_, _, _, _, _, _, _, _, _, _, h⟩ := refresh_frame t
  rw [h]

theorem refresh_faultsOnly : t.refresh.faultsOnly = t.faultsOnly := by
  obtain ⟨_, _, _, _, _, _, _, _, _, _, h⟩ := refresh_frame t
  rw [h]

theorem refresh_columnOptions : t.refresh.columnOptions = t.columnOptions := by
  obtain ⟨_, _, _, _, _, _, _, _, _, _, h⟩ := refresh_frame t
  rw [h]
  rfl

/-! ## Operations -/

/-- Typing into the query replaces it, if input is taken. -/
theorem typeFilter_fst (c : Char) :
    (t.typeFilter c).1 = if t.filtering then (t.setQuery (t.query.push c)).1 else t := by
  unfold typeFilter
  cases t.filtering with
  | false => rfl
  | true =>
    simp only [if_true]
    rcases t.setQuery (t.query.push c) with ⟨u, _ | e⟩ <;> rfl

theorem apply_typeFilter (c : Char) :
    (t.apply (.typeFilter c)).1 = if t.filtering then (t.setQuery (t.query.push c)).1 else t := by
  have happly : (t.apply (.typeFilter c)).1 = (t.typeFilter c).1 := by
    unfold apply
    dsimp only
    rcases t.typeFilter c with ⟨u, e | taken⟩ <;> rfl
  rw [happly, typeFilter_fst]

/-- Without a selected row there is nothing to mark. -/
theorem toggleMark_cases : t.trackedId = none ∧ t.toggleMark = t ∨
    ∃ u : LiveTable, t.toggleMark = u.refresh ∧ u.sort = t.sort := by
  unfold toggleMark
  cases h : t.trackedId with
  | none => exact .inl ⟨rfl, rfl⟩
  | some id => exact .inr ⟨_, rfl, rfl⟩

/-- What an operation can do to a table. -/
theorem apply_cases (op : Operation) :
    -- It draws the table anew from some settings.
    (∃ u : LiveTable, (t.apply op).1 = u.refresh) ∨
    -- It moves the selection.
    (∃ i, (t.apply op).1 = t.select i) ∨
    -- It changes what only the next drawing reads.
    (∃ path colorer decorate metrics sort filtering lastError, (t.apply op).1 =
      { t with path, colorer, decorate, metrics, sort, filtering, lastError }) := by
  cases op with
  | update _ | setKind _ | setViewColumns _ | refresh | eraseFilter | setQuery _ | clearFilter
  | toggleWide | toggleFaults | resetFaults | sortBy _ _ | invertSort | clearMarks =>
    exact .inl ⟨_, rfl⟩
  | up _ | down _ | home | last => exact .inr (.inl ⟨_, rfl⟩)
  | noteError _ | setPath _ | setColorer _ | setDecorate _ | setMetrics _ | setSort _ _
  | activateFilter | deactivateFilter | takeError =>
    exact .inr (.inr ⟨_, _, _, _, _, _, _, rfl⟩)
  | typeFilter c =>
    rw [apply_typeFilter]
    split
    · exact .inl ⟨_, rfl⟩
    · exact .inr (.inr ⟨_, _, _, _, _, _, _, rfl⟩)
  | toggleMark =>
    rcases toggleMark_cases t with ⟨-, h⟩ | ⟨u, h, -⟩
    · exact .inr (.inr ⟨_, _, _, _, _, _, _, h⟩)
    · exact .inl ⟨u, h⟩

/-- What every drawing brings about holds after every operation, if it does not depend on what the
next drawing reads or on the selection. -/
theorem apply_of_refresh {P : LiveTable → Prop} {t : LiveTable} (op : Operation)
    (hdrawn : ∀ u : LiveTable, P u.refresh)
    (hkept : ∀ path colorer decorate metrics sort filtering selected trackedId lastError, P
      { t with path, colorer, decorate, metrics, sort, filtering, selected, trackedId, lastError }) :
    P (t.apply op).1 := by
  rcases apply_cases t op with ⟨u, hu⟩ | ⟨i, hi⟩ | ⟨_, _, _, _, _, _, _, hset⟩
  · rw [hu]
    exact hdrawn u
  · -- a move of the selection
    obtain ⟨selected, trackedId, hsel⟩ := select_frame t i
    rw [hi, hsel]
    exact hkept _ _ _ _ _ _ _ _ _
  · -- a change of settings
    rw [hset]
    exact hkept _ _ _ _ _ _ _ _ _

/-- What holds of a table and is kept by every operation holds after every history. -/
theorem run_induction {P : LiveTable → Prop} {t : LiveTable} (h : P t)
    (hstep : ∀ (t : LiveTable) (op : Operation), P t → P (t.apply op).1)
    (ops : List Operation) : P (t.run ops) := by
  induction ops generalizing t with
  | nil => exact h
  | cons op ops ih => exact ih (hstep t op h)

/-- Every operation leaves the selection settled: it settles the selection, or it changes neither
the rows on display nor the selection. -/
theorem isSettled_apply (t : LiveTable) (op : Operation) (h : t.IsSettled) :
    (t.apply op).1.IsSettled := by
  rcases apply_cases t op with ⟨u, hu⟩ | ⟨i, hi⟩ | ⟨_, _, _, _, _, _, _, hset⟩
  · -- a drawing
    obtain ⟨query, lastError, shown, hdraw, -⟩ := exists_draw u
    rw [hu, hdraw]
    exact isSettled_draw _ shown
  · -- a move of the selection
    rw [hi]
    exact isSettled_settleSelection _
  · -- a change of settings
    rw [hset]
    exact h

end LiveTable

end ResourceBrowser.Table
