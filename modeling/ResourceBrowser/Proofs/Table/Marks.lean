import ResourceBrowser.Proofs.Table.VisibleRows

/-!
# Marks

A mark is set on the selected row and goes by the id of the row from then on. It lasts as long as
the snapshots that come in have a row of that id, whether the row is on display or not.

* `LiveMarks`: marks are ids of rows of the snapshot, `liveMarks_apply`.
* `IsColored`: how marks show, `isColored_refresh`.
* `TracksMarks`: what holds of the marks, `tracksMarks_run`.
-/

namespace ResourceBrowser.Table

theorem Snapshot.isSome_find?_iff (s : Snapshot) (id : String) :
    (s.find? id).isSome ↔ id ∈ s.ids := by
  simp [find?, ids]

/-- All cells of a row have one color. -/
theorem Rendering.color_of_mem_cells (r : Rendering) (e : RowEvent) {cell : Cell}
    (h : cell ∈ r.cells e) : cell.color = r.color e := by
  unfold cells at h
  obtain ⟨j, hj, rfl⟩ := List.mem_mapIdx.1 h
  rfl

namespace LiveTable

variable {t : LiveTable}

/-! ## Marks and the snapshot -/

/-- Every mark is the id of a row of the snapshot, and there is one for each marked id. -/
structure LiveMarks (t : LiveTable) : Prop where
  live (id : String) : id ∈ t.marks → id ∈ t.data.ids
  once : t.marks.Nodup

/-- The marks in order of the snapshot are the marks. -/
theorem marked_perm (h : t.LiveMarks) (hids : t.data.ids.Nodup) : t.marked.Perm t.marks := by
  have hmarked : t.marked.Nodup := hids.filter _
  rw [List.perm_ext_iff_of_nodup hmarked h.once]
  intro id
  have hmem : id ∈ t.marked ↔ id ∈ t.data.ids ∧ id ∈ t.marks := by
    simp [marked, isMarked]
  rw [hmem]
  exact ⟨And.right, fun hid => ⟨h.live id hid, hid⟩⟩

/-! ## Colors -/

/-- The color that a row has to have: that of unhealthy rows is never hidden, and a mark hides every
other one. -/
def rowColor (t : LiveTable) (e : RowEvent) : Color :=
  match t.colorer t.data.ns t.data.header e with
  | .error => .error
  | own => if e.row.id ∈ t.marks then .marked else own

/-- Every row on display has its cells, all in its color. -/
def IsColored (t : LiveTable) : Prop :=
  ∀ (r : Nat) (e : RowEvent), t.visible.rows[r]? = some e →
    ∃ cells, t.grid[r]? = some cells ∧ ∀ cell ∈ cells, cell.color = t.rowColor e

theorem color_rendering (t : LiveTable) (e : RowEvent) : t.rendering.color e = t.rowColor e := by
  unfold Rendering.color rowColor rendering
  dsimp only
  cases t.colorer t.data.ns t.data.header e <;> simp

theorem isColored_draw (t : LiveTable) (shown : Snapshot) : (t.draw shown).IsColored := by
  intro r e he
  refine ⟨_, getElem?_draw_grid t shown he, ?_⟩
  intro cell hcell
  rw [Rendering.color_of_mem_cells _ e hcell, color_rendering]

/-! ## Snapshots that come in -/

/-- What a table makes of a snapshot that comes in. -/
def incoming (t : LiveTable) (data : Snapshot) : Snapshot := t.decorate.getD id data

variable [Engine]

theorem update_eq_refresh (t : LiveTable) (data : Snapshot) : t.update data =
    ({ t with
      data := t.incoming data
      marks := t.marks.filter fun id => ((t.incoming data).find? id).isSome } :
        LiveTable).refresh := by
  unfold update incoming
  cases t.decorate <;> rfl

theorem update_data_eq (t : LiveTable) (data : Snapshot) :
    (t.update data).data = t.incoming data := by
  rw [update_eq_refresh, refresh_data]

/-- A snapshot that comes in takes away the marks of rows that it does not have, and no other. -/
theorem mem_marks_update (t : LiveTable) (data : Snapshot) (id : String) :
    id ∈ (t.update data).marks ↔ id ∈ t.marks ∧ id ∈ (t.incoming data).ids := by
  rw [update_eq_refresh, refresh_marks, List.mem_filter, Snapshot.isSome_find?_iff]

/-! ## Marks after operations -/

theorem LiveMarks.refresh (h : t.LiveMarks) : t.refresh.LiveMarks := by
  refine ⟨?_, ?_⟩
  · rw [refresh_marks, refresh_data]
    exact h.live
  · rw [refresh_marks]
    exact h.once

theorem liveMarks_update (h : t.LiveMarks) (data : Snapshot) : (t.update data).LiveMarks := by
  refine ⟨?_, ?_⟩
  · intro id hid
    rw [update_data_eq]
    exact ((mem_marks_update t data id).1 hid).2
  · rw [update_eq_refresh, refresh_marks]
    exact h.once.filter _

/-- The tracked row is a row of the snapshot. -/
theorem mem_ids_of_trackedId (hsettled : t.IsSettled) (hholds : t.HoldsWanted) {id : String}
    (h : t.trackedId = some id) : id ∈ t.data.ids := by
  obtain ⟨e, he, rfl⟩ := List.mem_map.1 (mem_visible_ids_of_isSettled hsettled h)
  exact List.mem_map_of_mem (mem_data_of_mem_visible hholds he)

theorem liveMarks_toggleMark (hsettled : t.IsSettled) (hholds : t.HoldsWanted)
    (h : t.LiveMarks) : t.toggleMark.LiveMarks := by
  unfold toggleMark
  split
  · exact h
  · rename_i id hid
    apply LiveMarks.refresh
    by_cases hmarked : id ∈ t.marks
    · -- the mark is taken away
      have hcontains : t.marks.contains id = true := List.contains_iff_mem.2 hmarked
      simp only [hcontains, if_true]
      exact ⟨fun other hother => h.live other (List.mem_of_mem_filter hother), h.once.filter _⟩
    · -- the tracked row is marked
      have hcontains : t.marks.contains id = false := by
        rwa [← Bool.not_eq_true, List.contains_iff_mem]
      simp only [hcontains, Bool.false_eq_true, if_false]
      refine ⟨?_, List.nodup_cons.2 ⟨hmarked, h.once⟩⟩
      intro other hother
      rcases List.mem_cons.1 hother with rfl | hother
      · exact mem_ids_of_trackedId hsettled hholds hid
      · exact h.live other hother

/-- An operation that leaves marks and snapshot alone leaves the marks live; the others take marks
away, or mark the tracked row. -/
theorem liveMarks_apply (op : Operation) (hsettled : t.IsSettled) (hholds : t.HoldsWanted)
    (h : t.LiveMarks) : (t.apply op).1.LiveMarks := by
  have hselect : ∀ i : Nat, (t.select i).LiveMarks := by
    intro i
    obtain ⟨selected, trackedId, hsel⟩ := select_frame t i
    rw [hsel]
    exact ⟨h.live, h.once⟩
  cases op with
  | update data => exact liveMarks_update h data
  | toggleMark => exact liveMarks_toggleMark hsettled hholds h
  | setKind _ | clearMarks => exact .refresh ⟨nofun, List.nodup_nil⟩
  | setViewColumns _ | refresh | eraseFilter | setQuery _ | clearFilter | toggleWide | toggleFaults
  | resetFaults | sortBy _ _ | invertSort => exact .refresh ⟨h.live, h.once⟩
  | typeFilter c =>
    rw [apply_typeFilter]
    split
    · exact .refresh ⟨h.live, h.once⟩
    · exact h
  | up _ | down _ | home | last => exact hselect _
  | noteError _ | setPath _ | setColorer _ | setDecorate _ | setMetrics _ | setSort _ _
  | activateFilter | deactivateFilter | takeError => exact ⟨h.live, h.once⟩

/-! ## After a history -/

/-- Drawing a table anew colors every row, whatever the table was before. -/
theorem isColored_refresh (t : LiveTable) : t.refresh.IsColored := by
  obtain ⟨query, lastError, shown, hdraw, -⟩ := exists_draw t
  rw [hdraw]
  exact isColored_draw _ shown

/-- Marks are ids of rows of the snapshot, last as long as these rows, and show after a drawing. -/
structure TracksMarks (t : LiveTable) : Prop extends LiveMarks t where
  came (data : Snapshot) : (t.update data).data = t.incoming data
  kept (data : Snapshot) (id : String) :
    id ∈ (t.update data).marks ↔ id ∈ t.marks ∧ id ∈ (t.incoming data).ids
  /-- If ids are not repeated, every mark is listed once, in order of the snapshot. -/
  listed : t.data.ids.Nodup → t.marked.Perm t.marks ∧ t.marked.Sublist t.data.ids
  colored (op : Operation) : op.draws t = true → (t.apply op).1.IsColored

theorem tracksMarks_of_liveMarks (h : t.LiveMarks) : t.TracksMarks := by
  refine { h with
    came := update_data_eq t, kept := mem_marks_update t, listed := ?_, colored := ?_ }
  · intro hids
    exact ⟨marked_perm h hids, List.filter_sublist⟩
  · intro op hop
    obtain ⟨u, hu, -⟩ := exists_refresh_of_draws hop
    rw [hu]
    exact isColored_refresh u

/-- Whatever operations a table has been through, its marks track the rows of the snapshot. -/
theorem tracksMarks_run (kind : String) (ops : List Operation) :
    (({ kind } : LiveTable).run ops).TracksMarks := by
  have hnew : ({ kind } : LiveTable).LiveMarks := ⟨nofun, List.nodup_nil⟩
  -- which rows can be marked is known of settled tables that display rows of the snapshot
  have hstep : ∀ (t : LiveTable) (op : Operation), t.IsSettled ∧ t.HoldsWanted ∧ t.LiveMarks →
      (t.apply op).1.IsSettled ∧ (t.apply op).1.HoldsWanted ∧ (t.apply op).1.LiveMarks := by
    rintro t op ⟨hsettled, hholds, hlive⟩
    exact ⟨isSettled_apply t op hsettled, holdsWanted_apply t op hholds,
      liveMarks_apply op hsettled hholds hlive⟩
  obtain ⟨-, -, hlive⟩ :=
    run_induction ⟨isSettled_new kind, holdsWanted_new kind, hnew⟩ hstep ops
  exact tracksMarks_of_liveMarks hlive

end LiveTable

end ResourceBrowser.Table
