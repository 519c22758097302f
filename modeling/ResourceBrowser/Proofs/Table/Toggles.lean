import ResourceBrowser.Proofs.Table.Redrawing

/-!
# Toggling twice

Toggling something twice brings the view back. Each toggle draws the table anew, and the drawing
writes back into the settings, so the second toggle starts from what the first drawing has left.
What makes it work is that a drawing reads certain settings and nothing else, and that on a table
that is drawn already it leaves these settings alone: the query can be read, and the sort column is
shown.

* `SameSettings`, `SameView`: what a drawing reads and what it makes of it, `sameView_refresh`.
* `IsCurrent`: a table that has been drawn from the settings that it has, `isCurrent_refresh`.
* `sameSettings_refresh`: where a drawing leaves the settings alone.
* `TogglesBack`: what toggling twice comes to, `togglesBack_of_isCurrent`, and after every history,
  `togglesBack_of_draws`.
-/

namespace ResourceBrowser.Table

/-- What a row has for cells depends on which ids are marked, and not on how they are listed. -/
theorem Rendering.cells_congr {r : Rendering} {marks : List String}
    (h : ∀ id, id ∈ marks ↔ id ∈ r.marks) (e : RowEvent) :
    ({ r with marks } : Rendering).cells e = r.cells e := by
  have hcontains : marks.contains e.row.id = r.marks.contains e.row.id := by
    rw [Bool.eq_iff_iff, List.contains_iff_mem, List.contains_iff_mem]
    exact h e.row.id
  have hcolor : ({ r with marks } : Rendering).color e = r.color e := by
    unfold color
    rw [hcontains]
  unfold cells
  rw [hcolor]

theorem SortKey.invert_invert (k : SortKey) : k.invert.invert = k := by
  unfold invert
  rw [Bool.not_not]

/-- No other column has to stand in for the sort column. Without shown columns, none could. -/
def SortKey.Stands (k : SortKey) (header : Header) (shown : List Nat) : Prop :=
  ∀ target, k.resolve? header shown = some target → target.fallback = false

/-- A sort column whose name is among the shown ones stands. -/
theorem ColumnOptions.stands_of_mem (o : ColumnOptions) (header : Header) {k : SortKey}
    (h : k.column ∈ (o.plan header).header.map (·.name)) :
    k.Stands header (o.plan header).indices := by
  obtain ⟨c, hc, hname⟩ := List.mem_map.1 h
  -- the column of that name is at one of the shown positions
  have hmem : some c ∈ (o.plan header).indices.map fun i => header[i]? := by
    rw [← map_some_header]
    exact List.mem_map_of_mem hc
  obtain ⟨i, hi, hcolumn⟩ := List.mem_map.1 hmem
  intro target htarget
  unfold SortKey.resolve? at htarget
  split at htarget
  · cases htarget
    rfl
  · rename_i hnone
    have hother := List.find?_eq_none.1 hnone i hi
    rw [hcolumn, Option.map_some, hname] at hother
    exact absurd (beq_self_eq_true _) hother

namespace LiveTable

variable {t u v : LiveTable} {shown : Snapshot}

/-! ## What a drawing reads -/

/-- Two tables whose settings choose the same rows, in the same order, under the same columns. -/
structure SameLayout (t u : LiveTable) : Prop where
  data : u.data = t.data
  query : u.query = t.query
  faultsOnly : u.faultsOnly = t.faultsOnly
  columnOptions : u.columnOptions = t.columnOptions
  sort : u.sort = t.sort

/-- Two tables whose settings color the rows in the same way as well. -/
structure SameSettings (t u : LiveTable) : Prop extends SameLayout t u where
  colorer : u.colorer = t.colorer
  marks (id : String) : id ∈ u.marks ↔ id ∈ t.marks

/-- Two tables that look the same, apart from the selection. -/
structure SameView (t u : LiveTable) : Prop where
  visible : u.visible = t.visible
  grid : u.grid = t.grid
  head : u.head = t.head
  plan : u.plan = t.plan

theorem SameView.refl (t : LiveTable) : SameView t t := ⟨rfl, rfl, rfl, rfl⟩

theorem SameView.trans (h : SameView t u) (h' : SameView u v) : SameView t v :=
  ⟨h'.visible.trans h.visible, h'.grid.trans h.grid, h'.head.trans h.head, h'.plan.trans h.plan⟩

theorem SameLayout.base_eq (h : SameLayout t u) : u.base = t.base := by
  unfold base
  rw [h.faultsOnly, h.data]

/-- The columns, the sort key and the rows that a drawing settles on depend on the layout only. -/
theorem sameLayout_draw (h : SameLayout t u) (shown : Snapshot) :
    (u.draw shown).plan = (t.draw shown).plan ∧ (u.draw shown).sort = (t.draw shown).sort ∧
      (u.draw shown).visible = (t.draw shown).visible := by
  have hplan : (u.draw shown).plan = (t.draw shown).plan := by
    rw [draw_plan, draw_plan, h.columnOptions]
  refine ⟨hplan, draw_sort_congr u shown h.sort h.columnOptions rfl, ?_⟩
  rw [draw_visible, draw_visible, hplan, h.sort, h.query]

theorem sameView_draw (h : SameSettings t u) (shown : Snapshot) :
    SameView (t.draw shown) (u.draw shown) := by
  obtain ⟨hplan, hsort, hvisible⟩ := sameLayout_draw h.toSameLayout shown
  have hgrid : (u.draw shown).grid = (t.draw shown).grid := by
    rw [draw_grid, draw_grid, hvisible]
    apply List.map_congr_left
    intro e _
    -- the cells come from settings and columns that are the same, up to the list of marks
    have hrendering : (u.draw shown).rendering =
        { (t.draw shown).rendering with marks := u.marks } := by
      obtain ⟨_, _, _, _, _, _, _, _, hu⟩ := draw_frame u shown
      obtain ⟨_, _, _, _, _, _, _, _, ht⟩ := draw_frame t shown
      unfold rendering
      rw [hplan, hvisible, hu, ht]
      dsimp only
      rw [h.data, h.colorer]
    have hmarks : (t.draw shown).rendering.marks = t.marks := by
      obtain ⟨_, _, _, _, _, _, _, _, ht⟩ := draw_frame t shown
      rw [ht]
      rfl
    rw [hrendering]
    apply Rendering.cells_congr
    rw [hmarks]
    exact h.marks
  refine ⟨hvisible, hgrid, ?_, hplan⟩
  rw [draw_head, draw_head, hplan, hsort]

/-- The marks of a table with the mark of one row turned. -/
def turnedMarks (t : LiveTable) (id : String) : List String :=
  if t.marks.contains id then t.marks.filter (· != id) else id :: t.marks

theorem mem_turnedMarks {id other : String} :
    other ∈ t.turnedMarks id ↔ (other = id ↔ other ∉ t.marks) := by
  unfold turnedMarks
  by_cases hmarked : id ∈ t.marks <;> by_cases hother : other = id
  all_goals simp_all

section

variable [Engine]

/-- Tables with the same layout are drawn anew from the same query and the same rows. -/
theorem SameLayout.exists_draws (h : SameLayout t u) : ∃ query noted noted' shown,
    t.refresh = { t with query, lastError := noted }.draw shown ∧
      u.refresh = { u with query, lastError := noted' }.draw shown := by
  unfold refresh redraw
  rw [h.base_eq, h.query]
  cases t.base.filter t.query with
  | ok shown =>
    refine ⟨t.query, t.lastError, u.lastError, shown, rfl, ?_⟩
    rw [← h.query]
  | error e => exact ⟨"", some e.text, some e.text, t.base, rfl, rfl⟩

/-- Tables with the same layout display the same rows once they are drawn anew. -/
theorem SameLayout.visible_refresh (h : SameLayout t u) :
    u.refresh.visible = t.refresh.visible := by
  obtain ⟨query, noted, noted', shown, ht, hu⟩ := h.exists_draws
  have hlayout : SameLayout { t with query, lastError := noted }
      { u with query, lastError := noted' } :=
    ⟨h.data, rfl, h.faultsOnly, h.columnOptions, h.sort⟩
  rw [ht, hu]
  exact (sameLayout_draw hlayout shown).2.2

/-- Tables with the same settings look the same once they are drawn anew. -/
theorem sameView_refresh (h : SameSettings t u) : SameView t.refresh u.refresh := by
  obtain ⟨query, noted, noted', shown, ht, hu⟩ := h.exists_draws
  have hsettings : SameSettings { t with query, lastError := noted }
      { u with query, lastError := noted' } :=
    ⟨⟨h.data, rfl, h.faultsOnly, h.columnOptions, h.sort⟩, h.colorer, h.marks⟩
  rw [ht, hu]
  exact sameView_draw hsettings shown

/-! ## What a drawing leaves alone -/

/-- The sort column of a table is shown, if any column is. -/
def ShowsSort (t : LiveTable) : Prop :=
  t.sort.Stands t.data.header (t.columnOptions.plan t.data.header).indices

/-- A drawing settles on a sort column that is shown. -/
theorem showsSort_refresh (t : LiveTable) : t.refresh.ShowsSort := by
  obtain ⟨query, lastError, shown, hdraw, hheader⟩ := exists_draw_header t
  intro target htarget
  rw [refresh_columnOptions, refresh_data, ← refresh_plan, hdraw, ← hheader, draw_resolve?]
    at htarget
  obtain ⟨found, -, rfl⟩ := Option.map_eq_some_iff.1 htarget
  rfl

/-- A drawing keeps a sort column that is shown. -/
theorem refresh_sort (h : t.ShowsSort) : t.refresh.sort = t.sort := by
  obtain ⟨query, lastError, shown, hdraw, hheader⟩ := exists_draw_header t
  rw [hdraw, draw_sort, draw_plan, hheader]
  split
  · rename_i htarget
    cases h _ htarget
  · rfl

/-- Drawing anew leaves the settings alone if the query can be read and the sort column is shown. -/
theorem sameSettings_refresh (hvalid : (Query.read t.query).IsValid) (hsort : t.ShowsSort) :
    SameSettings t t.refresh where
  data := refresh_data t
  query := refresh_query hvalid
  faultsOnly := refresh_faultsOnly t
  columnOptions := refresh_columnOptions t
  sort := refresh_sort hsort
  colorer := refresh_colorer t
  marks id := by rw [refresh_marks]

/-- A table that has been drawn from the settings that it has. -/
structure IsCurrent (t : LiveTable) : Prop where
  valid : (Query.read t.query).IsValid
  sort : t.ShowsSort
  settled : t.IsSettled
  /-- Drawing it anew changes nothing but the selection. -/
  view : SameView t t.refresh

theorem isCurrent_refresh (t : LiveTable) : t.refresh.IsCurrent where
  valid := (showsWanted_refresh t).valid
  sort := showsSort_refresh t
  settled := by
    obtain ⟨query, lastError, shown, hdraw, -⟩ := exists_draw t
    rw [hdraw]
    exact isSettled_draw _ shown
  view := by
    obtain ⟨_, _, hframe⟩ := settleSelection_frame t.refresh
    rw [refresh_refresh_eq, hframe]
    exact ⟨rfl, rfl, rfl, rfl⟩

/-- However its settings were changed in between, a table that gets them back looks the same. -/
theorem IsCurrent.sameView (h : t.IsCurrent) (hsettings : SameSettings t u) :
    SameView t u.refresh :=
  h.view.trans (sameView_refresh hsettings)

/-! ## Toggling twice -/

theorem IsCurrent.toggleFaults_twice (h : t.IsCurrent) :
    SameView t t.toggleFaults.toggleFaults := by
  have hsettings :=
    sameSettings_refresh (t := { t with faultsOnly := !t.faultsOnly }) h.valid h.sort
  have hback : (!t.toggleFaults.faultsOnly) = t.faultsOnly := by
    have hflag : t.toggleFaults.faultsOnly = !t.faultsOnly := hsettings.faultsOnly
    rw [hflag, Bool.not_not]
  exact h.sameView { hsettings with faultsOnly := hback }

/-- The direction does not matter for finding the sort column. -/
theorem IsCurrent.invertSort_twice (h : t.IsCurrent) : SameView t t.invertSort.invertSort := by
  have hsettings := sameSettings_refresh (t := { t with sort := t.sort.invert }) h.valid h.sort
  have hback : t.invertSort.sort.invert = t.sort := by
    have hkey : t.invertSort.sort = t.sort.invert := hsettings.sort
    rw [hkey, SortKey.invert_invert]
  exact h.sameView { hsettings with sort := hback }

/-- The other mode may show other columns, so the sort column has to be among them. -/
theorem IsCurrent.toggleWide_twice (h : t.IsCurrent)
    (hshown : ({ t with wide := !t.wide } : LiveTable).ShowsSort) :
    SameView t t.toggleWide.toggleWide := by
  have hsettings := sameSettings_refresh (t := { t with wide := !t.wide }) h.valid hshown
  have hback : ({ t.toggleWide with wide := !t.toggleWide.wide } : LiveTable).columnOptions =
      t.columnOptions := by
    have hoptions : t.toggleWide.columnOptions = { t.columnOptions with wide := !t.wide } :=
      hsettings.columnOptions
    have hwide : t.toggleWide.wide = !t.wide := congrArg ColumnOptions.wide hoptions
    rw [hwide, Bool.not_not]
    exact congrArg (fun o : ColumnOptions => { o with wide := t.wide }) hoptions
  exact h.sameView { hsettings with columnOptions := hback }

theorem toggleMark_eq {id : String} (h : t.trackedId = some id) :
    t.toggleMark = ({ t with marks := t.turnedMarks id } : LiveTable).refresh := by
  unfold toggleMark turnedMarks
  rw [h]

/-- The row that was marked is still on display, so it is the one whose mark is turned back. -/
theorem IsCurrent.toggleMark_twice (h : t.IsCurrent) : SameView t t.toggleMark.toggleMark := by
  cases hid : t.trackedId with
  | none =>
    have hkept : t.toggleMark = t := by
      unfold toggleMark
      rw [hid]
    rw [hkept, hkept]
    exact SameView.refl t
  | some id =>
    have hsettings :=
      sameSettings_refresh (t := { t with marks := t.turnedMarks id }) h.valid h.sort
    rw [← toggleMark_eq hid] at hsettings
    have hvisible : t.toggleMark.visible = t.visible := by
      have hlayout : SameLayout t { t with marks := t.turnedMarks id } := ⟨rfl, rfl, rfl, rfl, rfl⟩
      rw [toggleMark_eq hid, hlayout.visible_refresh, h.view.visible]
    have hmem : id ∈ t.toggleMark.visible.ids := by
      rw [hvisible]
      exact mem_visible_ids_of_isSettled h.settled hid
    have htracked : t.toggleMark.trackedId = some id := by
      have hon := isOn_refresh (t := { t with marks := t.turnedMarks id }) hid
      rw [← toggleMark_eq hid] at hon
      unfold IsOn at hon
      rw [if_pos hmem] at hon
      exact hon.1
    have hback : ∀ other, other ∈ t.toggleMark.turnedMarks id ↔ other ∈ t.marks := by
      intro other
      rw [mem_turnedMarks, hsettings.marks, mem_turnedMarks]
      tauto
    rw [toggleMark_eq htracked]
    exact h.sameView { hsettings with marks := hback }

/-- A toggle turns one setting, and brings the view back the second time. -/
structure TogglesBack (t : LiveTable) : Prop where
  faults : t.toggleFaults.faultsOnly = (!t.faultsOnly) ∧ SameView t t.toggleFaults.toggleFaults
  direction : t.invertSort.sort = t.sort.invert ∧ SameView t t.invertSort.invertSort
  mark : (∀ id, t.trackedId = some id → (id ∈ t.toggleMark.marks ↔ id ∉ t.marks)) ∧
    SameView t t.toggleMark.toggleMark
  /-- The sort column has to be shown in both modes; where it is not, the first column stands in
  for it from then on. -/
  wide : t.toggleWide.wide = (!t.wide) ∧
    ((∀ wide, t.sort.column ∈
      (({ t.columnOptions with wide } : ColumnOptions).plan t.data.header).header.map (·.name)) →
        SameView t t.toggleWide.toggleWide)

theorem togglesBack_of_isCurrent (h : t.IsCurrent) : t.TogglesBack where
  faults := ⟨refresh_faultsOnly _, h.toggleFaults_twice⟩
  direction := ⟨refresh_sort (t := { t with sort := t.sort.invert }) h.sort, h.invertSort_twice⟩
  mark := by
    refine ⟨?_, h.toggleMark_twice⟩
    intro id hid
    rw [toggleMark_eq hid, refresh_marks, mem_turnedMarks]
    tauto
  wide := by
    refine ⟨congrArg ColumnOptions.wide (refresh_columnOptions _), ?_⟩
    intro hshown
    exact h.toggleWide_twice (ColumnOptions.stands_of_mem _ _ (hshown (!t.wide)))

/-! ## After a history -/

/-- Whatever operations a table has been through, after one that draws it anew every toggle can be
taken back. -/
theorem togglesBack_of_draws (kind : String) (ops : List Operation) (op : Operation)
    (h : op.draws (({ kind } : LiveTable).run ops) = true) :
    ((({ kind } : LiveTable).run ops).apply op).1.TogglesBack := by
  obtain ⟨u, hu, -⟩ := exists_refresh_of_draws h
  rw [hu]
  exact togglesBack_of_isCurrent (isCurrent_refresh u)

end

attribute [local instance] nativeEngine

/-- Unhealthy pods, one of them marked, in order of a column that has to stand in for another. -/
theorem togglesBack_misSorted :
    Operation.toggleFaults.draws (({ kind := "pods" } : LiveTable).run
      [.setSort "IP" false, .update threePods, .down 1, .toggleMark]) = true ∧
    ((({ kind := "pods" } : LiveTable).run
      [.setSort "IP" false, .update threePods, .down 1, .toggleMark]).apply
        .toggleFaults).1.TogglesBack :=
  ⟨rfl, togglesBack_of_draws "pods"
    [.setSort "IP" false, .update threePods, .down 1, .toggleMark] .toggleFaults rfl⟩

end LiveTable

end ResourceBrowser.Table
