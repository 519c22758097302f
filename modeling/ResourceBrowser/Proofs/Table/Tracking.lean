import ResourceBrowser.Proofs.Table.Refusal

/-!
# The selection stays on a resource

A table knows the selected row by its id. Whenever the table is drawn anew, the row of that id is
looked for among the rows on display, wherever the new snapshot, the filter or the sort column have
put it; only if it is gone, or if the query changed, the selection goes back to the first row.

* `IsOn`, `IsOnFirst`: where the selection is.
* `isOn_refresh`, `isOnFirst_refresh`: where a drawing puts it.
* `isOn_run`: a selection outlasts any number of drawings as long as its row is on display.
* `followsSelection`: what holds of the selection under every operation.
-/

namespace ResourceBrowser.Table

/-- True for the operations that draw a table anew and do not ask for another selection: those that
keep the query, and the one that drops it. -/
def Operation.keepsSelection : Operation → Bool
  | .clearFilter => true
  | op => op.keepsQuery

/-- True for the operations that put another query in the place of the one that is there. -/
def Operation.setsQuery : Operation → Bool
  | .setQuery _ | .eraseFilter | .typeFilter _ => true
  | _ => false

/-- The row at the position of an id has that id. -/
theorem Snapshot.exists_of_indexOf? {s : Snapshot} {id : String} {i : Nat}
    (h : s.indexOf? id = some i) : ∃ e, s.rows[i]? = some e ∧ e.row.id = id := by
  obtain ⟨hlt, hfound, -⟩ := List.findIdx?_eq_some_iff_getElem.1 h
  exact ⟨s.rows[i], List.getElem?_eq_getElem hlt, by simpa using hfound⟩

/-- An id on display has a position. -/
theorem Snapshot.exists_indexOf? {s : Snapshot} {id : String} (h : id ∈ s.ids) :
    ∃ i, s.indexOf? id = some i := by
  obtain ⟨d, hd, hid⟩ := List.mem_map.1 h
  have hsome : (s.indexOf? id).isSome := by
    unfold indexOf?
    rw [List.findIdx?_isSome, List.any_eq_true]
    exact ⟨d, hd, by simpa using hid⟩
  exact Option.isSome_iff_exists.1 hsome

theorem Snapshot.indexOf?_of_not_mem {s : Snapshot} {id : String} (h : id ∉ s.ids) :
    s.indexOf? id = none := by
  unfold indexOf?
  rw [List.findIdx?_eq_none_iff]
  intro e he
  simp only [beq_eq_false_iff_ne]
  rintro rfl
  exact h (List.mem_map_of_mem he)

namespace LiveTable

variable {t : LiveTable} {x : String}

/-- The selection is on the first row on display, if there is any. -/
def IsOnFirst (t : LiveTable) : Prop :=
  t.selected = 0 ∧ t.trackedId = t.visible.ids.head?

/-- The selection is on a row with the id `x` as long as one is on display, and else on the first
row. -/
def IsOn (t : LiveTable) (x : String) : Prop :=
  if x ∈ t.visible.ids then t.trackedId = some x ∧ t.visible.ids[t.selected]? = some x
  else t.IsOnFirst

/-! ## Settling the selection -/

theorem settleSelection_visible (t : LiveTable) : t.settleSelection.visible = t.visible := by
  obtain ⟨selected, trackedId, h⟩ := settleSelection_frame t
  rw [h]

/-- With nothing tracked and nothing selected, settling goes to the first row. -/
theorem settleSelection_of_untracked (h : t.trackedId = none) (hsel : t.selected = 0) :
    t.settleSelection = { t with selected := 0, trackedId := t.visible.ids.head? } := by
  unfold settleSelection Snapshot.ids
  simp only [h, hsel, Nat.zero_min]
  cases hrows : t.visible.rows with
  | nil => rfl
  | cons e rest => rfl

/-- A tracked row that is on display is selected. -/
theorem settleSelection_of_indexOf? {i : Nat} (h : t.trackedId = some x)
    (hindex : t.visible.indexOf? x = some i) : t.settleSelection = { t with selected := i } := by
  obtain ⟨e, hrow, hid⟩ := Snapshot.exists_of_indexOf? hindex
  -- the position is one of a row, so it is not cut down to the last one
  have hlt : i < t.visible.rows.length := (List.getElem?_eq_some_iff.1 hrow).1
  have hmin : min i (t.visible.rows.length - 1) = i := by omega
  unfold settleSelection
  simp only [h, hindex, Option.getD_some, hmin, hrow, hid]

/-- A tracked row that is gone leaves the selection where nothing is tracked. -/
theorem settleSelection_of_not_mem (h : t.trackedId = some x) (hx : x ∉ t.visible.ids) :
    t.settleSelection =
      ({ t with trackedId := none, selected := 0 } : LiveTable).settleSelection := by
  unfold settleSelection
  simp only [h, Snapshot.indexOf?_of_not_mem hx, Option.getD_none]

theorem isOnFirst_settleSelection (h : t.trackedId = none) (hsel : t.selected = 0) :
    t.settleSelection.IsOnFirst := by
  rw [settleSelection_of_untracked h hsel]
  exact ⟨rfl, rfl⟩

/-- A tracked row is selected if it is on display, and the first row if it is not. -/
theorem isOn_settleSelection (h : t.trackedId = some x) : t.settleSelection.IsOn x := by
  unfold IsOn
  rw [settleSelection_visible]
  split
  · rename_i hx
    obtain ⟨i, hindex⟩ := Snapshot.exists_indexOf? hx
    obtain ⟨e, hrow, hid⟩ := Snapshot.exists_of_indexOf? hindex
    rw [settleSelection_of_indexOf? h hindex]
    refine ⟨h, ?_⟩
    simp [Snapshot.ids, hrow, hid]
  · rename_i hx
    rw [settleSelection_of_not_mem h hx]
    exact isOnFirst_settleSelection rfl rfl

/-- A settled selection stays where it is when it is settled again, even if several rows have the
id that is tracked. -/
theorem settleSelection_settleSelection (h : t.trackedId = none → t.selected = 0) :
    t.settleSelection.settleSelection = t.settleSelection := by
  have hfirst : ∀ u : LiveTable, u.trackedId = none → u.selected = 0 →
      u.settleSelection.settleSelection = u.settleSelection := by
    intro u hid hsel
    rw [settleSelection_of_untracked hid hsel]
    cases hrows : u.visible.rows with
    | nil =>
      have hids : u.visible.ids.head? = none := by simp [Snapshot.ids, hrows]
      rw [hids, settleSelection_of_untracked rfl rfl, hids]
    | cons e rest =>
      have hids : u.visible.ids.head? = some e.row.id := by simp [Snapshot.ids, hrows]
      have hindex : u.visible.indexOf? e.row.id = some 0 := by
        simp [Snapshot.indexOf?, hrows, List.findIdx?_cons]
      rw [hids]
      exact settleSelection_of_indexOf? rfl hindex
  cases hid : t.trackedId with
  | none => exact hfirst t hid (h hid)
  | some x =>
    by_cases hx : x ∈ t.visible.ids
    · -- the position that was found is found again
      obtain ⟨i, hindex⟩ := Snapshot.exists_indexOf? hx
      rw [settleSelection_of_indexOf? hid hindex]
      exact settleSelection_of_indexOf? hid hindex
    · rw [settleSelection_of_not_mem hid hx]
      exact hfirst _ rfl rfl

/-! ## Drawing anew -/

variable [Engine]

/-- Drawing anew settles the selection that was there before among the rows it displays. -/
theorem refresh_eq_settleSelection (t : LiveTable) : ∃ u : LiveTable,
    t.refresh = u.settleSelection ∧ u.trackedId = t.trackedId ∧ u.selected = t.selected := by
  obtain ⟨query, lastError, shown, hdraw, -⟩ := exists_draw t
  rw [hdraw]
  exact ⟨_, rfl, rfl, rfl⟩

theorem isOn_refresh (h : t.trackedId = some x) : t.refresh.IsOn x := by
  obtain ⟨u, hu, hid, -⟩ := refresh_eq_settleSelection t
  rw [hu]
  exact isOn_settleSelection (hid.trans h)

theorem isOnFirst_refresh (h : t.trackedId = none) (hsel : t.selected = 0) :
    t.refresh.IsOnFirst := by
  obtain ⟨u, hu, hid, hselected⟩ := refresh_eq_settleSelection t
  rw [hu]
  exact isOnFirst_settleSelection (hid.trans h) (hselected.trans hsel)

/-! ## Operations -/

/-- What keeps the selection draws the table with the row tracked that was tracked before. -/
theorem isOn_apply {op : Operation} (hop : op.keepsSelection = true) (h : t.trackedId = some x) :
    (t.apply op).1.IsOn x := by
  cases op with
  | update _ | setViewColumns _ | refresh | clearFilter | toggleWide | toggleFaults | resetFaults
  | sortBy _ _ | invertSort | clearMarks => exact isOn_refresh h
  | toggleMark =>
    show t.toggleMark.IsOn x
    unfold toggleMark
    rw [h]
    exact isOn_refresh rfl
  | setKind _ | typeFilter _ | eraseFilter | setQuery _ | up _ | down _ | home | last | noteError _
  | setPath _ | setColorer _ | setDecorate _ | setMetrics _ | setSort _ _ | activateFilter
  | deactivateFilter | takeError => cases hop

/-- Another query, accepted or refused, starts over at the first row. -/
theorem isOnFirst_setQuery (t : LiveTable) (query : String) : (t.setQuery query).1.IsOnFirst :=
  isOnFirst_refresh rfl rfl

/-- A character is not taken only where no input is taken. -/
theorem filtering_of_reply {c : Char} (h : (t.apply (.typeFilter c)).2 ≠ .taken false) :
    t.filtering = true := by
  cases hf : t.filtering with
  | true => rfl
  | false =>
    refine absurd ?_ h
    simp [apply, typeFilter, hf]

theorem isOnFirst_apply {op : Operation} (hop : op.setsQuery = true)
    (h : (t.apply op).2 ≠ .taken false) : (t.apply op).1.IsOnFirst := by
  cases op with
  | setQuery query => exact isOnFirst_setQuery t query
  | eraseFilter => exact isOnFirst_setQuery t _
  | typeFilter c =>
    rw [apply_typeFilter, if_pos (filtering_of_reply h)]
    exact isOnFirst_setQuery t _
  | update _ | setKind _ | setViewColumns _ | refresh | clearFilter | toggleWide | toggleFaults
  | resetFaults | sortBy _ _ | invertSort | toggleMark | clearMarks | up _ | down _ | home | last
  | noteError _ | setPath _ | setColorer _ | setDecorate _ | setMetrics _ | setSort _ _
  | activateFilter | deactivateFilter | takeError => cases hop

/-- A selected row stays selected through any number of drawings that have it on display. -/
theorem isOn_run (ops : List Operation) (hops : ∀ op ∈ ops, op.keepsSelection = true)
    (h : t.trackedId = some x)
    (hshown : ∀ before, before <+: ops → before ≠ [] → x ∈ (t.run before).visible.ids) :
    (t.run ops).trackedId = some x := by
  induction ops generalizing t with
  | nil => exact h
  | cons op ops ih =>
    have hx : x ∈ (t.apply op).1.visible.ids := by
      refine hshown [op] ?_ (by simp)
      simp
    have hon := isOn_apply (hops op List.mem_cons_self) h
    unfold IsOn at hon
    rw [if_pos hx] at hon
    refine ih (fun op hop => hops op (List.mem_cons_of_mem _ hop)) hon.1 ?_
    intro before hprefix _
    exact hshown (op :: before) (List.cons_prefix_cons.2 ⟨rfl, hprefix⟩) (by simp)

/-- The selection goes with the selected row, and starts over where the query is changed. -/
structure FollowsSelection (t : LiveTable) : Prop where
  /-- A drawing leaves the selection on the row that was selected, wherever that is now. -/
  stays (op : Operation) (x : String) : op.keepsSelection = true → t.trackedId = some x →
    (t.apply op).1.IsOn x
  /-- So do any number of drawings, as long as the row is on display after each of them. -/
  lasts (ops : List Operation) (x : String) : (∀ op ∈ ops, op.keepsSelection = true) →
    t.trackedId = some x →
    (∀ before, before <+: ops → before ≠ [] → x ∈ (t.run before).visible.ids) →
    (t.run ops).trackedId = some x
  /-- Where another query is set, accepted or not, the first row is selected. -/
  startsOver (op : Operation) : op.setsQuery = true → (t.apply op).2 ≠ .taken false →
    (t.apply op).1.IsOnFirst

/-- In whatever state a table is, its selection follows the selected row. -/
theorem followsSelection (t : LiveTable) : t.FollowsSelection where
  stays _ _ hop h := isOn_apply hop h
  lasts ops _ hops h hshown := isOn_run ops hops h hshown
  startsOver _ hop h := isOnFirst_apply hop h

end LiveTable

end ResourceBrowser.Table
