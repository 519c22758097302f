import ResourceBrowser.Proofs.Table.Drawing
import ResourceBrowser.Proofs.Table.Filter
import ResourceBrowser.Table.NativeEngine

/-!
# The rows on display

At any time a table displays the rows of its snapshot that the faults mode and the query want, each
as often as it is there. Whenever the table is drawn anew, they are also in order: a fuzzy search
puts the better match first, every other query leaves them to the sort column, and rows that are
equal in this are in order of the snapshot.

* `HoldsWanted`: what is so after every operation, `holdsWanted_apply`.
* `ShowsWanted`: what is so after a drawing, `showsWanted_refresh`.
* `showsWanted_of_redraws`: the two together, for every history.
-/

namespace ResourceBrowser.Table

/-- True for the operations that draw a table anew. -/
def Operation.redraws (t : LiveTable) : Operation → Bool
  | .update _ | .setKind _ | .setViewColumns _ | .refresh | .eraseFilter | .setQuery _
  | .clearFilter | .toggleWide | .toggleFaults | .resetFaults | .sortBy _ _ | .invertSort
  | .toggleMark | .clearMarks => true
  | .typeFilter _ => t.filtering
  | _ => false

/-- True for the operations that draw a table anew as it stands: without a selected row there is
nothing to mark, and no reason to draw. -/
def Operation.draws (t : LiveTable) : Operation → Bool
  | .toggleMark => t.trackedId.isSome
  | op => op.redraws t

/-- The sort key that a table has to follow after an operation. -/
def Operation.sortKey (t : LiveTable) : Operation → SortKey
  | .sortBy column ascending => t.sort.toggle column ascending
  | .invertSort => t.sort.invert
  | .setSort column ascending => ⟨column, ascending⟩
  | _ => t.sort

namespace LiveTable

/-! ## The snapshot under the faults mode -/

theorem base_header (t : LiveTable) : t.base.header = t.data.header := by
  unfold base
  split
  · exact Snapshot.faults_header t.data
  · rfl

theorem base_ns (t : LiveTable) : t.base.ns = t.data.ns := by
  unfold base
  split
  · exact Snapshot.faults_ns t.data
  · rfl

theorem base_rows (t : LiveTable) :
    t.base.rows = t.data.rows.filter fun e => !t.faultsOnly || e.isFaulty t.data.header := by
  unfold base
  cases t.faultsOnly with
  | false => exact (List.filter_true _).symm
  | true => simpa using Snapshot.faults_rows t.data

/-! ## The rows on display -/

section

variable [Engine]

/-- The rows that the faults mode and the query want, in order of the snapshot. -/
def wanted (t : LiveTable) : List RowEvent :=
  t.data.rows.filter fun e =>
    (!t.faultsOnly || e.isFaulty t.data.header) && (Query.read t.query).keeps t.data.header e

/-- The wanted rows are on display, none lost, invented or repeated. -/
structure HoldsWanted (t : LiveTable) : Prop where
  header : t.visible.header = t.data.header
  ns : t.visible.ns = t.data.ns
  valid : (Query.read t.query).IsValid
  perm : t.visible.rows.Perm t.wanted

/-- The wanted rows are on display in the order that the query or the sort key `k` asks for. -/
structure ShowsWanted (k : SortKey) (t : LiveTable) : Prop extends HoldsWanted t where
  /-- A fuzzy search puts the better match first. -/
  ranked (text : String) : Query.read t.query = .fuzzy text → text ≠ "" →
    StablySorted (compareRanks text t.data.header.nameIndex) t.wanted t.visible.rows
  /-- Any other query leaves the order to the sort column, or to the first column in its place. -/
  sorted (target : SortTarget) : (Query.read t.query).ranks = false →
    k.resolve? t.data.header t.plan.indices = some target →
    StablySorted (compareRows target.index target.isAge k.ascending) t.wanted t.visible.rows
  /-- Without columns, the rows stay in order of the snapshot. -/
  unsorted : (Query.read t.query).ranks = false → t.plan.indices = [] →
    t.visible.rows = t.wanted
  /-- The sort column is looked for among the columns that the settings show. -/
  columns : t.visible.rows ≠ [] → t.plan = t.columnOptions.plan t.data.header
  /-- The sort key of the table becomes the one that was followed, and it is told whether another
  column had to stand in. -/
  followed (target : SortTarget) : t.visible.rows ≠ [] →
    k.resolve? t.data.header t.plan.indices = some target →
    t.sort.resolve? t.data.header t.plan.indices = some { target with fallback := false } ∧
      t.sort.ascending = k.ascending ∧ t.fellBack = target.fallback

variable {t : LiveTable}

/-! ## Drawing anew -/

/-- Drawing anew is drawing some rows under the header of the snapshot. -/
theorem exists_draw_header (t : LiveTable) : ∃ query lastError shown,
    t.refresh = { t with query, lastError }.draw shown ∧ shown.header = t.data.header := by
  obtain ⟨query, lastError, shown, hdraw, hfilter⟩ := exists_draw t
  refine ⟨query, lastError, shown, hdraw, ?_⟩
  rw [Snapshot.filter_eq_withRows hfilter]
  exact base_header t

/-- A query that can be read is drawn as it is. -/
theorem refresh_of_isValid (h : (Query.read t.query).IsValid) :
    ∃ shown, t.base.filter t.query = .ok shown ∧ t.refresh = t.draw shown := by
  obtain ⟨shown, hshown⟩ := Snapshot.exists_filter_of_isValid t.base h
  refine ⟨shown, hshown, ?_⟩
  unfold refresh redraw
  rw [hshown]

theorem refresh_query (h : (Query.read t.query).IsValid) : t.refresh.query = t.query := by
  obtain ⟨shown, -, hdraw⟩ := refresh_of_isValid h
  rw [hdraw, draw_query]

/-- Drawing anew chooses the columns from the settings and the header of the snapshot. -/
theorem refresh_plan (t : LiveTable) : t.refresh.plan = t.columnOptions.plan t.data.header := by
  obtain ⟨query, lastError, shown, hdraw, hheader⟩ := exists_draw_header t
  rw [hdraw, draw_plan, hheader]
  rfl

/-- The wanted rows are those that the query keeps of what the faults mode leaves. -/
theorem wanted_eq (t : LiveTable) :
    t.wanted = t.base.rows.filter ((Query.read t.query).keeps t.data.header) := by
  rw [base_rows, List.filter_filter]
  apply List.filter_congr
  intro e _
  rw [Bool.and_comm]

/-! ## After a drawing -/

/-- The rows that a query leaves are the wanted ones. -/
theorem wanted_perm {shown : Snapshot} (h : t.base.filter t.query = .ok shown) :
    shown.rows.Perm t.wanted := by
  rw [wanted_eq, ← base_header]
  cases hr : (Query.read t.query).ranks with
  | false => rw [Snapshot.filter_rows h hr]
  | true =>
    obtain ⟨text, hq, htext⟩ := Query.exists_of_ranks hr
    exact (Snapshot.stablySorted_filter h hq htext).perm

theorem wanted_draw (t : LiveTable) (shown : Snapshot) : (t.draw shown).wanted = t.wanted := by
  simp [wanted]

/-- Drawing what the query leaves puts the wanted rows on display. -/
theorem holdsWanted_draw {shown : Snapshot} (h : t.base.filter t.query = .ok shown) :
    (t.draw shown).HoldsWanted := by
  have hshown := Snapshot.filter_eq_withRows h
  have hvisible := draw_visible t shown
  refine ⟨?_, ?_, ?_, ?_⟩
  · rw [hvisible, hshown, draw_data]
    exact base_header t
  · rw [hvisible, hshown, draw_data]
    exact base_ns t
  · rw [draw_query]
    exact Snapshot.isValid_of_filter h
  · -- sorting permutes what the query leaves
    rw [wanted_draw]
    refine List.Perm.trans ?_ (wanted_perm h)
    rw [hvisible]
    split
    · split
      · exact List.Perm.refl _
      · exact (stablySorted_sortRows _ _ _ _).perm
    · exact List.Perm.refl _

/-- Drawing what the query leaves displays the wanted rows in order. -/
theorem showsWanted_draw {shown : Snapshot} (h : t.base.filter t.query = .ok shown) :
    (t.draw shown).ShowsWanted t.sort := by
  have hheader : (t.draw shown).data.header = shown.header := by
    rw [Snapshot.filter_eq_withRows h, draw_data]
    exact (base_header t).symm
  -- a filter that does not rank leaves the wanted rows as they are
  have hrows : (Query.read t.query).ranks = false → shown.rows = t.wanted := by
    intro hr
    rw [Snapshot.filter_rows h hr, wanted_eq, base_header]
  refine { holdsWanted_draw h with
    ranked := ?_, sorted := ?_, unsorted := ?_, columns := ?_, followed := ?_ }
  · intro text hq htext
    rw [draw_query] at hq
    have hvisible : (t.draw shown).visible.rows = shown.rows := by
      rw [draw_visible, hq, Query.ranks_fuzzy htext]
      split <;> rfl
    rw [draw_data, wanted_draw, hvisible, wanted_eq, ← base_header]
    exact Snapshot.stablySorted_filter h hq htext
  · intro target hr hresolve
    rw [draw_query] at hr
    rw [hheader] at hresolve
    rw [wanted_draw, draw_visible, hresolve, hr, ← hrows hr]
    exact stablySorted_sortRows _ _ _ _
  · intro hr hplan
    rw [draw_query] at hr
    rw [wanted_draw, draw_visible, SortKey.resolve?_eq_none_iff.2 hplan, ← hrows hr]
    rfl
  · intro _
    rw [hheader, draw_columnOptions, draw_plan]
  · intro target _ hresolve
    rw [hheader] at hresolve ⊢
    refine ⟨?_, draw_ascending t shown, ?_⟩
    · rw [draw_resolve?, hresolve]
      rfl
    · rw [draw_fellBack, hresolve]
      rfl

/-- Drawing a table anew displays the wanted rows in order, whatever the table was before. -/
theorem showsWanted_refresh (t : LiveTable) : t.refresh.ShowsWanted t.sort := by
  obtain ⟨query, lastError, shown, hdraw, hfilter⟩ := exists_draw t
  rw [hdraw]
  exact showsWanted_draw (t := { t with query, lastError }) hfilter

/-! ## After a history -/

/-- Every operation keeps the wanted rows on display: where it does not draw, it changes nothing
that decides which rows are wanted. -/
theorem holdsWanted_apply (t : LiveTable) (op : Operation) (h : t.HoldsWanted) :
    (t.apply op).1.HoldsWanted := by
  apply apply_of_refresh op
  · intro u
    exact (showsWanted_refresh u).toHoldsWanted
  · intros
    exact ⟨h.header, h.ns, h.valid, h.perm⟩

/-- A row on display is a row of the snapshot. -/
theorem mem_data_of_mem_visible (h : t.HoldsWanted) {e : RowEvent} (he : e ∈ t.visible.rows) :
    e ∈ t.data.rows :=
  List.mem_of_mem_filter (h.perm.mem_iff.1 he)

/-- A new table wants no rows and displays none. -/
theorem holdsWanted_new (kind : String) : ({ kind } : LiveTable).HoldsWanted where
  header := rfl
  ns := rfl
  valid := Query.isValid_empty
  perm := List.Perm.refl _

/-- Without rows on display, none are wanted, and there is nothing to put in order. -/
theorem showsWanted_of_rows_eq_nil (k : SortKey) (h : t.HoldsWanted)
    (hrows : t.visible.rows = []) : t.ShowsWanted k := by
  have hwanted : t.wanted = [] := by
    have hperm := h.perm
    rw [hrows] at hperm
    exact hperm.nil_eq.symm
  have hnil : ∀ cmp : RowEvent → RowEvent → Ordering,
      StablySorted cmp t.wanted t.visible.rows := by
    intro cmp
    rw [hrows, hwanted]
    exact ⟨List.Perm.refl _, List.Pairwise.nil, fun _ => rfl⟩
  refine { h with ranked := ?_, sorted := ?_, unsorted := ?_, columns := ?_, followed := ?_ }
  · intro _ _ _
    exact hnil _
  · intro _ _ _
    exact hnil _
  · intro _ _
    rw [hrows, hwanted]
  · intro hne
    exact absurd hrows hne
  · intro _ hne
    exact absurd hrows hne

/-- What draws a table anew does so with the settings that it leaves. -/
theorem exists_refresh_of_draws {op : Operation} (h : op.draws t = true) :
    ∃ u : LiveTable, (t.apply op).1 = u.refresh ∧ u.sort = op.sortKey t := by
  cases op with
  | update _ | setKind _ | setViewColumns _ | refresh | eraseFilter | setQuery _ | clearFilter
  | toggleWide | toggleFaults | resetFaults | sortBy _ _ | invertSort | clearMarks =>
    exact ⟨_, rfl, rfl⟩
  | typeFilter c =>
    have hfiltering : t.filtering = true := h
    rw [apply_typeFilter, hfiltering]
    exact ⟨_, rfl, rfl⟩
  | toggleMark =>
    rcases toggleMark_cases t with ⟨hid, -⟩ | hdrawn
    · have hsome : t.trackedId.isSome = true := h
      rw [hid] at hsome
      cases hsome
    · exact hdrawn
  | up _ | down _ | home | last | noteError _ | setPath _ | setColorer _ | setDecorate _
  | setMetrics _ | setSort _ _ | activateFilter | deactivateFilter | takeError => cases h

/-- The operations that draw do so, except that there may be no row to mark. -/
theorem redraws_cases {op : Operation} (h : op.redraws t = true) :
    (∃ u : LiveTable, (t.apply op).1 = u.refresh ∧ u.sort = op.sortKey t) ∨
      t.trackedId = none ∧ (t.apply op).1 = t := by
  by_cases hmark : op = .toggleMark
  · subst hmark
    exact (toggleMark_cases t).symm
  · have hdraws : op.draws t = op.redraws t := by
      unfold Operation.draws
      split
      · exact absurd rfl hmark
      · rfl
    exact .inl (exists_refresh_of_draws (hdraws.trans h))

/-- Whatever operations a table has been through, after one that draws it anew it displays the
wanted rows in order. -/
theorem showsWanted_of_redraws (kind : String) (ops : List Operation) (op : Operation)
    (h : op.redraws (({ kind } : LiveTable).run ops) = true) :
    ((({ kind } : LiveTable).run ops).apply op).1.ShowsWanted
      (op.sortKey (({ kind } : LiveTable).run ops)) := by
  have hholds := run_induction (holdsWanted_new kind) holdsWanted_apply ops
  have hsettled := run_induction (isSettled_new kind) isSettled_apply ops
  rcases redraws_cases h with ⟨u, hu, hsort⟩ | ⟨hid, hkept⟩
  · rw [hu, ← hsort]
    exact showsWanted_refresh u
  · -- there was no row to mark, hence none on display
    rw [hkept]
    exact showsWanted_of_rows_eq_nil _ hholds (rows_eq_nil_of_isSettled hsettled hid)

end

/-- Three pods of one namespace, two of them unhealthy. -/
def threePods : Snapshot :=
  ⟨[{ name := "NAMESPACE" }, { name := "NAME" }, { name := "VALID", wide := true },
      { name := "AGE", time := true }],
    [.ofRow ⟨"default/web", ["default", "web", "", "5m"]⟩,
      .ofRow ⟨"default/api-web", ["default", "api-web", "not ready", "1m"]⟩,
      .ofRow ⟨"default/redis", ["default", "redis", "failed", "2h"]⟩],
    "default"⟩

attribute [local instance] nativeEngine

/-- The unhealthy pods, sorted by a column that is not shown. -/
theorem showsWanted_threePods :
    (Operation.sortBy "IP" false).redraws
      (({ kind := "pods" } : LiveTable).run [.update threePods, .toggleFaults]) = true ∧
    ((({ kind := "pods" } : LiveTable).run [.update threePods, .toggleFaults]).apply
      (.sortBy "IP" false)).1.ShowsWanted
        ((Operation.sortBy "IP" false).sortKey
          (({ kind := "pods" } : LiveTable).run [.update threePods, .toggleFaults])) :=
  ⟨rfl, showsWanted_of_redraws "pods" [.update threePods, .toggleFaults] (.sortBy "IP" false) rfl⟩

end LiveTable

end ResourceBrowser.Table
