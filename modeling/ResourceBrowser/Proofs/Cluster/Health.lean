import ResourceBrowser.Cluster.Typical
import ResourceBrowser.Proofs.Cluster.Listing
import ResourceBrowser.Proofs.Cluster.Requests
import ResourceBrowser.Proofs.Table.Faults
import ResourceBrowser.Table.NativeEngine

/-!
# Unhealthy pods

Whether a pod is unhealthy is told in three places: by the field that says why, by the status, and
by the color of the row. The faults mode goes by the field, the color by the field and the status,
and a mark hides any color but that of unhealthy rows. All of them agree on every pod.

* `diagnosis_ne_empty_iff`: which pods are unhealthy.
* `podColor_eq_error_iff`: what is colored as an error.
* `errorRows_perm`: what a table of pods displays as an error.
* `MarksFaults`: the agreement, `marksFaults_of_draws`.
-/

namespace ResourceBrowser

open Table

namespace Cluster

/-! ## The reason and the color -/

/-- A pod that failed, or that runs with fewer than `total` containers ready. -/
def Pod.IsUnhealthy (p : Pod) (total : Nat) : Prop :=
  p.phase = .failed ∨ p.phase = .running ∧ p.ready.toNat < total

instance (p : Pod) (total : Nat) : Decidable (p.IsUnhealthy total) :=
  inferInstanceAs (Decidable (_ ∨ _))

theorem toNat_containerCount (p : Pod) :
    p.containerCount.toNat = p.containers.length % UInt32.size :=
  UInt32.toNat_ofNat'

/-- There is a reason exactly for unhealthy pods, as far as containers are counted. -/
theorem diagnosis_ne_empty_iff (p : Pod) :
    p.diagnosis ≠ "" ↔ p.IsUnhealthy (p.containers.length % UInt32.size) := by
  unfold Pod.diagnosis Pod.IsUnhealthy
  cases p.phase with
  | pending | succeeded => simp
  | failed => simp
  | running =>
    rw [← toNat_containerCount, ← UInt32.lt_iff_toNat_lt]
    by_cases hready : p.ready < p.containerCount
    · simp [hready]
    · simp [hready]

variable {e : RowEvent} {p : Pod} {now : Int}

/-- The fields of a pod's row that tell of its health. -/
theorem fields_of_row (h : e.row = p.row now) :
    podHeader.validIndex?.bind (e.row.fields[·]?) = some p.diagnosis ∧
      (podHeader.indexOf? statusColumn true).bind (e.row.fields[·]?) = some p.status := by
  have hvalid : podHeader.validIndex? = some 9 := by decide
  have hstatus : podHeader.indexOf? statusColumn true = some 4 := by decide
  rw [h, hvalid, hstatus]
  exact ⟨rfl, rfl⟩

/-- The faults mode goes by the reason. -/
theorem isFaulty_iff (h : e.row = p.row now) :
    e.isFaulty podHeader = true ↔ p.diagnosis ≠ "" := by
  obtain ⟨hvalid, -⟩ := fields_of_row h
  unfold RowEvent.isFaulty
  cases hindex : podHeader.validIndex? with
  | none => simp [hindex] at hvalid
  | some i =>
    rw [hindex, Option.bind_some] at hvalid
    dsimp only
    rw [hvalid]
    simp

theorem colorByChange_ne_error (ns : String) (header : Header) (e : RowEvent) :
    colorByChange ns header e ≠ .error := by
  unfold colorByChange
  split <;> decide

/-- A pod that failed has a reason, so its status adds nothing. -/
theorem status_ne_error (h : p.diagnosis = "") : p.status ≠ "Error" := by
  unfold Pod.diagnosis at h
  unfold Pod.status
  cases hphase : p.phase with
  | failed => simp [hphase] at h
  | pending =>
    dsimp only
    split <;> decide
  | running | succeeded =>
    dsimp only
    decide

/-- A pod is colored as an error exactly if there is a reason, whatever changed in its row. -/
theorem podColor_eq_error_iff (h : e.row = p.row now) (ns : String) :
    podColor ns podHeader e = .error ↔ p.diagnosis ≠ "" := by
  obtain ⟨hvalid, hstatus⟩ := fields_of_row h
  simp only [podColor, hvalid, hstatus, Option.any_some]
  by_cases hreason : p.diagnosis = ""
  · -- then the status is asked, and it is never that of a failed pod
    have hcolor : p.status ≠ "Error" := status_ne_error hreason
    refine iff_of_false ?_ (not_not_intro hreason)
    rw [if_neg (by simp [hreason])]
    split
    · decide
    · decide
    · decide
    · rename_i herror
      exact absurd (Option.some.inj herror) hcolor
    · exact colorByChange_ne_error ns podHeader e
  · rw [if_pos (by simp [hreason])]
    exact iff_of_true rfl hreason

/-! ## Tables of pods -/

/-- A table on display that lists pods in the colors of pods, with some column. -/
structure ListsPods (t : LiveTable) : Prop where
  colorer : t.colorer = podColor
  header : t.data.header = podHeader
  rows (e : RowEvent) : e ∈ t.data.rows → ∃ (p : Pod) (now : Int), e.row = p.row now
  columns : t.plan.columns ≠ []

variable {t : LiveTable}

/-- Rows of pods are colored as errors exactly if the faults mode leaves them. -/
theorem rowColor_eq_error_iff_isFaulty (h : ListsPods t) {e : RowEvent} (he : e ∈ t.data.rows) :
    t.rowColor e = .error ↔ e.isFaulty t.data.header = true := by
  obtain ⟨p, now, hrow⟩ := h.rows e he
  rw [LiveTable.rowColor_eq_error_iff, h.colorer, h.header, podColor_eq_error_iff hrow,
    isFaulty_iff hrow]

section

variable [Engine]

/-- What is displayed of the health of pods. -/
structure MarksFaults (t : LiveTable) : Prop where
  /-- A row has one color in all its cells, and it is that of errors exactly if there is a reason,
  whatever changed in the row and whether it is marked. -/
  colored (r : Nat) (e : RowEvent) : t.visible.rows[r]? = some e →
    ∃ cells color, t.grid[r]? = some cells ∧ cells ≠ [] ∧ (∀ cell ∈ cells, cell.color = color) ∧
      (color = .error ↔ e.isFaulty t.data.header = true)
  /-- There is a reason exactly for unhealthy pods. Containers are counted in a 32-bit word. -/
  diagnosed (e : RowEvent) (p : Pod) (now : Int) : e.row = p.row now →
    (e.isFaulty t.data.header = true ↔ p.IsUnhealthy (p.containers.length % UInt32.size)) ∧
    (p.containers.length < UInt32.size →
      (e.isFaulty t.data.header = true ↔ p.IsUnhealthy p.containers.length))
  /-- Without a query, what is displayed as an error is what the faults mode would display, and that
  is all that is faulty. -/
  turnedOn : Query.read t.query = .empty → t.faultsOnly = false →
    t.errorRows.Perm (t.data.rows.filter (·.isFaulty t.data.header)) ∧
      t.toggleFaults.visible.rows.Perm t.errorRows
  turnedOff : Query.read t.query = .empty → t.faultsOnly = true →
    t.visible.rows.Perm (t.data.rows.filter (·.isFaulty t.data.header)) ∧
      t.visible.rows.Perm t.toggleFaults.errorRows

/-- The rows displayed as errors under the empty query are the faulty ones, whether the faults mode is
on or off. -/
theorem errorRows_perm (h : ListsPods t) (hdrawn : t.IsDrawn)
    (hquery : Query.read t.query = .empty) :
    t.errorRows.Perm (t.data.rows.filter (·.isFaulty t.data.header)) := by
  have hcolor : t.errorRows = t.visible.rows.filter (·.isFaulty t.data.header) := by
    rw [LiveTable.errorRows_eq hdrawn h.columns]
    apply List.filter_congr
    intro e he
    rw [Bool.eq_iff_iff, decide_eq_true_iff]
    exact rowColor_eq_error_iff_isFaulty h (LiveTable.mem_data_of_mem_visible hdrawn.holds he)
  have hvisible := (LiveTable.visible_perm hdrawn.holds hquery).filter (·.isFaulty t.data.header)
  rw [List.filter_filter] at hvisible
  rw [hcolor]
  refine hvisible.trans (.of_eq (List.filter_congr fun e _ => ?_))
  cases e.isFaulty t.data.header <;> simp

/-- What a drawing makes of pods displays their health. -/
theorem marksFaults_of_isDrawn (h : ListsPods t) (hdrawn : t.IsDrawn) (hcolored : t.IsColored) :
    MarksFaults t := by
  obtain ⟨hcolorer, hdata, hplan, hsame, hturned⟩ := LiveTable.toggleFaults_frame hdrawn
  have htoggled : t.toggleFaults.IsDrawn := LiveTable.isDrawn_refresh _
  refine ⟨?_, ?_, ?_, ?_⟩
  · -- the cells of a row are in its color, and there is at least one
    intro r e he
    obtain ⟨cells, hcells, hcolor⟩ := hcolored r e he
    refine ⟨cells, t.rowColor e, hcells, ?_, hcolor, ?_⟩
    · rw [hdrawn.grid, List.getElem?_map, he, Option.map_some, Option.some.injEq] at hcells
      rw [← hcells]
      exact LiveTable.cells_ne_nil h.columns e
    · apply rowColor_eq_error_iff_isFaulty h
      exact LiveTable.mem_data_of_mem_visible hdrawn.holds (List.mem_of_getElem? he)
  · intro e p now hrow
    have hreason : e.isFaulty t.data.header = true ↔
        p.IsUnhealthy (p.containers.length % UInt32.size) := by
      rw [h.header, isFaulty_iff hrow, diagnosis_ne_empty_iff]
    refine ⟨hreason, fun hlt => ?_⟩
    rwa [Nat.mod_eq_of_lt hlt] at hreason
  · -- the faults mode displays what is faulty in the snapshot, with the same columns as before
    intro hquery hoff
    have herrors := errorRows_perm h hdrawn hquery
    have hvisible := LiveTable.visible_perm_faulty htoggled.holds (hsame ▸ hquery)
      (by rw [hturned, hoff]; rfl)
    rw [hdata] at hvisible
    exact ⟨herrors, hvisible.trans herrors.symm⟩
  · intro hquery hon
    have hlists : ListsPods t.toggleFaults :=
      ⟨hcolorer.trans h.colorer, hdata ▸ h.header, hdata ▸ h.rows, hplan ▸ h.columns⟩
    have hvisible := LiveTable.visible_perm_faulty hdrawn.holds hquery hon
    have herrors := errorRows_perm hlists htoggled (hsame ▸ hquery)
    rw [hdata] at herrors
    exact ⟨hvisible, hvisible.trans herrors.symm⟩

/-- Whatever a table was before, after an operation that draws it anew it displays the health of its
pods. -/
theorem marksFaults_of_draws (t : LiveTable) (op : Operation) (hop : op.draws t = true)
    (h : ListsPods (t.apply op).1) : MarksFaults (t.apply op).1 := by
  obtain ⟨u, hu, -⟩ := LiveTable.exists_refresh_of_draws hop
  rw [hu] at h ⊢
  exact marksFaults_of_isDrawn h (LiveTable.isDrawn_refresh u) (LiveTable.isColored_refresh u)

/-- A listing of pods that comes in is displayed with the health of the pods, if some column is. -/
theorem listsPods_update {c : Cluster} (hkind : c.kind = .pods) (now : Int)
    (hcolorer : t.colorer = podColor) (hplain : t.decorate = none)
    (hcolumns : ({ t with data := c.snapshot now }.columnOptions.plan podHeader).columns ≠ []) :
    ListsPods (t.update (c.snapshot now)) := by
  have hheader : (c.snapshot now).header = podHeader := by
    unfold snapshot
    rw [hkind]
    rfl
  have hincoming : t.incoming (c.snapshot now) = c.snapshot now := by
    rw [LiveTable.incoming, hplain]
    rfl
  rw [LiveTable.update_eq_refresh, hincoming]
  refine ⟨?_, ?_, ?_, ?_⟩
  · rw [LiveTable.refresh_colorer]
    exact hcolorer
  · rw [LiveTable.refresh_data]
    exact hheader
  · rw [LiveTable.refresh_data]
    intro e he
    obtain ⟨i, hi⟩ := List.getElem?_of_mem he
    obtain ⟨r, -, hrow⟩ := exists_of_row hi
    rw [hkind] at hrow
    cases r with
    | pod p => exact ⟨p, now, (Except.ok.inj hrow).symm⟩
    | node n => cases hrow
  · rw [LiveTable.refresh_plan]
    dsimp only
    rw [hheader]
    exact hcolumns

end

attribute [local instance] nativeEngine

/-- A cluster one of whose pods lacks a container. -/
def flapping : Cluster :=
  ((start (typicalPods 1700000000000000000) [] true false).run?
    [.advance 1700000000000000000, .advance 1700000000000000000]).get (by decide +kernel)

/-- A table with marks on a healthy pod and on the one that is not. -/
def markedTable : LiveTable where
  kind := "pods"
  colorer := podColor
  marks := ["default/redis-0", "default/api-6d8f7b9c4-k2m4n"]

/-- The mark on the unhealthy pod does not hide it. -/
theorem marksFaults_flapping :
    (Operation.update (flapping.snapshot 1700000000000000000)).draws markedTable = true ∧
    ListsPods (markedTable.apply (.update (flapping.snapshot 1700000000000000000))).1 ∧
    MarksFaults (markedTable.apply (.update (flapping.snapshot 1700000000000000000))).1 ∧
    ((flapping.snapshot 1700000000000000000).rows.filter (·.isFaulty podHeader)).map (·.row.id) =
      ["default/api-6d8f7b9c4-k2m4n"] := by
  have hdraws : (Operation.update (flapping.snapshot 1700000000000000000)).draws markedTable =
      true := rfl
  have hlists : ListsPods (markedTable.apply (.update (flapping.snapshot 1700000000000000000))).1 :=
    listsPods_update (by decide +kernel) _ rfl rfl (by decide +kernel)
  exact ⟨hdraws, hlists, marksFaults_of_draws markedTable _ hdraws hlists, by decide +kernel⟩

end Cluster

end ResourceBrowser
