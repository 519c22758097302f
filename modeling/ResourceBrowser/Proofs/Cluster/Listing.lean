import ResourceBrowser.Proofs.Cluster.Changes
import ResourceBrowser.Proofs.Table.Plan

/-!
# Resources and their rows

A listing has one row for each resource of the kind and scope that is asked for, in the same order,
and the id of a row is the path of its resource.

* `exists_row`: every resource that is listed has a row.
* `exists_of_row`: every row of a listing is that of a listed resource.
* `ids_snapshot`: the ids of a listing are the paths of the listed resources.
-/

namespace ResourceBrowser

open Table

namespace Cluster

/-- Every resource has a row in the listing of its kind, with its path as the id. -/
theorem Resource.exists_row (r : Resource) (now : Int) :
    ∃ row, r.kind.row r now = .ok row ∧ row.id = r.path := by
  cases r with
  | pod p => exact ⟨p.row now, rfl, rfl⟩
  | node n => exact ⟨n.row now, rfl, rfl⟩

variable {c : Cluster}

/-- What is listed is of the kind that is asked for. -/
theorem kind_of_mem_resources {r : Resource} (h : r ∈ c.resources) : r.kind = c.kind := by
  unfold resources at h
  cases hkind : c.kind with
  | pods =>
    rw [hkind] at h
    obtain ⟨p, -, rfl⟩ := List.mem_map.1 h
    rfl
  | nodes =>
    rw [hkind] at h
    obtain ⟨n, -, rfl⟩ := List.mem_map.1 h
    rfl

theorem exists_row {r : Resource} (h : r ∈ c.resources) (now : Int) :
    ∃ row, c.kind.row r now = .ok row ∧ row.id = r.path := by
  rw [← kind_of_mem_resources h]
  exact r.exists_row now

/-- No resource that is listed is left without a row. -/
theorem map_some_rows (c : Cluster) (now : Int) :
    (c.rows now).map some = c.resources.map fun r => (c.kind.row r now).toOption := by
  apply map_some_filterMap
  intro r hr
  obtain ⟨row, hrow, -⟩ := exists_row hr now
  rw [hrow]
  rfl

/-- The row at a place of a listing is that of the resource at the same place. -/
theorem exists_of_row {now : Int} {i : Nat} {e : RowEvent}
    (h : (c.snapshot now).rows[i]? = some e) :
    ∃ r, c.resources[i]? = some r ∧ c.kind.row r now = .ok e.row := by
  have hrow : (c.rows now)[i]? = some e.row := by
    unfold snapshot at h
    rw [List.getElem?_map] at h
    obtain ⟨row, hrow, rfl⟩ := Option.map_eq_some_iff.1 h
    rw [hrow, RowEvent.diff_row]
  have hmap := congrArg (·[i]?) (map_some_rows c now)
  simp only [List.getElem?_map, hrow, Option.map_some] at hmap
  cases hr : c.resources[i]? with
  | none => simp [hr] at hmap
  | some r =>
    rw [hr, Option.map_some, Option.some.injEq] at hmap
    refine ⟨r, rfl, ?_⟩
    cases hread : c.kind.row r now with
    | error e => simp [hread, Except.toOption] at hmap
    | ok row =>
      rw [hread] at hmap
      rw [Option.some.inj hmap]

/-- The ids of a listing are the paths of what is listed. -/
theorem ids_snapshot (c : Cluster) (now : Int) :
    (c.snapshot now).ids = c.resources.map Resource.path := by
  have hids : (c.snapshot now).ids = (c.rows now).map (·.id) := by
    unfold Snapshot.ids snapshot
    rw [List.map_map]
    apply List.map_congr_left
    intro row _
    rw [Function.comp_apply, RowEvent.diff_row]
  rw [hids, rows, List.map_filterMap, ← List.filterMap_eq_map]
  apply List.filterMap_congr
  intro r hr
  obtain ⟨row, hrow, hid⟩ := exists_row hr now
  rw [hrow]
  exact congrArg some hid

end Cluster

end ResourceBrowser
