import Mathlib.Data.List.Nodup
import ResourceBrowser.Table.Order
import ResourceBrowser.Table.Plan

/-!
# Plans and their headers

A plan and the full header agree: the columns of a plan are those of the header at the positions
of the plan, one for each.

* `map_some_header`, `getElem?_header`: the column at each place of a plan.
* `nodup_indices`, `nodup_names`: a plan repeats nothing that header and settings do not repeat.
* `resolve?_column`: the sort key that names the column in use finds that column.
-/

namespace ResourceBrowser.Table

/-- Where a function answers to every element of a list, nothing is left out. -/
theorem map_some_filterMap {α β : Type} {f : α → Option β} {l : List α}
    (h : ∀ a ∈ l, (f a).isSome) : (l.filterMap f).map some = l.map f := by
  induction l with
  | nil => rfl
  | cons a l ih =>
    obtain ⟨b, hb⟩ := Option.isSome_iff_exists.1 (h a List.mem_cons_self)
    have ih := ih fun c hc => h c (List.mem_cons_of_mem a hc)
    simp [hb, ih]

namespace ColumnOptions

variable (o : ColumnOptions) (header : Header)

/-- The positions of a plan are positions in the full header. -/
theorem isSome_of_mem_indices {i : Nat} (h : i ∈ (o.plan header).indices) :
    (header[i]?).isSome := by
  have hi := (List.mem_filter.1 h).2
  cases hc : header[i]? with
  | none => simp [hc] at hi
  | some c => rfl

/-- The columns of a plan are those of the full header at the positions of the plan. -/
theorem map_some_header :
    (o.plan header).header.map some = (o.plan header).indices.map fun i => header[i]? :=
  map_some_filterMap fun _ h => isSome_of_mem_indices o header h

/-- A plan has as many columns as positions. -/
theorem length_header : (o.plan header).header.length = (o.plan header).indices.length := by
  have h := congrArg List.length (map_some_header o header)
  simpa using h

/-- The first column of a plan is that at its first position. -/
theorem head?_header {i : Nat} (h : (o.plan header).indices.head? = some i) :
    (o.plan header).header.head? = header[i]? := by
  have hmap := congrArg List.head? (map_some_header o header)
  simp only [List.head?_map, h, Option.map_some] at hmap
  cases hc : (o.plan header).header.head? with
  | none => simp [hc] at hmap
  | some c => simpa [hc] using hmap

/-- The column at a place of a plan is that of the full header at the position there. -/
theorem getElem?_header {j i : Nat} (h : (o.plan header).indices[j]? = some i) :
    (o.plan header).header[j]? = header[i]? := by
  have hmap := congrArg (·[j]?) (map_some_header o header)
  simp only [List.getElem?_map, h, Option.map_some] at hmap
  cases hc : (o.plan header).header[j]? with
  | none => simp [hc] at hmap
  | some c => simpa [hc] using hmap

/-! ## Plans without repeats -/

/-- A column found by name has that name. -/
theorem name_of_indexOf? {name : String} {wide : Bool} {i : Nat}
    (h : Header.indexOf? header name wide = some i) :
    header[i]?.map (·.name) = some name := by
  obtain ⟨hlt, hfound, -⟩ := List.findIdx?_eq_some_iff_getElem.1 h
  rw [Bool.and_eq_true, beq_iff_eq] at hfound
  rw [List.getElem?_eq_getElem hlt, Option.map_some, hfound.1]

/-- A plan goes to no position twice, unless a column is asked for twice. -/
theorem nodup_indices (h : o.explicit.Nodup) : (o.plan header).indices.Nodup := by
  have hcandidates : (o.candidates header).Nodup := by
    unfold candidates
    split
    · exact List.nodup_range.filter _
    · -- names at one position are one name
      refine h.filterMap ?_
      intro a b i ha hb
      have hname := (name_of_indexOf? header ha).symm.trans (name_of_indexOf? header hb)
      exact Option.some.inj hname
  exact hcandidates.filter _

/-- The names of the shown columns are those at their positions. -/
theorem map_name_header : (o.plan header).header.map (·.name) =
    (o.plan header).indices.filterMap fun i => (header.map (·.name))[i]? := by
  unfold plan
  rw [List.map_filterMap]
  simp only [List.getElem?_map]

/-- Where all columns have different names, shown columns have if they are at different
positions. -/
theorem nodup_names_of_nodup_indices (hnames : (header.map (·.name)).Nodup)
    (h : (o.plan header).indices.Nodup) : ((o.plan header).header.map (·.name)).Nodup := by
  rw [map_name_header]
  refine h.filterMap ?_
  intro i k name hi hk
  exact (List.getElem?_inj (List.getElem?_eq_some_iff.1 hi).1 hnames).1 (hi.trans hk.symm)

/-- The shown columns have different names if all columns have, and none is asked for twice. -/
theorem nodup_names (hnames : (header.map (·.name)).Nodup) (h : o.explicit.Nodup) :
    ((o.plan header).header.map (·.name)).Nodup :=
  nodup_names_of_nodup_indices o header hnames (nodup_indices o header h)

end ColumnOptions

namespace SortKey

variable {k : SortKey} {header : Header} {shown : List Nat} {target : SortTarget}

/-- Only without shown columns there is no sort column. -/
theorem resolve?_eq_none_iff : k.resolve? header shown = none ↔ shown = [] := by
  unfold resolve?
  constructor
  · intro h
    split at h
    · cases h
    · simpa using h
  · intro h
    subst h
    rfl

/-- A sort column is found at one of the shown positions. -/
theorem mem_of_resolve? (h : k.resolve? header shown = some target) : target.index ∈ shown := by
  unfold resolve? at h
  split at h
  · rename_i i hi
    cases h
    exact List.mem_of_find?_eq_some hi
  · obtain ⟨i, hi, rfl⟩ := Option.map_eq_some_iff.1 h
    exact List.mem_of_head? hi

/-- The first shown column stands in for one that is not shown. -/
theorem head?_of_resolve? (h : k.resolve? header shown = some target)
    (hfall : target.fallback = true) : shown.head? = some target.index := by
  unfold resolve? at h
  split at h
  · cases h
    simp at hfall
  · obtain ⟨i, hi, rfl⟩ := Option.map_eq_some_iff.1 h
    exact hi

/-- A sort column that nothing stands in for is a shown column of the wanted name. -/
theorem column_of_resolve? (h : k.resolve? header shown = some target)
    (hfound : target.fallback = false) :
    header[target.index]?.map (·.name) = some k.column ∧
      target.isAge = header.isTime target.index := by
  unfold resolve? at h
  split at h
  · rename_i i hi
    cases h
    exact ⟨by simpa using List.find?_some hi, rfl⟩
  · obtain ⟨i, -, rfl⟩ := Option.map_eq_some_iff.1 h
    simp at hfound

/-- Sorting by the name of the column in use, in place of one that is not shown, finds that column
without falling back. -/
theorem resolve?_column (h : k.resolve? header shown = some target) {c : Column}
    (hc : header[target.index]? = some c) :
    ({ k with column := if target.fallback then c.name else k.column } : SortKey).resolve?
      header shown = some ⟨target.index, target.isAge, false⟩ := by
  unfold resolve? at h
  split at h
  · rename_i i hi
    cases h
    unfold resolve?
    simp only [Bool.false_eq_true, if_false]
    rw [hi]
  · rename_i hnone
    obtain ⟨i, hi, rfl⟩ := Option.map_eq_some_iff.1 h
    cases shown with
    | nil => simp at hi
    | cons j rest =>
      obtain rfl : j = i := by simpa using hi
      unfold resolve?
      simp [hc]

end SortKey

end ResourceBrowser.Table
