import Mathlib.Data.List.FinRange
import ResourceBrowser.Table.Order

/-!
# Rows in order

Sorting rows by a column is stable: the rows come out in the order of the column, and rows that
compare equal stay in the order they were in. This holds in both directions, since turning the
direction turns the comparison and not the result.

* `stablySorted_mergeSort`: sorting by a comparison is stable.
* `StablySorted.eq`: a list can be sorted stably in one way only.
* `StablySorted.filter`: taking elements away does not disturb a stable order.
* `exists_places_mergeSort`: sorting, told by the places of what is sorted.
* `transCmp_compareRows`: rows compare transitively, for every column and in both directions.
* `stablySorted_sortRows`: what sorting rows by a column comes to.
-/

namespace ResourceBrowser.Table

open Number

/-- `sorted` holds what `source` holds, in the order of `cmp`, and what compares equal to some `a`
in the order of `source`. -/
structure StablySorted {α : Type} (cmp : α → α → Ordering) (source sorted : List α) : Prop where
  perm : sorted.Perm source
  ordered : sorted.Pairwise fun a b => (cmp a b).isLE
  ties (a : α) : sorted.filter (cmp a · = .eq) = source.filter (cmp a · = .eq)

section Comparison

variable {α β : Type} {cmp : α → α → Ordering}

/-! ## Sorting by a comparison -/

/-- All that compares equal to `a` compares equal among itself. -/
theorem pairwise_filter_eq [Std.TransCmp cmp] (a : α) (l : List α) :
    (l.filter (cmp a · = .eq)).Pairwise fun b c => (cmp b c).isLE := by
  apply List.pairwise_of_forall_mem_list
  intro b hb c hc
  simp only [List.mem_filter, decide_eq_true_eq] at hb hc
  have hbc : cmp b c = .eq := by rw [← Std.TransCmp.congr_left hb.2, hc.2]
  simp [hbc]

/-- Sorting by a comparison is stable. -/
theorem stablySorted_mergeSort [Std.TransCmp cmp] (l : List α) :
    StablySorted cmp l (l.mergeSort fun a b => (cmp a b).isLE) := by
  have trans : ∀ a b c, (cmp a b).isLE → (cmp b c).isLE → (cmp a c).isLE := by
    intro a b c hab hbc
    exact Std.TransCmp.isLE_trans hab hbc
  have total : ∀ a b, (cmp a b).isLE || (cmp b a).isLE := by
    intro a b
    have hswap : cmp b a = (cmp a b).swap := Std.OrientedCmp.eq_swap
    rw [hswap]
    cases cmp a b <;> rfl
  refine ⟨List.mergeSort_perm _ _, List.pairwise_mergeSort trans total l, ?_⟩
  intro a
  -- the class of `a` is in order as it stands, so it survives sorting as a sublist
  have hsub : (l.filter (cmp a · = .eq)).Sublist
      ((l.mergeSort fun a b => (cmp a b).isLE).filter (cmp a · = .eq)) := by
    have h := List.sublist_mergeSort trans total (pairwise_filter_eq a l) List.filter_sublist
    simpa using h.filter (cmp a · = .eq)
  have hlen := ((List.mergeSort_perm l fun a b => (cmp a b).isLE).filter (cmp a · = .eq)).length_eq
  exact (hsub.eq_of_length hlen.symm).symm

/-! ## The one stable order -/

/-- Everything is in the class of what compares equal to it, so the classes tell the members. -/
theorem mem_iff_of_ties [Std.TransCmp cmp] {l m : List α}
    (h : ∀ a, l.filter (cmp a · = .eq) = m.filter (cmp a · = .eq)) (a : α) : a ∈ l ↔ a ∈ m := by
  have hself : cmp a a = .eq := Std.ReflCmp.compare_self
  have hclass : a ∈ l.filter (cmp a · = .eq) ↔ a ∈ m.filter (cmp a · = .eq) := by rw [h a]
  simpa [hself] using hclass

/-- Lists in order that agree on what compares equal are the same. -/
theorem eq_of_ties [Std.TransCmp cmp] {l m : List α}
    (hl : l.Pairwise fun a b => (cmp a b).isLE) (hm : m.Pairwise fun a b => (cmp a b).isLE)
    (h : ∀ a, l.filter (cmp a · = .eq) = m.filter (cmp a · = .eq)) : l = m := by
  have hself : ∀ a, cmp a a = .eq := fun a => Std.ReflCmp.compare_self
  have hmem := mem_iff_of_ties h
  induction l generalizing m with
  | nil =>
    have hnone : ∀ b, b ∉ m := fun b hb => List.not_mem_nil ((hmem b).2 hb)
    exact (List.eq_nil_iff_forall_not_mem.2 hnone).symm
  | cons a l ih =>
    cases m with
    | nil => exact absurd ((hmem a).1 List.mem_cons_self) List.not_mem_nil
    | cons b m =>
      obtain ⟨ha, hl'⟩ := List.pairwise_cons.1 hl
      obtain ⟨hb, hm'⟩ := List.pairwise_cons.1 hm
      -- neither head comes after the other, so they are the first of one class
      have hle : (cmp a b).isLE := by
        rcases List.mem_cons.1 ((hmem b).2 List.mem_cons_self) with rfl | hin
        · simp [hself b]
        · exact ha b hin
      have hge : (cmp b a).isLE := by
        rcases List.mem_cons.1 ((hmem a).1 List.mem_cons_self) with rfl | hin
        · simp [hself a]
        · exact hb a hin
      have heq : cmp a b = .eq := Std.OrientedCmp.isLE_antisymm hle hge
      have hclass := h a
      simp only [List.filter_cons, hself a, heq, decide_true, if_true, List.cons.injEq] at hclass
      obtain ⟨rfl, -⟩ := hclass
      have htails : ∀ c, l.filter (cmp c · = .eq) = m.filter (cmp c · = .eq) := by
        intro c
        have hc := h c
        by_cases hca : cmp c a = .eq
        · simpa [List.filter_cons, hca] using hc
        · simpa [List.filter_cons, hca] using hc
      rw [ih hl' hm' htails (mem_iff_of_ties htails)]

variable {source sorted other : List α}

/-- A list can be sorted stably in one way only. -/
theorem StablySorted.eq [Std.TransCmp cmp] (h : StablySorted cmp source sorted)
    (hother : StablySorted cmp source other) : other = sorted :=
  eq_of_ties hother.ordered h.ordered fun a => (hother.ties a).trans (h.ties a).symm

/-- Some of what was sorted stably is some of the source, sorted stably. -/
theorem StablySorted.filter (h : StablySorted cmp source sorted) (p : α → Bool) :
    StablySorted cmp (source.filter p) (sorted.filter p) where
  perm := h.perm.filter p
  ordered := h.ordered.filter p
  ties a := by
    -- within a class it does not matter what is taken away first
    have hclass : ∀ l : List α, (l.filter p).filter (cmp a · = .eq) =
        (l.filter (cmp a · = .eq)).filter p := fun l => List.filter_comm _ _ l
    rw [hclass, hclass, h.ties a]

/-- What is in order is sorted already. -/
theorem stablySorted_self (h : source.Pairwise fun a b => (cmp a b).isLE) :
    StablySorted cmp source source :=
  ⟨List.Perm.refl source, h, fun _ => rfl⟩

/-- What compares equal stands as in the source, whatever that says of the order there. -/
theorem StablySorted.pairwise [Std.TransCmp cmp] {r : α → α → Prop}
    (h : StablySorted cmp source sorted) (hr : source.Pairwise r) :
    sorted.Pairwise fun a b => cmp a b = .lt ∨ cmp a b = .eq ∧ r a b := by
  rw [List.pairwise_iff_forall_sublist]
  intro a b hab
  have hle : (cmp a b).isLE := List.pairwise_iff_forall_sublist.1 h.ordered hab
  cases hcmp : cmp a b with
  | lt => exact .inl rfl
  | gt => simp [hcmp] at hle
  | eq =>
    -- both are in the class of `a`, which has the same order in the source
    have hself : cmp a a = .eq := Std.ReflCmp.compare_self
    have hclass : [a, b].Sublist (source.filter (cmp a · = .eq)) := by
      rw [← h.ties a]
      simpa [hself, hcmp] using hab.filter (cmp a · = .eq)
    have hsource : [a, b].Sublist source := hclass.trans List.filter_sublist
    exact .inr ⟨rfl, List.pairwise_iff_forall_sublist.1 hr hsource⟩

/-- Sorting takes the members from their places, each place once, and from the earlier place first
where members compare equal. -/
theorem exists_places_mergeSort [Std.TransCmp cmp] (l : List α) :
    ∃ places : List (Fin l.length), places.Perm (List.finRange l.length) ∧
      places.Pairwise (fun i j => cmp (l.get i) (l.get j) = .lt ∨
        cmp (l.get i) (l.get j) = .eq ∧ i < j) ∧
      l.mergeSort (fun a b => (cmp a b).isLE) = places.map l.get := by
  -- the places are sorted like what stands at them
  have hplaces : StablySorted (Ordering.byKey l.get cmp) (List.finRange l.length) _ :=
    stablySorted_mergeSort (List.finRange l.length)
  refine ⟨_, hplaces.perm, hplaces.pairwise (List.pairwise_lt_finRange _), ?_⟩
  have hsorted : ((List.finRange l.length).mergeSort fun i j =>
      (Ordering.byKey l.get cmp i j).isLE).map l.get =
        ((List.finRange l.length).map l.get).mergeSort fun a b => (cmp a b).isLE :=
    List.map_mergeSort fun _ _ _ _ => rfl
  rw [hsorted, List.map_get_finRange]

/-! ## Comparing what can be read before what cannot -/

/-- What `read` reads comes in the order of `cmp`, and before what it cannot read, which comes in
the order of `rest`. -/
def compareRead (read : α → Option β) (cmp : β → β → Ordering) (rest : α → α → Ordering)
    (a b : α) : Ordering :=
  match read a, read b with
  | some x, some y => cmp x y
  | some _, none => .lt
  | none, some _ => .gt
  | none, none => rest a b

instance transCmp_compareRead (read : α → Option β) (cmp : β → β → Ordering)
    (rest : α → α → Ordering) [Std.TransCmp cmp] [Std.TransCmp rest] :
    Std.TransCmp (compareRead read cmp rest) where
  eq_swap := by
    intro a b
    unfold compareRead
    cases read a <;> cases read b <;> try rfl
    · exact Std.OrientedCmp.eq_swap
    · exact Std.OrientedCmp.eq_swap
  isLE_trans := by
    intro a b c
    unfold compareRead
    cases read a <;> cases read b <;> cases read c <;> simp
    · exact Std.TransCmp.isLE_trans
    · exact Std.TransCmp.isLE_trans

instance transCmp_directed (ascending : Bool) (cmp : α → α → Ordering) [Std.TransCmp cmp] :
    Std.TransCmp fun a b => directed ascending (cmp a b) := by
  cases ascending with
  | true => exact inferInstanceAs (Std.TransCmp cmp)
  | false =>
    have h : (fun a b => directed false (cmp a b)) = fun a b => cmp b a := by
      funext a b
      exact Std.OrientedCmp.eq_swap.symm
    rw [h]
    exact Std.TransCmp.opposite

end Comparison

/-! ## Comparing rows -/

/-- Everything compares equal to everything. -/
instance transCmp_eq {α : Type} : Std.TransCmp fun _ _ : α => Ordering.eq where
  eq_swap := rfl
  isLE_trans := fun _ h => h

instance transCmp_compareValues : Std.TransCmp compareValues :=
  inferInstanceAs (Std.TransCmp (compareRead readQuantity? (compareOn totalKey) compare))

instance transCmp_compareAges (ascending : Bool) : Std.TransCmp (compareAges ascending) :=
  inferInstanceAs (Std.TransCmp
    (compareRead readAge? (fun x y => directed ascending (compare x y)) fun _ _ => .eq))

theorem isLE_compareAges_iff (ascending : Bool) (x y : String) :
    (compareAges ascending x y).isLE ↔ ∀ n, readAge? y = some n →
      ∃ m, readAge? x = some m ∧ if ascending then m ≤ n else n ≤ m := by
  unfold compareAges
  cases hy : readAge? y with
  | none => cases readAge? x <;> simp
  | some n =>
    cases hx : readAge? x with
    | none => simp
    | some m =>
      cases ascending with
      | true => simp [directed, Nat.isLE_compare]
      | false => simp [directed, Nat.compare_swap, Nat.isLE_compare]

instance transCmp_compareFields (isAge ascending : Bool) :
    Std.TransCmp (compareFields isAge ascending) := by
  cases isAge with
  | true => exact transCmp_compareAges ascending
  | false => exact transCmp_directed ascending compareValues

/-- Rows compare transitively by every column and in both directions. -/
instance transCmp_compareRows (index : Nat) (isAge ascending : Bool) :
    Std.TransCmp (compareRows index isAge ascending) where
  eq_swap := by
    intro a b
    exact @Std.OrientedCmp.eq_swap _ (compareFields isAge ascending) _ _ _
  isLE_trans := by
    intro a b c hab hbc
    exact @Std.TransCmp.isLE_trans _ (compareFields isAge ascending) _ _ _ _ hab hbc

/-- Sorting rows by a column is stable. -/
theorem stablySorted_sortRows (rows : List RowEvent) (index : Nat) (isAge ascending : Bool) :
    StablySorted (compareRows index isAge ascending) rows
      (sortRows rows index isAge ascending) :=
  stablySorted_mergeSort rows

end ResourceBrowser.Table
