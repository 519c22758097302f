import ResourceBrowser.Proofs.Number.Decimal
import ResourceBrowser.Proofs.Table.Order

/-!
# Sorting rows by a column

The fields of a column are any texts, numbers and ages among them, and some that look like neither.
Still the comparisons of fields are total preorders, so that there is one stable order of the rows
and sorting finds it, in both directions.

* `IsTotalComparison`: what a comparison is that can be sorted by.
* `ComparesValues`: how fields compare that are not ages, `comparesValues_compareValues`.
* `SortsByField`: what sorting comes to, told by rows and by their places.
* `sortsByField_sortRows`: sorting by any column, with the comparisons that it uses.
-/

namespace ResourceBrowser.Table

open Number

/-! ## Comparing fields -/

/-- A comparison is a total preorder in which `.eq` tells the classes. -/
structure IsTotalComparison {α : Type} (cmp : α → α → Ordering) : Prop where
  refl (a : α) : (cmp a a).isLE
  total (a b : α) : (cmp a b).isLE ∨ (cmp b a).isLE
  trans (a b c : α) : (cmp a b).isLE → (cmp b c).isLE → (cmp a c).isLE
  equal : Equivalence fun a b => cmp a b = .eq
  swap (a b : α) : cmp b a = (cmp a b).swap

theorem isTotalComparison_of_transCmp {α : Type} (cmp : α → α → Ordering) [Std.TransCmp cmp] :
    IsTotalComparison cmp := by
  have hself : ∀ a, cmp a a = .eq := fun a => Std.ReflCmp.compare_self
  have hswap : ∀ a b, cmp b a = (cmp a b).swap := fun a b => Std.OrientedCmp.eq_swap
  refine ⟨?_, ?_, ?_, ⟨hself, Std.OrientedCmp.eq_symm, Std.TransCmp.eq_trans⟩, hswap⟩
  · intro a
    rw [hself a]
    rfl
  · intro a b
    rw [hswap a b]
    cases cmp a b <;> simp
  · intro a b c hab hbc
    exact Std.TransCmp.isLE_trans hab hbc

/-- A comparison of fields that are not ages: numbers compare by the total order of double-precision
numbers, and before texts, which compare by code points. -/
structure ComparesValues (cmp : String → String → Ordering) : Prop
    extends IsTotalComparison cmp where
  numbers {a b : String} {x y : Float} (ha : readQuantity? a = some x)
    (hb : readQuantity? b = some y) :
    (cmp a b = .lt ↔ TotallyBefore x y) ∧ (cmp a b = .eq ↔ x.toBits = y.toBits)
  mixed {a b : String} {x : Float} (ha : readQuantity? a = some x)
    (hb : readQuantity? b = none) : cmp a b = .lt
  texts {a b : String} (ha : readQuantity? a = none) (hb : readQuantity? b = none) :
    (cmp a b = .lt ↔ a.toList < b.toList) ∧ (cmp a b = .eq ↔ a = b)

theorem comparesValues_compareValues : ComparesValues compareValues := by
  refine ⟨isTotalComparison_of_transCmp compareValues, ?_, ?_, ?_⟩
  · intro a b x y ha hb
    have hcmp : compareValues a b = compare (totalKey x) (totalKey y) := by
      simp only [compareValues, ha, hb]
    rw [hcmp, Int.compare_eq_lt, Int.compare_eq_eq]
    exact ⟨totalKey_lt_iff, totalKey_eq_iff⟩
  · intro a b x ha hb
    simp only [compareValues, ha, hb]
  · intro a b ha hb
    have hcmp : compareValues a b = compare a b := by
      simp only [compareValues, ha, hb]
      rfl
    have hlt : a < b ↔ a.toList < b.toList := Iff.rfl
    rw [hcmp, ← hlt]
    exact ⟨compareOfLessAndEq_eq_lt, Std.LawfulEqOrd.compare_eq_iff_eq⟩

/-! ## Sorting by a field -/

/-- What cannot be read as an age comes before nothing that can. -/
theorem readAge?_eq_none_of_isLE {ascending : Bool} {x y : String}
    (h : (compareAges ascending x y).isLE) (hx : readAge? x = none) : readAge? y = none := by
  cases hy : readAge? y with
  | none => rfl
  | some n =>
    obtain ⟨m, hm, -⟩ := (isLE_compareAges_iff ascending x y).1 h n hy
    rw [hx] at hm
    cases hm

/-- `sorted` are the rows of `rows` in their only stable order by the field at `index`. -/
structure SortsByField (index : Nat) (isAge ascending : Bool) (rows sorted : List RowEvent) : Prop
    extends StablySorted (compareRows index isAge ascending) rows sorted where
  unique (other : List RowEvent) :
    StablySorted (compareRows index isAge ascending) rows other → other = sorted
  /-- Every row is taken from its place, each place once, and from the earlier place first where
  rows compare equal. -/
  places : ∃ places : List (Fin rows.length), places.Perm (List.finRange rows.length) ∧
    places.Pairwise (fun i j =>
      compareRows index isAge ascending (rows.get i) (rows.get j) = .lt ∨
        compareRows index isAge ascending (rows.get i) (rows.get j) = .eq ∧ i < j) ∧
    sorted = places.map rows.get
  /-- Rows whose age cannot be read come after all others. -/
  unreadLast : isAge = true → sorted.Pairwise fun a b =>
    readAge? (a.row.fields[index]?.getD "") = none →
      readAge? (b.row.fields[index]?.getD "") = none

/-- Fields compare as total preorders, and sorting by them finds the stable order of the rows. -/
theorem sortsByField_sortRows (rows : List RowEvent) (index : Nat) (isAge ascending : Bool) :
    ComparesValues compareValues ∧ IsTotalComparison (compareAges ascending) ∧
      SortsByField index isAge ascending rows (sortRows rows index isAge ascending) := by
  have hstable := stablySorted_sortRows rows index isAge ascending
  refine ⟨comparesValues_compareValues, isTotalComparison_of_transCmp (compareAges ascending),
    hstable, fun other hother => hstable.eq hother, exists_places_mergeSort rows, ?_⟩
  rintro rfl
  refine hstable.ordered.imp ?_
  intro a b hle hunread
  exact readAge?_eq_none_of_isLE hle hunread

end ResourceBrowser.Table
