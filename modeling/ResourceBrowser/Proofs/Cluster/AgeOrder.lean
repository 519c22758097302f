import Mathlib.Order.Defs.LinearOrder
import ResourceBrowser.Cluster.Listing
import ResourceBrowser.Proofs.Number.Age
import ResourceBrowser.Proofs.Table.SortColumn

/-!
# The order of ages

A listing shows when a resource was created only as an age, which is a text with little precision.
Sorting by that text still follows the times of creation, as far as the texts tell them apart.

* `Listed`: a resource with the row that it is listed in.
* `field_of_age`: where the age of a resource stands in its row.
* `compareAges_ageText_eq_iff`, `ageText_eq_of_isLE`, `eq_none_of_isLE`: how two ages compare.
* `FollowsCreation`: what sorting by age comes to, `followsCreation_sortRows`.
-/

namespace ResourceBrowser.Cluster

open Number Table

/-- The time that a resource was created at, if that is known. -/
def Resource.created : Resource → Option Int
  | .pod p => p.created
  | .node n => n.created

/-! ## Resources and their rows -/

/-- A resource with the row that it is listed in. -/
structure Listed where
  resource : Resource
  event : RowEvent

/-- The text that a listing at the time `now` shows for the age. -/
def Listed.ageText (now : Int) (l : Listed) : String := Number.ageText l.resource.created now

/-- The row is that of the resource at the time `now`, and the resource was created at some time,
if that is known. -/
structure Listed.IsListed (kind : Kind) (now : Int) (l : Listed) : Prop where
  row : kind.row l.resource now = .ok l.event.row
  time (t : Int) : l.resource.created = some t → IsTime t

/-- The last column of a kind is the only one with the name of the age column. -/
theorem Kind.header_age (kind : Kind) : ∀ i < kind.header.length,
    kind.header[i]?.map (·.name) = some ageColumn → i + 1 = kind.header.length := by
  cases kind <;> decide

/-- The field of a resource in the age column is its age. -/
theorem Kind.field_of_age {kind : Kind} {r : Resource} {now : Int} {row : Row} {i : Nat}
    (hrow : kind.row r now = .ok row) (hi : kind.header[i]?.map (·.name) = some ageColumn) :
    row.fields[i]? = some (Number.ageText r.created now) ∧ kind.header.isTime i = true := by
  have hlt : i < kind.header.length := by
    obtain ⟨c, hc, -⟩ := Option.map_eq_some_iff.1 hi
    exact (List.getElem?_eq_some_iff.1 hc).1
  have hlast := kind.header_age i hlt hi
  cases kind with
  | pods =>
    obtain rfl : i = 10 := Nat.succ.inj hlast
    cases r with
    | pod p =>
      cases hrow
      exact ⟨rfl, rfl⟩
    | node n => cases hrow
  | nodes =>
    obtain rfl : i = 8 := Nat.succ.inj hlast
    cases r with
    | pod p => cases hrow
    | node n =>
      cases hrow
      exact ⟨rfl, rfl⟩

/-! ## Comparing ages -/

section Ages

variable {now : Int} {ascending : Bool} {s t : Option Int}

/-- Ages compare equal exactly if they have one text. -/
theorem compareAges_ageText_eq_iff (hs : ∀ x, s = some x → IsTime x)
    (ht : ∀ x, t = some x → IsTime x) (hnow : IsTime now) :
    compareAges ascending (ageText s now) (ageText t now) = .eq ↔
      ageText s now = ageText t now := by
  constructor
  · intro heq
    unfold compareAges at heq
    cases s with
    | none =>
      cases t with
      | none => rfl
      | some y =>
        have hy := readAge?_ageText (ht y rfl) hnow
        rw [ageText, readAge?_unknownAge, hy] at heq
        cases heq
    | some x =>
      have hx := readAge?_ageText (hs x rfl) hnow
      cases t with
      | none =>
        rw [hx, ageText, readAge?_unknownAge] at heq
        cases heq
      | some y =>
        have hy := readAge?_ageText (ht y rfl) hnow
        rw [hx, hy] at heq
        rw [ageText_eq_iff (hs x rfl) (ht y rfl) hnow]
        cases ascending with
        | true => exact Nat.compare_eq_eq.1 heq
        | false => exact Nat.compare_eq_eq.1 (Ordering.swap_eq_eq.1 heq)
  · intro htext
    rw [htext]
    exact Std.ReflCmp.compare_self

/-- Something may come before what was created on the far side of it only if both have one text. -/
theorem ageText_eq_of_isLE {x y : Int} (hx : IsTime x) (hy : IsTime y) (hnow : IsTime now)
    (hle : (compareAges ascending (ageText (some x) now) (ageText (some y) now)).isLE)
    (hfar : if ascending then x < y else y < x) :
    ageText (some x) now = ageText (some y) now := by
  rw [isLE_compareAges_iff] at hle
  obtain ⟨m, hm, hle⟩ := hle _ (readAge?_ageText hy hnow)
  rw [readAge?_ageText hx hnow] at hm
  obtain rfl := Option.some.inj hm
  rw [ageText_eq_iff hx hy hnow]
  cases ascending with
  | true =>
    -- `y` is younger than `x`, and not listed as such
    have hage := rounded_mono (ageSeconds_anti (Int.le_of_lt hfar) now)
    exact Nat.le_antisymm hle hage
  | false =>
    have hage := rounded_mono (ageSeconds_anti (Int.le_of_lt hfar) now)
    exact Nat.le_antisymm hage hle

/-- Something without a known time of creation comes before nothing else. -/
theorem eq_none_of_isLE (ht : ∀ x, t = some x → IsTime x) (hnow : IsTime now)
    (hle : (compareAges ascending (ageText none now) (ageText t now)).isLE) : t = none := by
  rw [isLE_compareAges_iff] at hle
  cases t with
  | none => rfl
  | some y =>
    obtain ⟨m, hm, -⟩ := hle _ (readAge?_ageText (ht y rfl) hnow)
    rw [ageText, readAge?_unknownAge] at hm
    cases hm

end Ages

/-! ## Sorting by age -/

/-- `sorted` has the resources of `source` in order of their times of creation, the latest first if
`ascending` and the earliest first if not, as far as their ages at the time `now` tell. -/
structure FollowsCreation (now : Int) (ascending : Bool) (source sorted : List Listed) : Prop where
  perm : sorted.Perm source
  /-- Nothing comes before what should come first, unless both are shown with one age. -/
  order : sorted.Pairwise fun a b => ∀ s t, a.resource.created = some s →
    b.resource.created = some t → (if ascending then s < t else t < s) →
    a.ageText now = b.ageText now
  /-- What is shown with one age stays in order. -/
  ties (text : String) :
    sorted.filter (·.ageText now == text) = source.filter (·.ageText now == text)
  /-- What has no known time of creation comes after everything else. -/
  unknown : sorted.Pairwise fun a b => a.resource.created = none → b.resource.created = none
  /-- What will only be created is shown with the age zero. -/
  future : ∀ l ∈ sorted, ∀ t, l.resource.created = some t → now < t → l.ageText now = "0s"

variable {kind : Kind} {now : Int} {listed : List Listed} {i : Nat} {ascending : Bool}

/-- Rows compare by the age column as the ages of their resources. -/
theorem compareRows_age {a b : Listed} (ha : a.IsListed kind now) (hb : b.IsListed kind now)
    (hi : kind.header[i]?.map (·.name) = some ageColumn) :
    compareRows i (kind.header.isTime i) ascending a.event b.event =
      compareAges ascending (a.ageText now) (b.ageText now) := by
  obtain ⟨hfield, htime⟩ := Kind.field_of_age ha.row hi
  obtain ⟨hfield', -⟩ := Kind.field_of_age hb.row hi
  rw [htime, compareRows, hfield, hfield']
  rfl

/-- The comparison that sorting by field `i` makes between resources. -/
def compareListed (kind : Kind) (i : Nat) (ascending : Bool) : Listed → Listed → Ordering :=
  Ordering.byKey Listed.event (compareRows i (kind.header.isTime i) ascending)

theorem compareListed_eq_eq_iff {a b : Listed} (hnow : IsTime now) (ha : a.IsListed kind now)
    (hb : b.IsListed kind now) (hi : kind.header[i]?.map (·.name) = some ageColumn) :
    compareListed kind i ascending a b = .eq ↔ a.ageText now = b.ageText now := by
  rw [compareListed, Ordering.byKey, compareRows_age ha hb hi]
  exact compareAges_ageText_eq_iff ha.time hb.time hnow

/-- Stable sorting by the age column keeps what is shown with one age in order. -/
theorem ties_of_stablySorted {sorted : List Listed} (hnow : IsTime now)
    (hlisted : ∀ l ∈ listed, l.IsListed kind now)
    (hi : kind.header[i]?.map (·.name) = some ageColumn)
    (h : StablySorted (compareListed kind i ascending) listed sorted) (text : String) :
    sorted.filter (·.ageText now == text) = listed.filter (·.ageText now == text) := by
  by_cases hsome : ∃ a ∈ listed, a.ageText now = text
  · -- what is shown with this age is what compares equal to some `a`
    obtain ⟨a, ha, rfl⟩ := hsome
    have hclass : ∀ l ∈ listed, (l.ageText now == a.ageText now) =
        decide (compareListed kind i ascending a l = .eq) := by
      intro l hl
      rw [Bool.eq_iff_iff, beq_iff_eq, decide_eq_true_iff,
        compareListed_eq_eq_iff hnow (hlisted a ha) (hlisted l hl) hi]
      exact eq_comm
    rw [List.filter_congr hclass, List.filter_congr fun l hl => hclass l (h.perm.mem_iff.1 hl)]
    exact h.ties a
  · -- nothing is shown with this age
    have hnone : ∀ l ∈ listed, ¬(l.ageText now == text) = true := by
      intro l hl hbeq
      exact hsome ⟨l, hl, beq_iff_eq.1 hbeq⟩
    rw [List.filter_eq_nil_iff.2 hnone,
      List.filter_eq_nil_iff.2 fun l hl => hnone l (h.perm.mem_iff.1 hl)]

/-- Stable sorting by the age column follows the times of creation. -/
theorem followsCreation_of_stablySorted {sorted : List Listed} (hnow : IsTime now)
    (hlisted : ∀ l ∈ listed, l.IsListed kind now)
    (hi : kind.header[i]?.map (·.name) = some ageColumn)
    (h : StablySorted (compareListed kind i ascending) listed sorted) :
    FollowsCreation now ascending listed sorted := by
  have hmem : ∀ l ∈ sorted, l.IsListed kind now := fun l hl => hlisted l (h.perm.mem_iff.1 hl)
  -- the order of the rows, read as one of ages
  have hages : sorted.Pairwise fun a b => a.IsListed kind now ∧ b.IsListed kind now ∧
      (compareAges ascending (a.ageText now) (b.ageText now)).isLE := by
    refine h.ordered.imp_of_mem ?_
    intro a b ha hb hle
    rw [compareListed, Ordering.byKey, compareRows_age (hmem a ha) (hmem b hb) hi] at hle
    exact ⟨hmem a ha, hmem b hb, hle⟩
  refine ⟨h.perm, ?_, ties_of_stablySorted hnow hlisted hi h, ?_, ?_⟩
  · refine hages.imp ?_
    rintro a b ⟨ha, hb, hle⟩ s t hs ht hfar
    unfold Listed.ageText at hle ⊢
    rw [hs, ht] at hle ⊢
    exact ageText_eq_of_isLE (ha.time s hs) (hb.time t ht) hnow hle hfar
  · refine hages.imp ?_
    rintro a b ⟨-, hb, hle⟩ hnone
    unfold Listed.ageText at hle
    rw [hnone] at hle
    exact eq_none_of_isLE hb.time hnow hle
  · intro l _ t ht hfuture
    rw [Listed.ageText, ht, ageText_some, ageSeconds_of_le (Int.le_of_lt hfuture)]
    rfl

/-- Sorting the rows of resources by the age column puts the resources in order of their times of
creation. -/
theorem followsCreation_sortRows {k : SortKey} {shown : List Nat} {target : SortTarget}
    (hnow : IsTime now) (hlisted : ∀ l ∈ listed, l.IsListed kind now) (hk : k.column = ageColumn)
    (htarget : k.resolve? kind.header shown = some target) (hfound : target.fallback = false) :
    ∃ sorted : List Listed, sorted.map (·.event) =
        sortRows (listed.map (·.event)) target.index target.isAge k.ascending ∧
      FollowsCreation now k.ascending listed sorted := by
  obtain ⟨hname, hage⟩ := SortKey.column_of_resolve? htarget hfound
  rw [hk] at hname
  have htrans : Std.TransCmp (compareListed kind target.index k.ascending) :=
    inferInstanceAs (Std.TransCmp (Ordering.byKey Listed.event _))
  refine ⟨listed.mergeSort fun a b => (compareListed kind target.index k.ascending a b).isLE,
    ?_, followsCreation_of_stablySorted hnow hlisted hname (stablySorted_mergeSort listed)⟩
  -- rows are compared as what they are the rows of
  rw [hage, sortRows]
  exact List.map_mergeSort fun _ _ _ _ => rfl

/-- Pods that were created so many nanoseconds before the time `now`, if that is known. -/
def podsOfAge (now : Int) (ages : List (String × Option Int)) : List Listed :=
  ages.map fun (name, age) =>
    let pod : Pod :=
      { ns := "default", name, labels := [], phase := .running, ready := 0, restarts := 0
        ip := none, node := none, containers := [], cpuMilli := none, memoryBytes := none
        created := age.map (now - ·) }
    ⟨.pod pod, .ofRow (pod.row now)⟩

theorem isListed_podsOfAge {ages : List (String × Option Int)}
    (h : ∀ a ∈ ages, ∀ age ∈ a.2, IsTime (now - age)) :
    ∀ l ∈ podsOfAge now ages, l.IsListed .pods now := by
  intro l hl
  obtain ⟨⟨name, age⟩, hmem, rfl⟩ := List.mem_map.1 hl
  refine ⟨rfl, ?_⟩
  intro t ht
  obtain ⟨span, hspan, rfl⟩ := Option.map_eq_some_iff.1 ht
  exact h _ hmem span hspan

/-- Two pods of three hours, one of which is half a minute older, one pod of unknown age, one that
is half a second old and one that will be created in a minute. -/
def mixedAges : List (String × Option Int) :=
  [("old", some (10800 * secondNanos)), ("lost", none), ("new", some (500 * milliNanos)),
    ("later", some (-60 * secondNanos)), ("older", some (10830 * secondNanos))]

/-- The oldest first. -/
theorem followsCreation_mixedAges :
    IsTime 1700000000000000000 ∧
    (∀ l ∈ podsOfAge 1700000000000000000 mixedAges, l.IsListed .pods 1700000000000000000) ∧
    (⟨ageColumn, false⟩ : SortKey).resolve? Kind.pods.header [1, 10] = some ⟨10, true, false⟩ ∧
    ∃ sorted : List Listed, sorted.map (·.event) =
        sortRows ((podsOfAge 1700000000000000000 mixedAges).map (·.event)) 10 true false ∧
      FollowsCreation 1700000000000000000 false (podsOfAge 1700000000000000000 mixedAges)
        sorted := by
  have hnow : IsTime 1700000000000000000 := by decide
  have hlisted : ∀ l ∈ podsOfAge 1700000000000000000 mixedAges,
      l.IsListed .pods 1700000000000000000 := isListed_podsOfAge (by decide)
  have htarget : (⟨ageColumn, false⟩ : SortKey).resolve? Kind.pods.header [1, 10] =
      some ⟨10, true, false⟩ := by decide
  exact ⟨hnow, hlisted, htarget, followsCreation_sortRows hnow hlisted rfl htarget rfl⟩

end ResourceBrowser.Cluster
