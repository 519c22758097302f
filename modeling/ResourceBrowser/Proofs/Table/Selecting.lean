import Mathlib.Data.List.FinRange
import Mathlib.Data.List.Perm.Basic
import ResourceBrowser.Proofs.Table.Filter
import ResourceBrowser.Table.NativeEngine

/-!
# Filtering is selecting

Whatever the query, a filter takes rows of a snapshot from their places, each place at most once,
and changes nothing else. What has been filtered is not changed by filtering it again. For a fuzzy
search this is not about the rows alone: the search puts them into an order, which has to be the
order they are in already.

* `perm_filter`: the rows a filter leaves are the rows that the query keeps.
* `filter_filter`: filtering again.
* `Selects`: how a filtered snapshot comes from the whole one, `selects_filter`.
-/

namespace ResourceBrowser.Table

namespace Snapshot

section

variable [Engine] {s shown again : Snapshot} {query : String}

/-! ## Rows that are kept -/

/-- A query that ranks is a search for some text; any other leaves the order alone. -/
theorem perm_filter (h : s.filter query = .ok shown) :
    shown.rows.Perm (s.rows.filter ((Query.read query).keeps s.header)) := by
  cases hranks : (Query.read query).ranks with
  | false => rw [filter_rows h hranks]
  | true =>
    obtain ⟨text, hquery, htext⟩ := Query.exists_of_ranks hranks
    exact (stablySorted_filter h hquery htext).perm

theorem header_filter (h : s.filter query = .ok shown) : shown.header = s.header := by
  rw [filter_eq_withRows h]
  rfl

theorem ns_filter (h : s.filter query = .ok shown) : shown.ns = s.ns := by
  rw [filter_eq_withRows h]
  rfl

/-- What a query has left, it keeps. -/
theorem filter_keeps (h : s.filter query = .ok shown) :
    shown.rows.filter ((Query.read query).keeps shown.header) = shown.rows := by
  rw [List.filter_eq_self, header_filter h]
  intro e he
  exact (List.mem_filter.1 ((perm_filter h).mem_iff.1 he)).2

/-! ## Filtering again -/

/-- The rows of a fuzzy search are in its order, so it sorts them into the order they have. -/
theorem rows_filter_filter (h : s.filter query = .ok shown)
    (hagain : shown.filter query = .ok again) : again.rows = shown.rows := by
  cases hranks : (Query.read query).ranks with
  | false => rw [filter_rows hagain hranks, filter_keeps h]
  | true =>
    obtain ⟨text, hquery, htext⟩ := Query.exists_of_ranks hranks
    have hfirst := stablySorted_filter h hquery htext
    have hsecond := stablySorted_filter hagain hquery htext
    rw [filter_keeps h, header_filter h] at hsecond
    exact (stablySorted_self hfirst.ordered).eq hsecond

theorem filter_filter (h : s.filter query = .ok shown) : shown.filter query = .ok shown := by
  obtain ⟨again, hagain⟩ := exists_filter_of_isValid shown (isValid_of_filter h)
  have hsame : again = shown := by
    rw [filter_eq_withRows hagain, rows_filter_filter h hagain]
    rfl
  rw [hagain, hsame]

/-! ## Places of the rows -/

/-- The rows are taken from the places of those that the query keeps. -/
theorem exists_places_filter (h : s.filter query = .ok shown) :
    ∃ places : List (Fin s.rows.length), places.Nodup ∧
      (∀ i, i ∈ places ↔ (Query.read query).keeps s.header (s.rows.get i) = true) ∧
        shown.rows = places.map s.rows.get := by
  let keeps := (Query.read query).keeps s.header
  let kept := (List.finRange s.rows.length).filter (keeps ∘ s.rows.get)
  have hkept : s.rows.filter keeps = kept.map s.rows.get := by
    rw [← List.filter_map, List.map_get_finRange]
  have hperm : shown.rows.Perm (kept.map s.rows.get) := hkept ▸ perm_filter h
  -- the rows can be rearranged by rearranging the places
  obtain ⟨places, hrows, hplaces⟩ : ∃ places : List (Fin s.rows.length),
      shown.rows = places.map s.rows.get ∧ places.Perm kept := by
    have hlift := congrFun (congrFun (List.eq_map_comp_perm s.rows.get) shown.rows) kept
    exact hlift.mpr hperm
  refine ⟨places, ?_, ?_, hrows⟩
  · exact hplaces.nodup_iff.2 ((List.nodup_finRange _).filter _)
  · intro i
    rw [hplaces.mem_iff]
    simp [kept, keeps]

/-- `shown` is what a query selects of a snapshot: some of its rows, each from a place of its own,
under the same header and of the same scope. -/
structure Selects (query : String) (s shown : Snapshot) : Prop where
  /-- Nothing is left to be done. -/
  again : shown.filter query = .ok shown
  header : shown.header = s.header
  ns : shown.ns = s.ns
  /-- Only a fuzzy search puts the rows into another order. -/
  inOrder : (Query.read query).ranks = false → shown.rows.Sublist s.rows
  /-- The rows are taken from the places where there is something to be kept, each place once. -/
  places : ∃ places : List (Fin s.rows.length), places.Nodup ∧
    (∀ i, i ∈ places ↔ (Query.read query).keeps s.header (s.rows.get i) = true) ∧
      shown.rows = places.map s.rows.get
  /-- Whether a query can be read does not depend on the snapshot. -/
  everywhere (other : Snapshot) : ∃ shown, other.filter query = .ok shown

/-- Filtering is selecting. -/
theorem selects_filter (h : s.filter query = .ok shown) : Selects query s shown := by
  have hinOrder : (Query.read query).ranks = false → shown.rows.Sublist s.rows := by
    intro hranks
    rw [filter_rows h hranks]
    exact List.filter_sublist
  exact ⟨filter_filter h, header_filter h, ns_filter h, hinOrder, exists_places_filter h,
    fun other => exists_filter_of_isValid other (isValid_of_filter h)⟩

end

attribute [local instance] nativeEngine

/-- Three names, of which the last one is the best match for a search. -/
def threeNames : Snapshot :=
  ⟨[{ name := "NAME" }],
    [.ofRow ⟨"my-web", ["my-web"]⟩, .ofRow ⟨"redis", ["redis"]⟩, .ofRow ⟨"web", ["web"]⟩],
    "default"⟩

/-- The search turns the order of the two names that it keeps. -/
theorem selects_threeNames :
    ∃ shown, threeNames.filter "-f web" = .ok shown ∧
      shown.rows.map (·.row.id) = ["web", "my-web"] ∧ Selects "-f web" threeNames shown := by
  let web : RowEvent := .ofRow ⟨"web", ["web"]⟩
  let myWeb : RowEvent := .ofRow ⟨"my-web", ["my-web"]⟩
  have hanswer : threeNames.filter "-f web" = .ok (threeNames.ranked "web" 0) := rfl
  have hrows : (threeNames.ranked "web" 0).rows = [web, myWeb] := by
    have hkept : (threeNames.rows.filter fun e => (e.rank? "web" 0).isSome) = [myWeb, web] := by
      decide +kernel
    have hturned : (compareRanks "web" 0 myWeb web).isLE = false := by decide +kernel
    rw [ranked_rows threeNames 0 (by decide), hkept]
    simp [List.mergeSort, hturned]
  refine ⟨threeNames.ranked "web" 0, hanswer, ?_, selects_filter hanswer⟩
  rw [hrows]
  rfl

end Snapshot

end ResourceBrowser.Table
