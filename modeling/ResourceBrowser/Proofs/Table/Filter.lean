import Mathlib.Data.List.Basic
import ResourceBrowser.Proofs.Table.Order
import ResourceBrowser.Table.Filter

/-!
# What filters keep

A filter is described by the rows it keeps: `RowEvent.isFaulty` for the faults mode and
`Query.keeps` for a query. A filtered snapshot holds exactly these rows, in the order of the
snapshot or, for a fuzzy search, with the best match first.

* `faults_rows`: the rows that the faults mode leaves.
* `filter_rows`: the rows that a query leaves, unless it ranks them.
* `stablySorted_filter`: the rows that a fuzzy search leaves, and their order.

All of this holds for every engine.
-/

namespace ResourceBrowser.Table

open Text

/-- True for the rows of a table with `header` that are unhealthy as far as the table can tell. -/
def RowEvent.isFaulty (header : Header) (e : RowEvent) : Bool :=
  match header.validIndex? with
  | none => true
  | some i => e.row.fields[i]?.any (· != "")

section

variable [Engine]

/-- True for the rows of a table with `header` that a query keeps. Label selectors and blank
searches keep every row. -/
def Query.keeps (q : Query) (header : Header) (e : RowEvent) : Bool :=
  match q with
  | .empty | .label _ => true
  | .fuzzy text => text == "" || e.row.fields[header.nameIndex]?.any fun value =>
      Fuzzy.isAnchored text value && (Engine.score? text value).isSome
  | .pattern text =>
    match Engine.compile text with
    | .ok isMatch => isMatch e.searchText
    | .error _ => false

/-- A query that is not a pattern, or a pattern that can be read. -/
def Query.IsValid (q : Query) : Prop :=
  ∀ text, q = .pattern text → ∃ isMatch, Engine.compile text = .ok isMatch

theorem Query.isValid_empty : (Query.read "").IsValid := by
  intro text h
  cases h

end

/-- A pattern is the query as it was typed. -/
theorem Query.eq_of_read_pattern {query text : String} (h : Query.read query = .pattern text) :
    text = query := by
  unfold Query.read at h
  split at h <;> cases h
  rfl

/-- Only a search for some text ranks rows. -/
theorem Query.exists_of_ranks {q : Query} (h : q.ranks = true) :
    ∃ text, q = .fuzzy text ∧ text ≠ "" := by
  cases q with
  | fuzzy text => exact ⟨text, rfl, by simpa [Query.ranks] using h⟩
  | empty | label _ | pattern _ => cases h

theorem Query.ranks_fuzzy {text : String} (h : text ≠ "") : (Query.fuzzy text).ranks = true := by
  simpa [Query.ranks] using h

/-- The order of a fuzzy search: the better match comes first. -/
def compareRanks [Engine] (text : String) (i : Nat) (a b : RowEvent) : Ordering :=
  compare (b.rank? text i) (a.rank? text i)

instance transCmp_compareRanks [Engine] (text : String) (i : Nat) :
    Std.TransCmp (compareRanks text i) where
  eq_swap := by
    intro a b
    exact @Std.OrientedCmp.eq_swap (Option Nat) compare _ _ _
  isLE_trans := by
    intro a b c hab hbc
    exact @Std.TransCmp.isLE_trans (Option Nat) compare _ _ _ _ hbc hab

namespace Snapshot

variable {s shown : Snapshot} {query : String}

/-! ## Unhealthy rows -/

theorem faults_header (s : Snapshot) : s.faults.header = s.header := by
  unfold faults
  split <;> rfl

theorem faults_ns (s : Snapshot) : s.faults.ns = s.ns := by
  unfold faults
  split <;> rfl

theorem faults_rows (s : Snapshot) : s.faults.rows = s.rows.filter (·.isFaulty s.header) := by
  unfold faults RowEvent.isFaulty
  cases h : s.header.validIndex? with
  | none => exact (List.filter_true _).symm
  | some i =>
    have hflag : ∀ e : RowEvent, e.isFlagged i = e.row.fields[i]?.any (· != "") := by
      intro e
      unfold RowEvent.isFlagged
      cases e.row.fields[i]? <;> rfl
    simp [withRows, hflag]

/-! ## Rows that a fuzzy search keeps -/

/-- A row has a rank exactly if the search keeps it. -/
theorem isSome_rankBy? (score? : String → String → Option Nat) (text : String) (i : Nat)
    (e : RowEvent) : (e.rankBy? score? text i).isSome = e.row.fields[i]?.any fun value =>
      Fuzzy.isAnchored text value && (score? text value).isSome := by
  unfold RowEvent.rankBy?
  cases e.row.fields[i]? with
  | none => rfl
  | some value => cases h : Fuzzy.isAnchored text value <;> simp [h]

/-- Pairing the rows that have a rank with it keeps them in order. -/
theorem map_filterMap_rank (rank? : RowEvent → Option Nat) (rows : List RowEvent) :
    (rows.filterMap fun e => (rank? e).map fun n => (n, e)).map (·.2) =
      rows.filter fun e => (rank? e).isSome := by
  rw [List.map_filterMap, ← List.filterMap_eq_filter]
  apply List.filterMap_congr
  intro e _
  cases hr : rank? e <;> simp [Option.guard, hr]

variable [Engine]

/-- The rows of a fuzzy search are the rows with a rank, sorted by it. -/
theorem ranked_rows (s : Snapshot) {text : String} (i : Nat) (h : text ≠ "") :
    (s.ranked text i).rows =
      (s.rows.filter fun e => (e.rank? text i).isSome).mergeSort fun a b =>
        (compareRanks text i a b).isLE := by
  -- the score paired with a row is the rank of that row, so pairs compare as their rows do
  have hscored : ∀ p ∈ s.rows.filterMap fun e => (e.rank? text i).map fun n => (n, e),
      p.2.rank? text i = some p.1 := by
    intro p hp
    obtain ⟨e, -, he⟩ := List.mem_filterMap.1 hp
    obtain ⟨n, hn, rfl⟩ := Option.map_eq_some_iff.1 he
    exact hn
  simp only [ranked, rankedBy, beq_iff_eq, h, if_false, withRows]
  rw [← map_filterMap_rank]
  apply List.map_mergeSort
  intro a ha b hb
  rw [compareRanks, hscored a ha, hscored b hb]
  show decide (b.1 ≤ a.1) = (compare b.1 a.1).isLE
  rw [Bool.eq_iff_iff, decide_eq_true_iff, Nat.isLE_compare]

/-! ## Rows that a query keeps -/

/-- What a filter answers is the same table with other rows. -/
theorem filter_eq_withRows (h : s.filter query = .ok shown) : shown = s.withRows shown.rows := by
  unfold filter at h
  split at h
  · cases h; rfl
  · cases h; rfl
  · rename_i text _
    cases h
    unfold ranked rankedBy
    split <;> rfl
  · unfold matching at h
    split at h
    · cases h
    · cases h; rfl

/-- A filter answers only to queries that can be read. -/
theorem isValid_of_filter (h : s.filter query = .ok shown) : (Query.read query).IsValid := by
  intro text htext
  rw [filter, htext] at h
  simp only [matching] at h
  split at h
  · cases h
  · rename_i isMatch hcompile
    exact ⟨isMatch, hcompile⟩

/-- A filter answers to every query that can be read. -/
theorem exists_filter_of_isValid (s : Snapshot) (h : (Query.read query).IsValid) :
    ∃ shown, s.filter query = .ok shown := by
  unfold filter
  cases hq : Query.read query with
  | empty => exact ⟨_, rfl⟩
  | label _ => exact ⟨_, rfl⟩
  | fuzzy _ => exact ⟨_, rfl⟩
  | pattern text =>
    obtain ⟨isMatch, hcompile⟩ := h text hq
    exact ⟨s.withRows (s.rows.filter fun e => isMatch e.searchText), by simp [matching, hcompile]⟩

/-- A filter refuses a query that cannot be read, and tells which one, and what the engine says. -/
theorem filter_of_not_isValid (h : ¬(Query.read query).IsValid) :
    ∃ message, Engine.compile query = .error message ∧
      ∀ s : Snapshot, s.filter query = .error ⟨query, message⟩ := by
  unfold filter
  cases hq : Query.read query with
  | empty | label _ | fuzzy _ =>
    refine absurd ?_ h
    intro text htext
    rw [hq] at htext
    cases htext
  | pattern text =>
    obtain rfl := Query.eq_of_read_pattern hq
    cases hcompile : Engine.compile text with
    | error message => exact ⟨message, rfl, fun s => by simp [matching, hcompile]⟩
    | ok isMatch =>
      refine absurd ?_ h
      intro other hother
      obtain rfl := Query.eq_of_read_pattern hother
      exact ⟨isMatch, hcompile⟩

/-- A query that does not rank leaves the rows it keeps, in order of the snapshot. -/
theorem filter_rows (h : s.filter query = .ok shown) (hr : (Query.read query).ranks = false) :
    shown.rows = s.rows.filter ((Query.read query).keeps s.header) := by
  unfold filter at h
  cases hq : Query.read query with
  | empty =>
    rw [hq] at h
    cases h
    exact (List.filter_true _).symm
  | label selector =>
    rw [hq] at h
    cases h
    exact (List.filter_true _).symm
  | fuzzy text =>
    have htext : text = "" := by simpa [hq, Query.ranks] using hr
    subst htext
    rw [hq] at h
    cases h
    exact (List.filter_true _).symm
  | pattern text =>
    rw [hq] at h
    simp only [matching] at h
    cases hcompile : Engine.compile text with
    | error message => simp [hcompile] at h
    | ok isMatch =>
      rw [hcompile] at h
      cases h
      have hkeeps : (Query.pattern text).keeps s.header = fun e => isMatch e.searchText := by
        funext e
        simp [Query.keeps, hcompile]
      rw [hkeeps]
      rfl

/-- A fuzzy search leaves the rows it keeps, sorted by rank. -/
theorem stablySorted_filter (h : s.filter query = .ok shown) {text : String}
    (hq : Query.read query = .fuzzy text) (htext : text ≠ "") :
    StablySorted (compareRanks text s.header.nameIndex)
      (s.rows.filter ((Query.read query).keeps s.header)) shown.rows := by
  have hkeeps : (Query.read query).keeps s.header =
      fun e => (e.rank? text s.header.nameIndex).isSome := by
    funext e
    simp [hq, Query.keeps, htext, RowEvent.rank?, isSome_rankBy?]
  rw [filter, hq] at h
  cases h
  rw [hkeeps, ranked_rows s _ htext]
  exact stablySorted_mergeSort _

end Snapshot

end ResourceBrowser.Table
