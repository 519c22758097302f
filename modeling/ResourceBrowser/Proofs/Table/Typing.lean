import Mathlib.Data.List.Infix
import ResourceBrowser.Proofs.Table.Redrawing
import ResourceBrowser.Table.NativeEngine

/-!
# Typing a query

A query can be typed character by character, with a drawing after each of them, or set at once. Both
come to the same display exactly if the table accepts every text that is there on the way; a text
that it refuses, such as a group that is still open, is dropped, and typing goes on from nothing.

* `setQuery_setQuery`: a query that was accepted leaves no trace in the display of the next one.
* `typesAlike_iff`: when typing a text comes to the same as setting it.
-/

namespace ResourceBrowser.Table

namespace LiveTable

section

variable [Engine]

/-! ## Queries one after the other -/

/-- True when a table accepts a query. -/
def accepts (t : LiveTable) (query : String) : Bool := (t.setQuery query).2.isNone

/-- A table with another query, which is yet to be drawn. -/
def asking (t : LiveTable) (query : String) : LiveTable :=
  { t with query, trackedId := none, selected := 0 }

variable {t : LiveTable} {query next : String}

/-- An accepted query is drawn; a refused one is dropped, and the table is drawn without it. -/
theorem setQuery_cases (t : LiveTable) (query : String) :
    (t.accepts query = true ∧ ∃ shown, t.base.filter query = .ok shown ∧
      (t.setQuery query).1 = (t.asking query).draw shown) ∨
    (t.accepts query = false ∧ ∃ lastError,
      (t.setQuery query).1 = { t.asking "" with lastError }.draw t.base) := by
  have hbase : (t.asking query).base = t.base := rfl
  have hset : t.setQuery query = (t.asking query).redraw := rfl
  unfold accepts
  rw [hset, redraw, hbase]
  cases h : t.base.filter (t.asking query).query with
  | ok shown => exact .inl ⟨rfl, shown, h, rfl⟩
  | error e => exact .inr ⟨rfl, _, rfl⟩

theorem setQuery_of_accepts (h : t.accepts query = true) : ∃ shown,
    t.base.filter query = .ok shown ∧ (t.setQuery query).1 = (t.asking query).draw shown := by
  rcases setQuery_cases t query with ⟨-, hdrawn⟩ | ⟨hrefused, -⟩
  · exact hdrawn
  · rw [h] at hrefused
    cases hrefused

/-- Which queries a table accepts depends on nothing but the query. -/
theorem accepts_iff (t : LiveTable) (query : String) :
    t.accepts query = true ↔ (Query.read query).IsValid := by
  constructor
  · intro h
    obtain ⟨shown, hshown, -⟩ := setQuery_of_accepts h
    exact Snapshot.isValid_of_filter hshown
  · intro h
    obtain ⟨shown, hshown⟩ := Snapshot.exists_filter_of_isValid t.base h
    have hset : t.setQuery query = (t.asking query).redraw := rfl
    have hfilter : (t.asking query).base.filter (t.asking query).query = .ok shown := hshown
    rw [accepts, hset, redraw, hfilter]
    rfl

theorem accepts_eq (t u : LiveTable) (query : String) : t.accepts query = u.accepts query := by
  rw [Bool.eq_iff_iff, accepts_iff, accepts_iff]

theorem accepts_empty (t : LiveTable) : t.accepts "" = true := rfl

theorem setQuery_filtering (t : LiveTable) (query : String) :
    (t.setQuery query).1.filtering = t.filtering :=
  refresh_filtering _

theorem setQuery_query (t : LiveTable) (query : String) :
    (t.setQuery query).1.query = if t.accepts query then query else "" := by
  rcases setQuery_cases t query with ⟨haccepts, shown, -, h⟩ | ⟨hrefused, lastError, h⟩
  · rw [h, draw_query, haccepts]
    rfl
  · rw [h, draw_query, hrefused]
    rfl

/-- Whether the last drawing had to fall back does not matter for the next query. -/
theorem setQuery_congr {u v : LiveTable} (h : u.steady = v.steady) (query : String) :
    u.setQuery query = v.setQuery query := by
  have hsteady : ∀ w : LiveTable, w.steady.setQuery query = w.setQuery query := fun _ => rfl
  rw [← hsteady u, h, hsteady v]

/-- After a query that was accepted, the next one makes the display that it makes without it. -/
theorem setQuery_setQuery (h : t.accepts query = true) (hnext : t.accepts next = true) :
    ((t.setQuery query).1.setQuery next).1.steady = (t.setQuery next).1.steady := by
  obtain ⟨before, hbefore, hu⟩ := setQuery_of_accepts h
  obtain ⟨shown, hshown, hdrawn⟩ := setQuery_of_accepts hnext
  obtain ⟨again, hagain, hlast⟩ := setQuery_of_accepts
    ((accepts_eq (t.setQuery query).1 t next).trans hnext)
  rw [hlast, hdrawn, hu]
  rw [hu] at hagain
  obtain ⟨_, _, _, _, _, _, _, _, hframe⟩ := draw_frame (t.asking query) before
  obtain rfl : shown = again := by
    rw [hframe] at hagain
    exact Except.ok.inj (hshown.symm.trans hagain)
  -- both queries leave the header, and so they settle the same sort key
  have hsort : ((t.asking query).draw before).sort = ((t.asking next).draw shown).sort := by
    refine draw_sort_congr (t.asking query) before (u := t.asking next) rfl rfl ?_
    rw [Snapshot.filter_eq_withRows hbefore, Snapshot.filter_eq_withRows hshown]
    rfl
  have hasking : (((t.asking query).draw before).asking next).draw shown =
      ({ t.asking next with sort := ((t.asking query).draw before).sort } : LiveTable).draw
        shown := by
    rw [hframe]
    rfl
  rw [hasking, hsort, draw_settled]
  rfl

/-! ## Character by character -/

/-- A table after a text was typed character by character. -/
def typed (t : LiveTable) (text : String) : LiveTable := t.run (text.toList.map .typeFilter)

theorem typed_empty (t : LiveTable) : t.typed "" = t := rfl

theorem typed_push (t : LiveTable) (text : String) (c : Char) :
    t.typed (text.push c) = ((t.typed text).apply (.typeFilter c)).1 := by
  simp only [typed, run, String.toList_push, List.map_append, List.foldl_append, List.map_cons,
    List.map_nil, List.foldl_cons, List.foldl_nil]

/-- Typing does not stop the taking of input. -/
theorem typed_filtering (t : LiveTable) (text : String) :
    (t.typed text).filtering = t.filtering := by
  induction text using String.push_induction with
  | empty => rfl
  | push text c ih =>
    rw [typed_push, apply_typeFilter]
    split
    · rw [setQuery_filtering, ih]
    · exact ih

section

variable {text : String} {c : Char}

/-- While input is taken, a character sets the query that is one longer. -/
theorem typed_push_of_filtering (h : t.filtering = true) :
    t.typed (text.push c) = ((t.typed text).setQuery ((t.typed text).query.push c)).1 := by
  rw [typed_push, apply_typeFilter, typed_filtering, if_pos h]

/-- True when a table accepts all that is there of a text while it is typed. -/
def AcceptsAlong (t : LiveTable) (text : String) : Prop :=
  ∀ p : String, p.toList <+: text.toList → t.accepts p = true

theorem acceptsAlong_push :
    t.AcceptsAlong (text.push c) ↔ t.AcceptsAlong text ∧ t.accepts (text.push c) = true := by
  simp only [AcceptsAlong, String.toList_push, List.prefix_concat_iff]
  constructor
  · intro h
    exact ⟨fun p hp => h p (.inr hp), h _ (.inl (String.toList_push c))⟩
  · rintro ⟨h, hlast⟩ p (hp | hp)
    · rw [← String.toList_push, String.toList_inj] at hp
      rw [hp]
      exact hlast
    · exact h p hp

/-- A text that is accepted all along is the query in the end. -/
theorem typed_query (h : t.filtering = true) (hquery : t.query = "")
    (haccepts : t.AcceptsAlong text) : (t.typed text).query = text := by
  induction text using String.push_induction with
  | empty => exact hquery
  | push text c ih =>
    obtain ⟨hbefore, hlast⟩ := acceptsAlong_push.1 haccepts
    rw [typed_push_of_filtering h, ih hbefore, setQuery_query, accepts_eq _ t, hlast]
    rfl

/-- A text that is refused on the way is not caught up with: the query stays shorter. -/
theorem typed_query_length (h : t.filtering = true) (hquery : t.query = "")
    (hrefused : ¬t.AcceptsAlong text) : (t.typed text).query.length < text.length := by
  induction text using String.push_induction with
  | empty =>
    refine absurd ?_ hrefused
    intro p hp
    obtain rfl : p = "" := String.toList_inj.1 (List.prefix_nil.1 hp)
    exact accepts_empty t
  | push text c ih =>
    rw [typed_push_of_filtering h, setQuery_query, String.length_push]
    by_cases hbefore : t.AcceptsAlong text
    · -- the last character makes the refused text
      have hlast : t.accepts (text.push c) = false := by
        rw [Bool.eq_false_iff]
        intro hlast
        exact hrefused (acceptsAlong_push.2 ⟨hbefore, hlast⟩)
      rw [typed_query h hquery hbefore, accepts_eq _ t, hlast]
      exact Nat.zero_lt_succ _
    · split
      · rw [String.length_push]
        exact Nat.succ_lt_succ (ih hbefore)
      · exact Nat.zero_lt_succ _

/-- Typing a text that is accepted all along makes the display that setting it makes. -/
theorem typed_steady (h : t.filtering = true) (hquery : t.query = "") (hne : text ≠ "")
    (haccepts : t.AcceptsAlong text) :
    (t.typed text).steady = (t.setQuery text).1.steady := by
  induction text using String.push_induction with
  | empty => exact absurd rfl hne
  | push text c ih =>
    obtain ⟨hbefore, hlast⟩ := acceptsAlong_push.1 haccepts
    rw [typed_push_of_filtering h, typed_query h hquery hbefore]
    by_cases htext : text = ""
    · rw [htext, typed_empty]
    · rw [setQuery_congr (ih htext hbefore)]
      exact setQuery_setQuery (hbefore text (List.prefix_refl _)) hlast

end

/-! ## Typing and setting -/

/-- Typing a text leaves the query, the rows, the cells and the selection that setting it leaves. -/
structure TypesAlike (t : LiveTable) (text : String) : Prop where
  query : (t.typed text).query = text
  visible : (t.typed text).visible = (t.setQuery text).1.visible
  head : (t.typed text).head = (t.setQuery text).1.head
  grid : (t.typed text).grid = (t.setQuery text).1.grid
  selected : (t.typed text).selected = (t.setQuery text).1.selected
  trackedId : (t.typed text).trackedId = (t.setQuery text).1.trackedId

/-- From an empty query, typing a text comes to the same as setting it exactly if the table accepts
all that is there of the text on the way. -/
theorem typesAlike_iff (t : LiveTable) (text : String) (h : t.filtering = true)
    (hquery : t.query = "") (hne : text ≠ "") : t.TypesAlike text ↔
      ∀ p : String, p.toList <+: text.toList → (t.setQuery p).2 = none := by
  have halong : t.AcceptsAlong text ↔
      ∀ p : String, p.toList <+: text.toList → (t.setQuery p).2 = none := by
    simp only [AcceptsAlong, accepts, Option.isNone_iff_eq_none]
  rw [← halong]
  constructor
  · intro halike
    by_contra hrefused
    have hshorter := typed_query_length h hquery hrefused
    rw [halike.query] at hshorter
    exact Nat.lt_irrefl _ hshorter
  · intro haccepts
    have hsteady := typed_steady h hquery hne haccepts
    exact ⟨typed_query h hquery haccepts, congrArg (·.visible) hsteady,
      congrArg (·.head) hsteady, congrArg (·.grid) hsteady, congrArg (·.selected) hsteady,
      congrArg (·.trackedId) hsteady⟩

end

/-- Two pods of which only the ids are listed. -/
def bareIds : Snapshot :=
  ⟨[], [.ofRow ⟨"default/web", []⟩, .ofRow ⟨"default/redis", []⟩], "default"⟩

attribute [local instance] nativeEngine

/-- A prompt for a query, with the second pod selected. -/
def prompted : LiveTable :=
  ({ kind := "pods" } : LiveTable).run [.update bareIds, .down 1, .activateFilter]

/-- Letters can be typed: each beginning of the text is a pattern. -/
theorem typesAlike_letters :
    prompted.filtering = true ∧ prompted.query = "" ∧ "we" ≠ "" ∧
      (prompted.TypesAlike "we" ↔
        ∀ p : String, p.toList <+: "we".toList → (prompted.setQuery p).2 = none) :=
  ⟨rfl, rfl, by decide, typesAlike_iff prompted "we" rfl rfl (by decide)⟩

/-- A group cannot be typed, because it is refused while it is open; and setting the empty text goes
back to the first row, where typing nothing stays on the second. -/
theorem not_typesAlike_group :
    prompted.filtering = true ∧ prompted.query = "" ∧
      ((prompted.setQuery "(-)").2 = none ∧ ¬prompted.TypesAlike "(-)") ∧
      (prompted.setQuery "").2 = none ∧ ¬prompted.TypesAlike "" := by
  refine ⟨rfl, rfl, ⟨by decide +kernel, ?_⟩, by decide +kernel, ?_⟩
  · intro h
    exact absurd h.query (by decide +kernel)
  · intro h
    exact absurd h.selected (by decide +kernel)

end LiveTable

end ResourceBrowser.Table
