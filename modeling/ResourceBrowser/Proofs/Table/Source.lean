import ResourceBrowser.Proofs.Table.Drawing
import ResourceBrowser.Proofs.Text.Blank
import ResourceBrowser.Screen.Input
import ResourceBrowser.View.Browser

/-!
# What a table wants of its source

A table asks its source for one thing, the label selector of its query, and gets snapshots from it.
Everything but the query leaves both as they are, whatever it does to the display.

* `SameSource`: two tables that ask for the same and hold the same snapshot.
* `trim_labelSelector?`: a label selector has no blanks at its ends, and it is not empty.
* `tells_handleKey`: a key changes the label selector only if it tells so.
-/

namespace ResourceBrowser

namespace Table

open Text

/-! ## Label selectors -/

theorem Query.trim_of_selector? {text selector : String}
    (h : (Query.read text).selector? = some selector) : trim selector = selector := by
  unfold Query.read at h
  split at h
  · cases h
  · obtain rfl := Option.some.inj h
    rw [trim, String.toList_ofList, trimChars_trimChars]
  · cases h
  · cases h

/-- A query that cannot be applied is no label selector. -/
theorem Snapshot.selector?_of_filter [Engine] {s : Snapshot} {query : String} {e : InvalidExpression}
    (h : s.filter query = .error e) : (Query.read query).selector? = none := by
  unfold filter at h
  split at h
  · cases h
  · cases h
  · cases h
  · rename_i hread
    rw [hread]
    rfl

namespace LiveTable

variable {t u v : LiveTable}

/-- A label selector has no blanks at its ends, and it is not empty. -/
theorem trim_labelSelector? (t : LiveTable) :
    (t.labelSelector?.map trim).filter (· != "") = t.labelSelector? := by
  unfold labelSelector?
  cases h : (Query.read t.query).selector? with
  | none => rfl
  | some selector =>
    rw [Option.filter_some]
    split
    · rename_i hne
      rw [Option.map_some, Query.trim_of_selector? h, Option.filter_some, if_pos hne]
    · rfl

/-! ## Changes of the display -/

/-- Two tables that ask their source for the same and hold the same snapshot. -/
structure SameSource (t u : LiveTable) : Prop where
  label : u.labelSelector? = t.labelSelector?
  data : u.data = t.data
  decorate : u.decorate = t.decorate

theorem SameSource.refl (t : LiveTable) : SameSource t t := ⟨rfl, rfl, rfl⟩

theorem SameSource.trans (h : SameSource t u) (h' : SameSource u v) : SameSource t v :=
  ⟨h'.label.trans h.label, h'.data.trans h.data, h'.decorate.trans h.decorate⟩

theorem sameSource_select (t : LiveTable) (i : Nat) : SameSource t (t.select i) := by
  obtain ⟨selected, trackedId, h⟩ := select_frame t i
  rw [h]
  exact ⟨rfl, rfl, rfl⟩

variable [Engine]

/-- Drawing anew drops a query only if it is a pattern. -/
theorem refresh_labelSelector? (t : LiveTable) : t.refresh.labelSelector? = t.labelSelector? := by
  unfold refresh redraw
  cases h : t.base.filter t.query with
  | ok shown =>
    unfold labelSelector?
    rw [draw_query]
  | error e =>
    unfold labelSelector?
    rw [draw_query, Snapshot.selector?_of_filter h]
    rfl

theorem SameSource.refresh (h : SameSource t u) : SameSource t u.refresh :=
  h.trans ⟨refresh_labelSelector? u, refresh_data u, refresh_decorate u⟩

theorem sameSource_toggleMark (t : LiveTable) : SameSource t t.toggleMark := by
  unfold toggleMark
  split
  · exact .refl t
  · exact .refresh ⟨rfl, rfl, rfl⟩

/-! ## Changes of the snapshot and the query -/

theorem update_labelSelector? (t : LiveTable) (data : Snapshot) :
    (t.update data).labelSelector? = t.labelSelector? :=
  refresh_labelSelector? _

theorem update_decorate (t : LiveTable) (data : Snapshot) :
    (t.update data).decorate = t.decorate :=
  refresh_decorate _

/-- A table that is given nothing to apply to snapshots holds the one that came in. -/
theorem update_data (h : t.decorate = none) (data : Snapshot) : (t.update data).data = data := by
  unfold update
  rw [refresh_data, h]

theorem setQuery_data (t : LiveTable) (query : String) : (t.setQuery query).1.data = t.data :=
  refresh_data _

theorem setQuery_decorate (t : LiveTable) (query : String) :
    (t.setQuery query).1.decorate = t.decorate :=
  refresh_decorate _

end LiveTable

end Table

/-! ## Keys and actions -/

namespace Screen

open Table LiveTable

/-- A key leaves what a table asks its source for, or it tells that the query changed. The snapshot
stays in any case. -/
def Handled.Tells (h : Handled) (t : LiveTable) : Prop :=
  (∃ commit, h.reaction = .filterChanged commit ∧ h.table.data = t.data ∧
    h.table.decorate = t.decorate) ∨
  (∀ commit, h.reaction ≠ .filterChanged commit) ∧ t.SameSource h.table

variable (s : State) (t : LiveTable)

/-- A key that does not reach the table. -/
theorem tells_of_kept (state : State) {reaction : Reaction}
    (hne : ∀ commit, reaction ≠ .filterChanged commit) : Handled.Tells ⟨state, t, reaction⟩ t :=
  .inr ⟨hne, .refl t⟩

theorem tells_quitKey (code : Key.Code) : (quitKey s t code).Tells t := by
  unfold quitKey
  split <;> exact tells_of_kept t _ nofun

theorem tells_helpKey (scroll : Nat) (code : Key.Code) : (helpKey s t scroll code).Tells t := by
  unfold helpKey
  split <;> exact tells_of_kept t _ nofun

theorem tells_forwardKey (d : View.Dialog) (code : Key.Code) : (forwardKey s t d code).Tells t := by
  unfold forwardKey
  dsimp only
  split <;> exact tells_of_kept t _ nofun

theorem tells_tunnelsKey (selected : Nat) (code : Key.Code) :
    (tunnelsKey s t selected code).Tells t := by
  unfold tunnelsKey
  split <;> exact tells_of_kept t _ nofun

variable [Engine]

/-- In the table, only dropping the query changes it. -/
theorem tells_normalKey (key : Key.Press) : (normalKey s t key).Tells t := by
  have hmoved : ∀ i : Nat, Handled.Tells ⟨s, t.select i, .none⟩ t :=
    fun i => .inr ⟨nofun, sameSource_select t i⟩
  have hcleared : Handled.Tells ⟨s, t.clearFilter, .filterChanged true⟩ t :=
    .inl ⟨true, rfl, refresh_data _, refresh_decorate _⟩
  unfold normalKey
  dsimp only
  split
  all_goals try split
  -- every key moves the selection, drops the query, or leaves the table alone
  all_goals first | exact tells_of_kept t _ nofun | exact hmoved _ | exact hcleared

/-- At the prompt, every key that does something to the table tells of another query. -/
theorem tells_filterKey (code : Key.Code) : (filterKey s t code).Tells t := by
  unfold filterKey
  split
  · exact .inl ⟨true, rfl, refresh_data _, refresh_decorate _⟩
  · exact .inl ⟨true, rfl, rfl, rfl⟩
  · exact .inl ⟨false, rfl, setQuery_data _ _, setQuery_decorate _ _⟩
  · rename_i c
    have htyped : (t.typeFilter c).1.data = t.data ∧
        (t.typeFilter c).1.decorate = t.decorate := by
      rw [typeFilter_fst]
      split
      · exact ⟨setQuery_data _ _, setQuery_decorate _ _⟩
      · exact ⟨rfl, rfl⟩
    exact .inl ⟨false, rfl, htyped⟩
  · exact .inr ⟨nofun, .refl t⟩

/-- A key changes the label selector only if it tells so, and the snapshot never. -/
theorem tells_handleKey (key : Key.Press) : (handleKey s t key).Tells t := by
  unfold handleKey
  split
  · exact .inr ⟨nofun, .refl t⟩
  · split
    · exact tells_quitKey s t key.code
    · exact tells_helpKey s t _ key.code
    · exact tells_forwardKey s t _ key.code
    · exact tells_tunnelsKey s t _ key.code
    · split
      · exact tells_normalKey s t key
      · exact tells_filterKey s t key.code

end Screen

namespace View

open Table LiveTable

variable [Engine]

/-- What a key is bound to leaves the query and the snapshot. -/
theorem Browser.sameSource_handle (b : Browser) (ctx : Context) (action : Action) :
    b.table.SameSource (b.handle ctx action).1.table := by
  cases action with
  | sortBy _ _ | invertSort | toggleWide | toggleFaults | clearMarks =>
    exact .refresh ⟨rfl, rfl, rfl⟩
  | toggleMark => exact (sameSource_toggleMark b.table).trans (sameSource_select _ _)
  | filter => exact ⟨rfl, rfl, rfl⟩
  | portForward | showTunnels | dump | goto _ => exact .refl b.table

end View

end ResourceBrowser
