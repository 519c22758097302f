import ResourceBrowser.Proofs.Table.Typing
import ResourceBrowser.Proofs.View.Bindings
import ResourceBrowser.Screen.Input
import ResourceBrowser.Table.NativeEngine

/-!
# Where keys go

While the table is in front, the screen takes some keys for itself, with whatever modifiers, and
hands all others to the view. Under a popup and at the filter prompt no key gets to the view.

* `takes`: the keys that the screen takes for itself.
* `handleKey_popup`, `handleKey_filter`, `handleKey_other`, `handleKey_own`: what a key can do, by
  what is in front.
* `reaches_of_bound`: which of the bound keys get to the view.
-/

namespace ResourceBrowser

open Cluster Key Table View

/-! ## Pressing a bound key -/

/-- The press of a bound key. -/
def Key.Binding.press (b : Binding) : Press := ⟨b.code, b.modifiers⟩

/-- A bound key is what its press stands for, since a character key is bound without shift. -/
theorem Key.Binding.ofPress_press (b : Binding) : Binding.ofPress b.press = b := by
  obtain ⟨code, modifiers, hshift⟩ := b
  have hsame : (modifiers.shift && !code.isChar) = modifiers.shift := by
    cases hchar : code.isChar with
    | true => rw [hshift hchar, Bool.false_and]
    | false => rw [Bool.not_false, Bool.and_true]
  unfold Binding.ofPress Binding.press Binding.of
  simp only [hsame]

namespace Screen

/-- The keys that never go to the view, whatever modifiers are held. -/
def ownCodes : List Code := [
  .char 'q', .char '?', .char 'k', .char 'j', .char 'g', .char 'G', .up, .down, .pageUp, .pageDown,
  .home, .last, .esc]

/-- The keys that do not go to the view while control is held. -/
def ownControlCodes : List Code := [.char 'c', .char 'b', .char 'f']

/-- True for the presses that the screen takes for itself. -/
def takes (key : Press) : Bool :=
  ownCodes.contains key.code || (key.modifiers.control && ownControlCodes.contains key.code)

/-- The screen has no use for the keys that a view has bindings of its own on. -/
theorem takes_ownKey (kind : String) :
    ∀ key ∈ namespaceKey :: (baseBindings kind).map (·.1), takes key.press = false := by
  unfold baseBindings
  split <;> decide

/-- A binding on a key that the screen takes is a hotkey. -/
theorem goto_of_takes {kind : String} {c : Config} {wide : Bool} {key : Binding}
    {bound : Bound Action} (hwanted : Tended.wanted? kind c wide key = some bound)
    (hown : takes key.press = true) : ∃ command, bound.action = .goto command := by
  have hother : key ∉ namespaceKey :: (baseBindings kind).map (·.1) := by
    intro hmem
    rw [takes_ownKey kind key hmem] at hown
    cases hown
  obtain ⟨hne, hbase⟩ := List.ne_and_not_mem_of_not_mem_cons hother
  rw [Tended.wanted?, if_neg hne, Keymap.lookup_eq_none hbase, Option.none_or] at hwanted
  obtain ⟨e, -, rfl⟩ := Option.map_eq_some_iff.1 hwanted
  exact ⟨e.2.command, rfl⟩

variable {s : State} {t : LiveTable}

/-! ## What a key can do -/

section

variable [Engine]

/-- Under a popup, a key changes the popup and nothing else, and it is not for the view. -/
theorem handleKey_popup (hopen : s.popup.isOpen = true) (t : LiveTable) (key : Press) :
    ∃ popup reaction, handleKey s t key = ⟨{ s with popup }, t, reaction⟩ ∧
      (∀ k, reaction ≠ .dispatch k) ∧ ∀ commit, reaction ≠ .filterChanged commit := by
  unfold handleKey
  split
  · exact ⟨s.popup, .quit, rfl, fun _ => nofun, fun _ => nofun⟩
  · split
    · unfold quitKey
      split <;> exact ⟨_, _, rfl, fun _ => nofun, fun _ => nofun⟩
    · unfold helpKey
      split <;> exact ⟨_, _, rfl, fun _ => nofun, fun _ => nofun⟩
    · unfold forwardKey
      dsimp only
      split <;> exact ⟨_, _, rfl, fun _ => nofun, fun _ => nofun⟩
    · unfold tunnelsKey
      split <;> exact ⟨_, _, rfl, fun _ => nofun, fun _ => nofun⟩
    · rename_i hnone
      rw [hnone] at hopen
      cases hopen

theorem clearFilter_filtering (t : LiveTable) : t.clearFilter.filtering = false :=
  LiveTable.refresh_filtering _

/-- A key that is not for the view and opens no popup, after which keys go to the prompt exactly if
the table takes them. -/
structure Handled.Types (h : Handled) : Prop where
  inside (k : Binding) : h.reaction ≠ .dispatch k
  popup : h.state.popup = .none
  agrees : h.state.mode = .filter ↔ h.table.filtering = true

/-- At the prompt, a key changes the query or leaves the prompt, on the screen and in the table
alike. -/
theorem handleKey_filter (hmode : s.mode = .filter) (hpopup : s.popup = .none)
    (htyping : t.filtering = true) (key : Press) : (handleKey s t key).Types := by
  have hstays : ∀ (u : LiveTable) (commit : Bool), u.filtering = true →
      Handled.Types ⟨s, u, .filterChanged commit⟩ := fun u commit hu =>
    ⟨fun _ => nofun, hpopup, iff_of_true hmode hu⟩
  have hleaves : ∀ (u : LiveTable) (commit : Bool), u.filtering = false →
      Handled.Types ⟨{ s with mode := .normal }, u, .filterChanged commit⟩ := fun u commit hu =>
    ⟨fun _ => nofun, hpopup, iff_of_false nofun (by simp [hu])⟩
  have hquery : ∀ query, (t.setQuery query).1.filtering = true := by
    intro query
    rw [LiveTable.setQuery_filtering, htyping]
  unfold handleKey
  split
  · exact ⟨fun _ => nofun, hpopup, iff_of_true hmode htyping⟩
  · rw [hpopup, hmode]
    dsimp only
    unfold filterKey
    split
    · exact hleaves _ true (clearFilter_filtering t)
    · exact hleaves _ true rfl
    · exact hstays _ false (hquery _)
    · rename_i c _
      have htyped : (t.typeFilter c).1.filtering = true := by
        rw [LiveTable.typeFilter_fst, htyping]
        exact hquery _
      exact hstays _ false htyped
    · exact ⟨fun _ => nofun, hpopup, iff_of_true hmode htyping⟩

/-- A key that is not for the view and leaves the mode alone, and does not start the prompt of the
table. -/
structure Handled.Stays (h : Handled) (s : State) (t : LiveTable) : Prop where
  inside (k : Binding) : h.reaction ≠ .dispatch k
  mode : h.state.mode = s.mode
  filtering : t.filtering = false → h.table.filtering = false

/-- Over the table, a key that the screen has no use for goes to the view. -/
theorem handleKey_other (hmode : s.mode = .normal) (hpopup : s.popup = .none) (t : LiveTable)
    {key : Press} (hother : takes key = false) :
    handleKey s t key = ⟨s, t, .dispatch (.ofPress key)⟩ := by
  obtain ⟨hcode, hcontrol⟩ : key.code ∉ ownCodes ∧
      (key.modifiers.control = true → key.code ∉ ownControlCodes) := by
    simpa [takes] using hother
  have hfree : ∀ {code}, key.code = code → code ∈ ownCodes → False :=
    fun heq hmem => hcode (heq ▸ hmem)
  have hplain : ∀ {code}, key.code = code → code ∈ ownControlCodes →
      ¬key.modifiers.control = true :=
    fun heq hmem hheld => hcontrol hheld (heq ▸ hmem)
  unfold handleKey
  split
  · rename_i hquit
    obtain ⟨heq, hheld⟩ : key.code = .char 'c' ∧ key.modifiers.control = true := by
      simpa [isQuit] using hquit
    exact absurd hheld (hplain heq (by decide))
  · rw [hpopup, hmode]
    unfold normalKey
    dsimp only
    split
    case h_9 heq | h_10 heq => exact if_neg (hplain heq (by decide))
    case h_16 => rfl
    all_goals
      rename_i heq
      exact (hfree heq (by decide)).elim

/-- A key that the screen takes over the table leaves the mode alone. -/
theorem handleKey_own (hmode : s.mode = .normal) (hpopup : s.popup = .none) (t : LiveTable)
    {key : Press} (hown : takes key = true) : (handleKey s t key).Stays s t := by
  have hopens : ∀ popup, Handled.Stays ⟨{ s with popup }, t, .none⟩ s t :=
    fun popup => ⟨fun _ => nofun, rfl, id⟩
  have hmoved : ∀ i, Handled.Stays ⟨s, t.select i, .none⟩ s t :=
    fun i => ⟨fun _ => nofun, rfl, (LiveTable.select_filtering t i).trans⟩
  have hcleared : Handled.Stays ⟨s, t.clearFilter, .filterChanged true⟩ s t :=
    ⟨fun _ => nofun, rfl, fun _ => clearFilter_filtering t⟩
  unfold handleKey
  split
  · exact ⟨fun _ => nofun, rfl, id⟩
  · rename_i hquit
    rw [hpopup, hmode]
    unfold normalKey
    dsimp only
    split
    case h_1 | h_2 => exact hopens _
    case h_9 heq | h_10 heq =>
      have hheld : key.modifiers.control = true := by
        simpa [takes, heq, ownCodes, ownControlCodes] using hown
      rw [if_pos hheld]
      exact hmoved _
    case h_15 =>
      split
      · exact ⟨fun _ => nofun, rfl, id⟩
      · exact hcleared
    case h_16 =>
      -- the key is none of those above
      simp_all [takes, ownCodes, ownControlCodes, isQuit]
    all_goals exact hmoved _

/-! ## Bound keys -/

/-- Every bound key that is pressed over the table gets to the view. -/
def ReachesBound (b : Browser) : Prop :=
  ∀ (key : Binding) (bound : Bound Action) (s : State) (t : LiveTable),
    b.keymap.get? key = some bound → s.mode = .normal → s.popup = .none →
    (handleKey s t key.press).reaction = .dispatch key

/-- What pressing the key of a binding over the table comes to. -/
structure Reaches (b : Browser) (s : State) (t : LiveTable) (key : Binding)
    (bound : Bound Action) : Prop where
  /-- The key gets to the view, with nothing else done, unless the screen takes it. -/
  dispatches : takes key.press = false → handleKey s t key.press = ⟨s, t, .dispatch key⟩
  inside : takes key.press = true → ∀ k, (handleKey s t key.press).reaction ≠ .dispatch k
  /-- The screen takes no key that the view has a binding of its own on. -/
  hotkey : takes key.press = true → ∃ command, bound.action = .goto command
  /-- Once the key gets to the view, its action is carried out. -/
  runs (ctx : Browser.Context) : b.dispatch ctx key = some (b.handle ctx bound.action)

/-- Whatever happened to a view, a bound key that is pressed over the table gets to the view exactly
if the screen does not take it, which may only be so for hotkeys. -/
theorem reaches_of_bound {kind : String} {c : Config} {steps : List Upkeep} {key : Binding}
    {bound : Bound Action}
    (hbound : ((Tended.start kind c).run steps).browser.keymap.get? key = some bound)
    (hmode : s.mode = .normal) (hpopup : s.popup = .none) (t : LiveTable) :
    Reaches ((Tended.start kind c).run steps).browser s t key bound := by
  refine ⟨?_, ?_, ?_, ?_⟩
  · intro hother
    rw [handleKey_other hmode hpopup t hother, Binding.ofPress_press]
  · intro hown
    exact (handleKey_own hmode hpopup t hown).inside
  · intro hown
    rw [Tended.get?_run] at hbound
    exact goto_of_takes hbound hown
  · intro ctx
    unfold Browser.dispatch
    rw [hbound, Option.map_some]

end

attribute [local instance] nativeEngine

/-- The second of three hotkeys leads to the nodes. -/
theorem reaches_altN :
    ((Tended.start Kind.pods.name Browser.threeHotkeys).run []).browser.keymap.get?
        (.of (.char 'n') { alt := true }) = some (hotkeyBound "b" ⟨"Alt-n", "Nodes", "nodes"⟩) ∧
      Reaches ((Tended.start Kind.pods.name Browser.threeHotkeys).run []).browser {}
        (Browser.forKind Kind.pods.name Browser.threeHotkeys).table
        (.of (.char 'n') { alt := true }) (hotkeyBound "b" ⟨"Alt-n", "Nodes", "nodes"⟩) := by
  have hbound : ((Tended.start Kind.pods.name Browser.threeHotkeys).run []).browser.keymap.get?
      (.of (.char 'n') { alt := true }) = some (hotkeyBound "b" ⟨"Alt-n", "Nodes", "nodes"⟩) := by
    decide +kernel
  exact ⟨hbound, reaches_of_bound hbound rfl rfl _⟩

/-- A hotkey on the key that asks whether to quit. -/
def hotkeyOnQ : Config where
  hotkeys := [("nodes", ⟨"q", "", "nodes"⟩)]

/-- The hotkey is bound, but its key asks whether to quit. -/
theorem not_reachesBound_hotkeyOnQ :
    ¬ReachesBound (Browser.forKind Kind.pods.name hotkeyOnQ) := by
  intro hreaches
  have hbound : (Browser.forKind Kind.pods.name hotkeyOnQ).keymap.get? (.char 'q') =
      some (hotkeyBound "nodes" ⟨"q", "", "nodes"⟩) := by
    decide +kernel
  have hdispatched := hreaches (.char 'q') _ {}
    (Browser.forKind Kind.pods.name hotkeyOnQ).table hbound rfl rfl
  cases hdispatched

end Screen

end ResourceBrowser
