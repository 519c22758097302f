import ResourceBrowser.Proofs.App.Source
import ResourceBrowser.Proofs.Screen.Keys
import ResourceBrowser.Table.NativeEngine

/-!
# Modes

Whether keys go to the filter prompt is there twice: as the mode of the screen, and as a setting of
the table, which takes input for its query. Keys, actions of the view and other kinds change the
two, and they agree after whatever comes in. Popups are only open while no query is typed.

* `InMode`: the two agree, and no popup is over the prompt.
* `KeepsPrompt`: what leaves the prompt alone and opens no popup.
* `inMode_take?`: whatever comes in leaves the application in order.
* `keepsModes_turns`: this for every run, and what keys cannot do under a popup and at the prompt.
-/

namespace ResourceBrowser

open Cluster Screen Table View Tunnel

theorem Screen.Popup.eq_none_of_not_isOpen {popup : Popup} (h : popup.isOpen = false) :
    popup = .none := by
  cases popup with
  | none => rfl
  | help _ | quit | forward _ | tunnels _ => cases h

namespace App

variable {a b c : App} {m : Moment}

/-! ## What leaves the prompt alone -/

/-- The same mode on the screen and in the table, and no popup that was not open before. -/
structure KeepsPrompt (a b : App) : Prop where
  mode : b.screen.mode = a.screen.mode
  filtering : b.browser.table.filtering = a.browser.table.filtering
  popup : b.screen.popup.isOpen = true → a.screen.popup.isOpen = true

theorem KeepsPrompt.refl (a : App) : KeepsPrompt a a := ⟨rfl, rfl, id⟩

theorem KeepsPrompt.trans (h : KeepsPrompt a b) (h' : KeepsPrompt b c) : KeepsPrompt a c :=
  ⟨h'.mode.trans h.mode, h'.filtering.trans h.filtering, h.popup ∘ h'.popup⟩

theorem keepsPrompt_say (a : App) (level : Level) (message : String) (m : Moment) :
    KeepsPrompt a (a.say level message m) :=
  ⟨rfl, rfl, id⟩

theorem keepsPrompt_reportTable (a : App) (m : Moment) : KeepsPrompt a (a.reportTable m) := by
  obtain ⟨flash, hframe⟩ := reportTable_frame a m
  rw [hframe]
  exact ⟨rfl, rfl, id⟩

theorem keepsPrompt_startForward (a : App) (m : Moment) : KeepsPrompt a (a.startForward m) := by
  obtain ⟨tunnels, popup, flash, hframe, hpopup⟩ := startForward_frame a m
  rw [hframe]
  refine ⟨rfl, rfl, fun hopen => ?_⟩
  rcases hpopup with rfl | rfl
  · cases hopen
  · exact hopen

theorem keepsPrompt_stopTunnel (a : App) (index : Nat) (m : Moment) :
    KeepsPrompt a (a.stopTunnel index m) := by
  obtain ⟨tunnels, flash, hframe⟩ := stopTunnel_frame a index m
  rw [hframe]
  exact ⟨rfl, rfl, id⟩

theorem keepsPrompt_handleEvent (a : App) (e : Event) (m : Moment) :
    KeepsPrompt a (a.handleEvent e m) := by
  obtain ⟨flash, hframe⟩ := handleEvent_frame a e m
  rw [hframe]
  exact ⟨rfl, rfl, id⟩

/-- Drawing settles positions, and opens or closes nothing. -/
theorem keepsPrompt_draw? {clock : Option ClockTime} {width height : UInt16}
    (h : a.draw? clock width height = some b) : KeepsPrompt a b := by
  obtain ⟨c, drawn, pageSize, offset, hdrawn, rfl⟩ := draw?_frame h
  refine ⟨rfl, rfl, fun hopen => ?_⟩
  cases hpopup : a.screen.popup with
  | none =>
    rw [hpopup] at hdrawn
    obtain rfl := Option.some.inj hdrawn
    exact hopen
  | help _ | quit | forward _ | tunnels _ => rfl

theorem keepsPrompt_work (a : App) (label : System.Step) : KeepsPrompt a (a.work label) := by
  obtain ⟨tunnels, hframe⟩ := work_frame a label
  rw [hframe]
  exact ⟨rfl, rfl, id⟩

/-! ## The two modes agree -/

/-- Keys go to the prompt exactly if the table takes input for its query, and no popup is over the
prompt. -/
structure InMode (a : App) : Prop where
  prompt : a.screen.mode = .filter ↔ a.browser.table.filtering = true
  popup : a.screen.popup.isOpen = true → a.screen.mode = .normal

theorem InMode.of_keeps (h : InMode a) (hk : KeepsPrompt a b) : InMode b := by
  refine ⟨?_, fun hopen => ?_⟩
  · rw [hk.mode, hk.filtering]
    exact h.prompt
  · rw [hk.mode]
    exact h.popup (hk.popup hopen)

/-- Over the table no query is typed. -/
theorem InMode.filtering_eq_false (h : InMode a) (hmode : a.screen.mode = .normal) :
    a.browser.table.filtering = false := by
  cases htyping : a.browser.table.filtering with
  | false => rfl
  | true =>
    have hfilter := h.prompt.2 htyping
    rw [hmode] at hfilter
    cases hfilter

theorem InMode.popup_eq_none (h : InMode a) (hmode : a.screen.mode = .filter) :
    a.screen.popup = .none := by
  refine Popup.eq_none_of_not_isOpen (eq_false_of_ne_true fun hopen => ?_)
  have hnormal := h.popup hopen
  rw [hmode] at hnormal
  cases hnormal

/-- While no query is typed, any popup may be open. -/
theorem inMode_of_normal (hmode : a.screen.mode = .normal)
    (hfiltering : a.browser.table.filtering = false) : InMode a := by
  refine ⟨iff_of_false ?_ ?_, fun _ => hmode⟩
  · rw [hmode]
    nofun
  · rw [hfiltering]
    nofun

end App

/-! ## The prompt of the table -/

theorem View.Browser.dump_ne_startFilter (b : Browser) (ctx : Browser.Context) :
    b.dump ctx ≠ .ok .startFilter := by
  unfold dump
  split <;> nofun

theorem View.Browser.openForward_ne_startFilter (b : Browser) (ctx : Browser.Context) :
    b.openForward ctx ≠ .ok .startFilter := by
  unfold openForward
  split
  · nofun
  · split
    · nofun
    · split
      · nofun
      · nofun
      · split <;> nofun

section

variable [Engine]

namespace Table.LiveTable

theorem update_filtering (t : LiveTable) (data : Snapshot) :
    (t.update data).filtering = t.filtering :=
  refresh_filtering _

theorem toggleMark_filtering (t : LiveTable) : t.toggleMark.filtering = t.filtering := by
  unfold toggleMark
  split
  · rfl
  · exact refresh_filtering _

end Table.LiveTable

namespace View.Browser

/-- An action of a view starts the prompt on both sides, or it has nothing to do with it. -/
theorem handle_cases (b : Browser) (ctx : Context) (action : Action) :
    b.handle ctx action = ({ b with table := b.table.activateFilter }, .ok .startFilter) ∨
      (b.handle ctx action).1.table.filtering = b.table.filtering ∧
        (b.handle ctx action).2 ≠ .ok .startFilter := by
  cases action with
  | filter => exact .inl rfl
  | sortBy _ _ | invertSort | toggleWide | toggleFaults | clearMarks =>
    exact .inr ⟨LiveTable.refresh_filtering _, nofun⟩
  | toggleMark =>
    have hmarked := LiveTable.toggleMark_filtering b.table
    exact .inr ⟨(LiveTable.select_filtering _ _).trans hmarked, nofun⟩
  | portForward =>
    refine .inr ⟨rfl, ?_⟩
    unfold handle
    dsimp only
    split
    · exact openForward_ne_startFilter b ctx
    · nofun
  | dump => exact .inr ⟨rfl, dump_ne_startFilter b ctx⟩
  | showTunnels | goto _ => exact .inr ⟨rfl, nofun⟩

end View.Browser

namespace App

variable {a b c : App} {m : Moment}

/-! ## What follows from keys -/

theorem keepsPrompt_reload? (h : a.reload? m = some b) : KeepsPrompt a b := by
  obtain ⟨feed, listing, -, rfl⟩ := exists_of_reload? h
  refine KeepsPrompt.trans ?_ (keepsPrompt_reportTable _ m)
  cases listing with
  | ok snapshot => exact ⟨rfl, LiveTable.update_filtering _ _, id⟩
  | error e => exact ⟨rfl, rfl, id⟩

theorem keepsPrompt_applySelector? {commit : Bool} (h : a.applySelector? commit m = some b) :
    KeepsPrompt a b := by
  unfold applySelector? at h
  split at h
  · rename_i happly
    obtain ⟨feed, applied, rfl⟩ := apply_frame happly
    have hasked : KeepsPrompt a { a with feed, applied } := ⟨rfl, rfl, id⟩
    exact hasked.trans (keepsPrompt_reload? h)
  · rename_i happly
    obtain ⟨feed, applied, rfl⟩ := apply_frame happly
    obtain rfl := Option.some.inj h
    exact ⟨rfl, rfl, id⟩
  · obtain rfl := Option.some.inj h
    split
    · exact keepsPrompt_say a _ _ m
    · exact .refl a

/-- Unless it is for the view, what follows from a key leaves the prompt alone. -/
theorem keepsPrompt_react? {r : Reaction} (hinside : ∀ k, r ≠ .dispatch k)
    (h : a.react? r m = some b) : KeepsPrompt a b := by
  cases r with
  | none => exact Option.some.inj h ▸ .refl a
  | quit => exact Option.some.inj h ▸ ⟨rfl, rfl, id⟩
  | dispatch key => exact absurd rfl (hinside key)
  | filterChanged commit => exact keepsPrompt_applySelector? h
  | startForward => exact Option.some.inj h ▸ keepsPrompt_startForward a m
  | stopTunnel index => exact Option.some.inj h ▸ keepsPrompt_stopTunnel a index m

/-- Unless it is for the view, all else about a key is what the screen made of it. -/
theorem keepsPrompt_onKey? {key : Key.Press}
    (hinside : ∀ k, (handleKey a.screen a.browser.table key).reaction ≠ .dispatch k)
    (h : a.onKey? key m = some b) :
    KeepsPrompt (a.heard (handleKey a.screen a.browser.table key)) b := by
  obtain ⟨c, hc, rfl⟩ := Option.map_eq_some_iff.1 h
  exact (keepsPrompt_react? hinside hc).trans (keepsPrompt_reportTable c m)

/-- What follows from a key that is neither for the view nor about the query always comes about, and
has no consequences for the view. -/
theorem exists_react? (a : App) {r : Reaction} (hinside : ∀ k, r ≠ .dispatch k)
    (hquery : ∀ commit, r ≠ .filterChanged commit) (m : Moment) :
    ∃ b, a.react? r m = some b ∧ b.browser = a.browser := by
  cases r with
  | none | quit => exact ⟨_, rfl, rfl⟩
  | dispatch key => exact absurd rfl (hinside key)
  | filterChanged commit => exact absurd rfl (hquery commit)
  | startForward =>
    obtain ⟨tunnels, popup, flash, hframe, -⟩ := startForward_frame a m
    exact ⟨_, rfl, by rw [hframe]⟩
  | stopTunnel index =>
    obtain ⟨tunnels, flash, hframe⟩ := stopTunnel_frame a index m
    exact ⟨_, rfl, by rw [hframe]⟩

/-! ## Another kind -/

theorem browserFor_filtering (kind : String) (feed : Feed) (config : Config) :
    (browserFor kind feed config).table.filtering = false := by
  rw [browserFor_frame]
  exact LiveTable.refresh_filtering _

/-- Another kind starts without the prompt, whatever the mode was. -/
theorem inMode_switchKind? (h : InMode a) {name : String} (hb : a.switchKind? name m = some b) :
    InMode b := by
  rcases switchKind?_cases a name m with ⟨message, hsaid⟩ | ⟨kind, -, -, c, -, -, hreload⟩
  · obtain rfl := Option.some.inj (hsaid.symm.trans hb)
    exact h.of_keeps (keepsPrompt_say a _ _ m)
  · have hnew : InMode (c.viewing kind.name) := inMode_of_normal rfl (browserFor_filtering _ _ _)
    exact hnew.of_keeps (keepsPrompt_reload? (hreload.symm.trans hb))

/-! ## Keys -/

/-- A key of the view starts the prompt, opens a popup, leads to another kind or does none of
these. -/
theorem inMode_dispatch? (h : InMode a) (hmode : a.screen.mode = .normal)
    (hpopup : a.screen.popup = .none) {key : Key.Binding} (hb : a.dispatch? key m = some b) :
    InMode b := by
  unfold dispatch? Browser.dispatch at hb
  cases hbound : a.browser.keymap.get? key with
  | none =>
    rw [hbound] at hb
    exact Option.some.inj hb ▸ h
  | some bound =>
    rw [hbound, Option.map_some] at hb
    have hhandled := a.browser.handle_cases (a.context m) bound.action
    generalize a.browser.handle (a.context m) bound.action = handled at hhandled hb
    obtain ⟨browser, result⟩ := handled
    rcases hhandled with hstart | ⟨hfiltering, hother⟩
    · obtain ⟨rfl, rfl⟩ := Prod.mk.inj hstart
      obtain rfl := Option.some.inj hb
      refine ⟨iff_of_true rfl rfl, fun hopen => ?_⟩
      have hclosed : a.screen.popup.isOpen = true := hopen
      rw [hpopup] at hclosed
      cases hclosed
    · have hfalse : browser.table.filtering = false :=
        hfiltering.trans (h.filtering_eq_false hmode)
      have hkept : InMode { a with browser } := inMode_of_normal hmode hfalse
      cases result with
      | error e => exact Option.some.inj hb ▸ hkept.of_keeps (keepsPrompt_say _ _ _ m)
      | ok o =>
        cases o with
        | done => exact Option.some.inj hb ▸ hkept
        | save path text => exact Option.some.inj hb ▸ hkept.of_keeps ⟨rfl, rfl, id⟩
        | startFilter => exact absurd rfl hother
        | showTunnels | openDialog _ =>
          obtain rfl := Option.some.inj hb
          exact inMode_of_normal hmode hfalse
        | goto kind =>
          have hswitch : App.switchKind? { a with browser } kind m = some b := hb
          exact inMode_switchKind? hkept hswitch

/-- Under a popup, a key changes nothing in the view; that its last error is reported is all. -/
theorem onKey?_popup (h : InMode a) (hopen : a.screen.popup.isOpen = true) (key : Key.Press)
    (m : Moment) : (∀ k, (handleKey a.screen a.browser.table key).reaction ≠ .dispatch k) ∧
      ∃ b, a.onKey? key m = some b ∧ InMode b ∧ b.browser =
        { a.browser with table := { a.browser.table with lastError := none } } := by
  obtain ⟨popup, reaction, hhandled, hinside, hquery⟩ :=
    handleKey_popup hopen a.browser.table key
  have hnone : ∀ k, (handleKey a.screen a.browser.table key).reaction ≠ .dispatch k := by
    rw [hhandled]
    exact hinside
  obtain ⟨c, hc, hbrowser⟩ :=
    exists_react? (a.heard ⟨{ a.screen with popup }, a.browser.table, reaction⟩) hinside hquery m
  have hanswer : a.onKey? key m = some (c.reportTable m) := by
    unfold onKey?
    rw [hhandled]
    exact Option.map_eq_some_iff.2 ⟨c, hc, rfl⟩
  have hkeeps := keepsPrompt_onKey? hnone hanswer
  rw [hhandled] at hkeeps
  have hnormal := h.popup hopen
  have hheard : InMode (a.heard ⟨{ a.screen with popup }, a.browser.table, reaction⟩) :=
    inMode_of_normal hnormal (h.filtering_eq_false hnormal)
  refine ⟨hnone, _, hanswer, hheard.of_keeps hkeeps, ?_⟩
  obtain ⟨flash, hframe⟩ := reportTable_frame c m
  rw [hbrowser] at hframe
  exact congrArg App.browser hframe

/-- At the prompt, no key is for the view. -/
theorem reaction_of_filter (h : InMode a) (hmode : a.screen.mode = .filter) (key : Key.Press) :
    ∀ k, (handleKey a.screen a.browser.table key).reaction ≠ .dispatch k :=
  (handleKey_filter hmode (h.popup_eq_none hmode) (h.prompt.1 hmode) key).1

/-- At the prompt, a key changes the query or leaves the prompt. -/
theorem onKey?_filter (h : InMode a) (hmode : a.screen.mode = .filter) {key : Key.Press}
    (hb : a.onKey? key m = some b) : InMode b ∧ b.screen.popup = .none := by
  obtain ⟨hinside, hclosed, hagrees⟩ :=
    handleKey_filter hmode (h.popup_eq_none hmode) (h.prompt.1 hmode) key
  have hkeeps := keepsPrompt_onKey? hinside hb
  have hnone : (a.heard (handleKey a.screen a.browser.table key)).screen.popup = .none := hclosed
  have hheard : InMode (a.heard (handleKey a.screen a.browser.table key)) := by
    refine ⟨hagrees, fun hopen => ?_⟩
    rw [hnone] at hopen
    cases hopen
  refine ⟨hheard.of_keeps hkeeps, ?_⟩
  -- what follows opens nothing
  refine Popup.eq_none_of_not_isOpen (eq_false_of_ne_true fun hopen => ?_)
  have hbefore := hkeeps.popup hopen
  rw [hnone] at hbefore
  cases hbefore

/-- Over the table, a key is for the view, or it leaves the prompt alone. -/
theorem onKey?_normal (h : InMode a) (hmode : a.screen.mode = .normal)
    (hpopup : a.screen.popup = .none) {key : Key.Press} (hb : a.onKey? key m = some b) :
    InMode b := by
  cases hown : takes key with
  | false =>
    unfold onKey? at hb
    rw [handleKey_other hmode hpopup _ hown] at hb
    obtain ⟨c, hc, rfl⟩ := Option.map_eq_some_iff.1 hb
    exact (inMode_dispatch? h hmode hpopup hc).of_keeps (keepsPrompt_reportTable c m)
  | true =>
    obtain ⟨hinside, hstays, hfiltering⟩ := handleKey_own hmode hpopup a.browser.table hown
    have hheard : InMode (a.heard (handleKey a.screen a.browser.table key)) :=
      inMode_of_normal (hstays.trans hmode) (hfiltering (h.filtering_eq_false hmode))
    exact hheard.of_keeps (keepsPrompt_onKey? hinside hb)

theorem inMode_onKey? (h : InMode a) {key : Key.Press} (hb : a.onKey? key m = some b) :
    InMode b := by
  cases hmode : a.screen.mode with
  | filter => exact (onKey?_filter h hmode hb).1
  | normal =>
    cases hopen : a.screen.popup.isOpen with
    | true =>
      obtain ⟨-, c, hc, hinMode, -⟩ := onKey?_popup h hopen key m
      obtain rfl := Option.some.inj (hb.symm.trans hc)
      exact hinMode
    | false => exact onKey?_normal h hmode (Popup.eq_none_of_not_isOpen hopen) hb

/-! ## Whatever comes in -/

/-- Whatever comes in leaves the application in order. -/
theorem inMode_take? (h : InMode a) {i : Input} (hb : a.take? i = some b) : InMode b := by
  cases i with
  | key press m => exact inMode_onKey? h hb
  | tick m =>
    have hscreen : KeepsPrompt a { a with screen := a.screen.expire m.nanos } := ⟨rfl, rfl, id⟩
    exact h.of_keeps (hscreen.trans (keepsPrompt_reload? hb))
  | event e m => exact Option.some.inj hb ▸ h.of_keeps (keepsPrompt_handleEvent a e m)
  | draw clock width height => exact h.of_keeps (keepsPrompt_draw? hb)
  | work label => exact Option.some.inj hb ▸ h.of_keeps (keepsPrompt_work a label)

/-- What an application lives through: something comes in, or its source is another one than it
was, by what happens in the cluster or to the connection. -/
inductive Turn where
  | input (i : Input)
  | source (feed : Feed)

/-- An application after a turn. -/
def turn? (a : App) : Turn → Option App
  | .input i => a.take? i
  | .source feed => some { a with feed }

/-- An application after one turn and then another. -/
def turns? (a : App) (ts : List Turn) : Option App := ts.foldlM turn? a

theorem inMode_start (cluster : Cluster) (config : Config) : InMode (start cluster config) :=
  inMode_of_normal rfl (browserFor_filtering _ _ _)

theorem inMode_turn? (h : InMode a) {t : Turn} (hb : a.turn? t = some b) : InMode b := by
  cases t with
  | input i => exact inMode_take? h hb
  | source feed => exact Option.some.inj hb ▸ ⟨h.prompt, h.popup⟩

/-- The modes agree, and keys under a popup and at the prompt stay there. -/
structure KeepsModes (a : App) : Prop extends InMode a where
  /-- Under a popup, no key is for the view, and none changes it, but its last error is reported. -/
  covered (key : Key.Press) (m : Moment) : a.screen.popup.isOpen = true →
    (∀ k, (handleKey a.screen a.browser.table key).reaction ≠ .dispatch k) ∧
      ∃ b, a.onKey? key m = some b ∧ b.browser =
        { a.browser with table := { a.browser.table with lastError := none } }
  /-- At the prompt, no key is for the view, and none opens a popup. -/
  prompted (key : Key.Press) (m : Moment) : a.screen.mode = .filter →
    (∀ k, (handleKey a.screen a.browser.table key).reaction ≠ .dispatch k) ∧
      ∀ b, a.onKey? key m = some b → b.screen.popup = .none

/-- In every run, whatever the source is at any time, keys go to the prompt exactly if the table
takes input for its query, popups are only open while it does not, and keys under a popup and at the
prompt do not get to the view. -/
theorem keepsModes_turns (cluster : Cluster) (config : Config) (ts : List Turn) {a : App}
    (ha : (start cluster config).turns? ts = some a) : a.KeepsModes := by
  have h : InMode a := of_foldlM_eq_some (fun _ _ h _ hb => inMode_turn? h hb)
    (inMode_start cluster config) ha
  refine ⟨h, fun key m hopen => ?_, fun key m hmode => ?_⟩
  · obtain ⟨hinside, b, hb, -, hbrowser⟩ := onKey?_popup h hopen key m
    exact ⟨hinside, b, hb, hbrowser⟩
  · exact ⟨reaction_of_filter h hmode key, fun b hb => (onKey?_filter h hmode hb).2⟩

end App

end

namespace App

attribute [local instance] nativeEngine

/-- A help that is closed again, a server that goes away, and a query of one blank. -/
def blankTyped : List Turn :=
  [.input (.key ⟨.char '?', {}⟩ ⟨0, default⟩), .input (.key ⟨.esc, {}⟩ ⟨1, default⟩),
    .source { cluster := { pods := [], nodes := [] }, reachable := false },
    .input (.tick ⟨2, default⟩), .input (.key ⟨.char '/', {}⟩ ⟨3, default⟩),
    .input (.key ⟨.char ' ', {}⟩ ⟨4, default⟩)]

/-- The key that marks a row elsewhere belongs to the query. -/
theorem keepsModes_blankTyped :
    ∃ a, (start { pods := [], nodes := [] } {}).turns? blankTyped = some a ∧ a.KeepsModes ∧
      a.screen.mode = .filter ∧ a.browser.table.query = " " := by
  have hreached : ((start { pods := [], nodes := [] } {}).turns? blankTyped).map
      (fun a => (a.screen.mode, a.browser.table.query)) = some (.filter, " ") := by decide +kernel
  obtain ⟨a, ha, hstate⟩ := Option.map_eq_some_iff.1 hreached
  obtain ⟨hmode, hquery⟩ := Prod.mk.inj hstate
  exact ⟨a, ha, keepsModes_turns { pods := [], nodes := [] } {} blankTyped ha, hmode, hquery⟩

end App

end ResourceBrowser
