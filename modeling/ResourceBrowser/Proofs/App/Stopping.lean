import ResourceBrowser.Proofs.App.Frame
import ResourceBrowser.Proofs.Cluster.Changes
import ResourceBrowser.Proofs.Tunnel.Listing
import ResourceBrowser.Proofs.Tunnel.Start
import ResourceBrowser.Table.NativeEngine

/-!
# Stopping the highlighted tunnel

The list of tunnels on the screen keeps a position. It is settled when a frame is drawn, and the key
that stops a tunnel finds the tunnel at that position by then. In between tunnels end and new ones
start, so the key may find another tunnel than the one that was highlighted.

* `inOrder_run?`: whatever comes in, every tunnel keeps its own entry.
* `registry_stopKey`: which tunnel the key stops.
* `stopsOnly_iff`: when that is the highlighted one and no other.
-/

namespace ResourceBrowser

open Cluster Screen Table View Tunnel

namespace App

section

variable {a b : App} {m : Moment}

/-! ## What changes the tunnels -/

@[simp] theorem reportTable_tunnels (a : App) (m : Moment) :
    (a.reportTable m).tunnels = a.tunnels := by
  obtain ⟨flash, hframe⟩ := reportTable_frame a m
  rw [hframe]

theorem apply_tunnels {selector : Option String} {changed : Bool}
    (h : a.apply selector = .ok (b, changed)) : b.tunnels = a.tunnels := by
  obtain ⟨feed, applied, rfl⟩ := apply_frame h
  rfl

@[simp] theorem handleEvent_tunnels (a : App) (e : Event) (m : Moment) :
    (a.handleEvent e m).tunnels = { a.tunnels with events := a.tunnels.events.erase e } := by
  obtain ⟨flash, hframe⟩ := handleEvent_frame a e m
  rw [hframe]

/-- The dialog starts its tunnel by a whole call. -/
theorem inOrder_dialog {s : System} (h : s.InOrder) (a : App) (m : Moment) (d : Dialog) :
    (View.startForward s (a.surroundings m) d).1.InOrder := by
  unfold View.startForward
  cases d.request with
  | error e => exact h
  | ok request =>
    have hwhole := System.inOrder_start h (a.surroundings m request.2) rfl request.1 request.2
    rcases hresult : s.start (a.surroundings m request.2) request.1 request.2 with ⟨tunnels, e | u⟩
    all_goals
      rw [hresult] at hwhole
      dsimp only
      rw [hresult]
      exact hwhole

theorem inOrder_startForward (h : a.tunnels.InOrder) (m : Moment) :
    (a.startForward m).tunnels.InOrder := by
  unfold startForward
  split
  · rename_i d _
    have hdialog := inOrder_dialog h { a with screen := { a.screen with popup := .none } } m d
    dsimp only
    split <;> rename_i hresult <;> rw [hresult] at hdialog <;> exact hdialog
  · exact h

theorem inOrder_stopTunnel (h : a.tunnels.InOrder) (index : Nat) (m : Moment) :
    (a.stopTunnel index m).tunnels.InOrder := by
  unfold stopTunnel
  split
  · exact h
  · rename_i e _
    have hstop := System.inOrder_stop h e.id
    split <;> rename_i hresult <;> rw [hresult] at hstop <;> exact hstop

theorem inOrder_work (h : a.tunnels.InOrder) (label : System.Step) :
    (a.work label).tunnels.InOrder := by
  unfold work
  cases hstep : a.tunnels.step? label with
  | none => exact h
  | some p => exact h.of_taken (System.taken_of_step? hstep)

/-! ## The list of tunnels -/

/-- The entry that the list of tunnels highlights. -/
def highlighted? (a : App) : Option Tunnel.Entry :=
  match a.screen.popup with
  | .tunnels selected => a.tunnels.registry.list[selected]?
  | _ => none

/-- The tunnel at a position is asked to stop, and no other. -/
theorem registry_stopTunnel (h : a.tunnels.InOrder) (i : Nat) (m : Moment) :
    (a.stopTunnel i m).tunnels.registry = a.tunnels.registry.askAt i := by
  unfold stopTunnel Registry.askAt
  cases he : a.tunnels.registry.list[i]? with
  | none => rfl
  | some e =>
    obtain ⟨hmem, -⟩ := (Registry.getElem?_list_iff h.owned.ids).1 he
    have hstop : a.tunnels.stop e.id =
        ({ a.tunnels with registry := a.tunnels.registry.ask e.ticket }, .ok ()) := by
      unfold System.stop
      rw [Registry.stop_eq_ask h.owned.ids hmem]
    dsimp only
    rw [hstop]
    rfl

/-- The application after calls and sessions went on for some steps. -/
def meanwhile (a : App) (labels : List System.Step) : App := labels.foldl work a

/-- The screen stays while nothing is handled. -/
theorem meanwhile_screen (a : App) (labels : List System.Step) :
    (a.meanwhile labels).screen = a.screen := by
  induction labels generalizing a with
  | nil => rfl
  | cons label labels ih =>
    have hwork : (a.work label).screen = a.screen := by
      obtain ⟨tunnels, hframe⟩ := work_frame a label
      rw [hframe]
    exact (ih (a.work label)).trans hwork

/-- What the tunnels do does not depend on anything else. -/
theorem meanwhile_tunnels_congr (h : a.tunnels = b.tunnels) (labels : List System.Step) :
    (a.meanwhile labels).tunnels = (b.meanwhile labels).tunnels := by
  induction labels generalizing a b with
  | nil => exact h
  | cons label labels ih =>
    refine ih (a := a.work label) (b := b.work label) ?_
    unfold work
    rw [h]
    cases b.tunnels.step? label with
    | none => exact h
    | some p => rfl

theorem length_list (a : App) :
    a.tunnels.registry.list.length = a.tunnels.registry.size :=
  (Registry.list_perm _).length_eq

/-- Drawing settles the position on an entry of the list, if there is any. -/
theorem draw?_popup {i : Nat} (h : a.screen.popup = .tunnels i) {clock : Option ClockTime}
    {width height : UInt16} (hb : a.draw? clock width height = some b) :
    b.screen.popup = .tunnels (min i (a.tunnels.registry.size - 1)) := by
  -- what is on the canvas by then does not matter
  have hselected : ∀ (c : Canvas) (p : Area), (c.drawTunnels p a.tunnels.registry.list i).2 =
      min i (a.tunnels.registry.size - 1) := by
    intro c p
    unfold Canvas.drawTunnels
    rw [← length_list]
    dsimp only
    split
    · rename_i hempty
      rw [List.isEmpty_iff.1 hempty]
      exact (Nat.min_zero i).symm
    · rfl
  obtain ⟨c, drawn, pageSize, offset, hdrawn, rfl⟩ := draw?_frame hb
  rw [h] at hdrawn
  obtain ⟨p, -, rfl⟩ := Option.map_eq_some_iff.1 hdrawn
  exact congrArg Popup.tunnels (hselected c p)

variable [Engine]

/-! ## Whatever comes in -/

theorem reload?_tunnels (h : a.reload? m = some b) : b.tunnels = a.tunnels := by
  obtain ⟨feed, listing, -, rfl⟩ := exists_of_reload? h
  exact reportTable_tunnels _ m

theorem applySelector?_tunnels {commit : Bool} (h : a.applySelector? commit m = some b) :
    b.tunnels = a.tunnels := by
  unfold applySelector? at h
  split at h
  · rename_i happly
    exact (reload?_tunnels h).trans (apply_tunnels happly)
  · rename_i happly
    exact Option.some.inj h ▸ apply_tunnels happly
  · obtain rfl := Option.some.inj h
    split <;> rfl

theorem switchKind?_tunnels {name : String} (h : a.switchKind? name m = some b) :
    b.tunnels = a.tunnels := by
  rcases switchKind?_cases a name m with ⟨message, hsaid⟩ |
      ⟨kind, feed, -, c, changed, happly, hreload⟩
  · obtain rfl := Option.some.inj (hsaid.symm.trans h)
    rfl
  · have hkept : c.tunnels = a.tunnels := (apply_tunnels happly :)
    exact (reload?_tunnels (hreload.symm.trans h)).trans hkept

theorem dispatch?_tunnels {key : Key.Binding} (h : a.dispatch? key m = some b) :
    b.tunnels = a.tunnels := by
  unfold dispatch? at h
  split at h
  · exact Option.some.inj h ▸ rfl
  · rename_i browser o _
    cases o with
    | goto kind =>
      have hswitch : App.switchKind? { a with browser } kind m = some b := h
      exact (switchKind?_tunnels hswitch :)
    | done | save _ _ | startFilter | showTunnels | openDialog _ =>
      obtain rfl := Option.some.inj h
      rfl
  · exact Option.some.inj h ▸ rfl

theorem inOrder_react? (h : a.tunnels.InOrder) {r : Reaction} (hb : a.react? r m = some b) :
    b.tunnels.InOrder := by
  cases r with
  | none | quit => exact Option.some.inj hb ▸ h
  | dispatch key => rwa [dispatch?_tunnels hb]
  | filterChanged commit => rwa [applySelector?_tunnels hb]
  | startForward => exact Option.some.inj hb ▸ inOrder_startForward h m
  | stopTunnel index => exact Option.some.inj hb ▸ inOrder_stopTunnel h index m

/-- Whatever comes in leaves the registry in order. -/
theorem inOrder_take? (h : a.tunnels.InOrder) {i : Input} (hb : a.take? i = some b) :
    b.tunnels.InOrder := by
  cases i with
  | key press m =>
    obtain ⟨c, hc, rfl⟩ := Option.map_eq_some_iff.1 hb
    rw [reportTable_tunnels]
    exact inOrder_react? (a := a.heard (handleKey a.screen a.browser.table press)) h hc
  | tick m =>
    rw [reload?_tunnels hb]
    exact h
  | event e m =>
    obtain rfl := Option.some.inj hb
    rw [handleEvent_tunnels]
    exact h.of_events _
  | draw clock width height =>
    obtain ⟨-, -, -, -, -, rfl⟩ := draw?_frame hb
    exact h
  | work label => exact Option.some.inj hb ▸ inOrder_work h label

theorem inOrder_run? (h : a.tunnels.InOrder) {inputs : List Input} (hb : a.run? inputs = some b) :
    b.tunnels.InOrder :=
  of_foldlM_eq_some (fun _ _ h _ hb => inOrder_take? h hb) h hb

/-! ## The key that stops a tunnel -/

/-- What comes in asks the tunnel of a start to stop, if it is still there, and no other tunnel. -/
def StopsOnly (a : App) (t : Ticket) (i : Input) : Prop :=
  ∃ b, a.take? i = some b ∧ b.tunnels.registry = a.tunnels.registry.ask t

/-- What the key does: the position is looked up in the list as it is by now. -/
theorem exists_registry_stopKey (h : a.tunnels.InOrder) {i : Nat}
    (hpopup : a.screen.popup = .tunnels i) {key : Key.Press} (hkey : key.code = .char 'd')
    (m : Moment) :
    ∃ b, a.onKey? key m = some b ∧ b.tunnels.registry = a.tunnels.registry.askAt i := by
  have hhandled : handleKey a.screen a.browser.table key =
      ⟨a.screen, a.browser.table, .stopTunnel i⟩ := by
    unfold handleKey isQuit
    rw [hpopup, hkey]
    rfl
  have hstopped := registry_stopTunnel h i m
  refine ⟨(a.stopTunnel i m).reportTable m, ?_, by rw [reportTable_tunnels, hstopped]⟩
  unfold onKey?
  rw [hhandled]
  rfl

theorem stopsOnly_iff_askAt (h : a.tunnels.InOrder) {i : Nat}
    (hpopup : a.screen.popup = .tunnels i) {t : Ticket} {key : Key.Press}
    (hkey : key.code = .char 'd') : a.StopsOnly t (.key key m) ↔
      a.tunnels.registry.askAt i = a.tunnels.registry.ask t := by
  obtain ⟨b, hb, hregistry⟩ := exists_registry_stopKey h hpopup hkey m
  constructor
  · rintro ⟨c, hc, hask⟩
    obtain rfl := Option.some.inj (hb.symm.trans hc)
    exact hregistry.symm.trans hask
  · exact fun hask => ⟨b, hb, hregistry.trans hask⟩

/-! ## Between a frame and a key -/

/-- The application right after a frame was drawn. -/
def Drawn (a : App) : Prop :=
  ∃ cluster config inputs before clock width height,
    (start cluster config).run? inputs = some before ∧ before.draw? clock width height = some a

theorem inOrder_of_drawn (h : a.Drawn) : a.tunnels.InOrder := by
  obtain ⟨cluster, config, inputs, before, clock, width, height, hbefore, hdrawn⟩ := h
  have horder := inOrder_run? (a := start cluster config) System.inOrder_empty hbefore
  exact inOrder_take? (i := .draw clock width height) horder hdrawn

/-- These steps are inputs like all others. -/
theorem run?_work (a : App) (labels : List System.Step) :
    a.run? (labels.map .work) = some (a.meanwhile labels) := by
  induction labels generalizing a with
  | nil => rfl
  | cons label labels ih => exact ih (a.work label)

theorem inOrder_meanwhile (h : a.tunnels.InOrder) (labels : List System.Step) :
    (a.meanwhile labels).tunnels.InOrder :=
  inOrder_run? h (run?_work a labels)

/-- A key that stops a tunnel, after a frame and whatever tunnels did since, stops the highlighted
tunnel and no other exactly in two cases: the tunnel is still there, and as many tunnels are ahead
of it as before; or it is gone, and there are no more tunnels than were ahead of it. -/
theorem stopsOnly_iff (h : a.Drawn) {t : Tunnel.Entry} (ht : a.highlighted? = some t)
    (labels : List System.Step) {key : Key.Press} (hkey : key.code = .char 'd') (m : Moment) :
    (a.meanwhile labels).StopsOnly t.ticket (.key key m) ↔
      if t.ticket ∈ (a.meanwhile labels).tunnels.tickets then
        (a.meanwhile labels).tunnels.registry.ahead t.id = a.tunnels.registry.ahead t.id
      else (a.meanwhile labels).tunnels.registry.size ≤ a.tunnels.registry.ahead t.id := by
  have horder := inOrder_of_drawn h
  have hlater := inOrder_meanwhile horder labels
  obtain ⟨i, hpopup, hi⟩ : ∃ i, a.screen.popup = .tunnels i ∧
      a.tunnels.registry.list[i]? = some t := by
    unfold highlighted? at ht
    split at ht
    · rename_i i hpopup
      exact ⟨i, hpopup, ht⟩
    · cases ht
  obtain ⟨-, hahead⟩ := (Registry.getElem?_list_iff horder.owned.ids).1 hi
  -- the position is kept, and is looked up in the list as it is by then
  have hkept : (a.meanwhile labels).screen.popup = .tunnels i := by
    rw [meanwhile_screen, hpopup]
  rw [hahead, stopsOnly_iff_askAt hlater hkept hkey]
  exact Registry.askAt_eq_ask_iff hlater.owned.ids hlater.nodup_signals

end

/-! ## Two tunnels -/

/-- The steps that bring up the tunnel of a call. -/
def opening (n : Nat) (id : Id) (spec : Spec) : List System.Step :=
  [.begin id spec, .probed n none, .checked n, .prepared n (.ok {}), .entered n default,
    .launched n none, .advance n, .advance n]

/-- The steps of a session whose forwarding call returns, up to the removal of its entry. -/
def closing (n : Nat) : List System.Step := [.returns n none, .advance n]

attribute [local instance] nativeEngine

/-- Two tunnels are up, and the key that lists tunnels was pressed. -/
def twoOpened : App :=
  ((start { pods := [], nodes := [] } {}).run?
    ((opening 0 ⟨"default/api", "app"⟩ ⟨"127.0.0.1", 8080, 80⟩ ++
      opening 1 ⟨"default/web", "app"⟩ ⟨"127.0.0.1", 8081, 80⟩).map .work ++
      [.key ⟨.char 'f', {}⟩ ⟨0, default⟩])).get (by decide +kernel)

theorem popup_twoOpened : twoOpened.screen.popup = .tunnels 0 := by decide +kernel

theorem exists_draw?_twoOpened : (twoOpened.draw? none 80 24).isSome = true := by
  have hsize : twoOpened.tunnels.registry.size = 2 := by decide +kernel
  rw [Option.isSome_iff_ne_none, ne_eq, draw?_eq_none_iff, popup_twoOpened, length_list, hsize]
  decide

/-- The frame with the list of both. -/
def twoListed : App := (twoOpened.draw? none 80 24).get exists_draw?_twoOpened

theorem draw?_twoOpened : twoOpened.draw? none 80 24 = some twoListed := (Option.some_get _).symm

theorem tunnels_twoListed : twoListed.tunnels = twoOpened.tunnels := by
  obtain ⟨_, _, _, _, _, hframe⟩ := draw?_frame draw?_twoOpened
  rw [hframe]

/-- The entry of the first of them. -/
def firstListed : Tunnel.Entry :=
  ⟨⟨"default/api", "app"⟩, ⟨"127.0.0.1", 8080, 80⟩, .active, default, 0⟩

theorem drawn_twoListed : twoListed.Drawn :=
  ⟨_, _, _, twoOpened, _, _, _, (Option.some_get _).symm, draw?_twoOpened⟩

theorem popup_twoListed : twoListed.screen.popup = .tunnels 0 := by
  rw [draw?_popup popup_twoOpened draw?_twoOpened, Nat.zero_min]

theorem highlighted_twoListed : twoListed.highlighted? = some firstListed := by
  unfold highlighted?
  rw [popup_twoListed, tunnels_twoListed]
  exact (Registry.getElem?_list_iff (by decide +kernel)).2 ⟨by decide +kernel, by decide +kernel⟩

/-- The second tunnel ends, and the key stops the first one, which was highlighted. -/
theorem stopsOnly_twoListed :
    twoListed.Drawn ∧ twoListed.highlighted? = some firstListed ∧
      (twoListed.meanwhile (closing 1)).StopsOnly firstListed.ticket
        (.key ⟨.char 'd', {}⟩ ⟨1, default⟩) := by
  refine ⟨drawn_twoListed, highlighted_twoListed,
    (stopsOnly_iff drawn_twoListed highlighted_twoListed (closing 1) rfl _).2 ?_⟩
  rw [meanwhile_tunnels_congr tunnels_twoListed, tunnels_twoListed]
  decide +kernel

/-- The first tunnel ends, and the key stops the second one, which was not highlighted. -/
theorem not_stopsOnly_twoListed :
    twoListed.Drawn ∧ twoListed.highlighted? = some firstListed ∧
      firstListed.ticket ∉ (twoListed.meanwhile (closing 0)).tunnels.tickets ∧
      ¬(twoListed.meanwhile (closing 0)).StopsOnly firstListed.ticket
        (.key ⟨.char 'd', {}⟩ ⟨1, default⟩) := by
  have hgone : firstListed.ticket ∉ (twoListed.meanwhile (closing 0)).tunnels.tickets := by
    rw [meanwhile_tunnels_congr tunnels_twoListed]
    decide +kernel
  refine ⟨drawn_twoListed, highlighted_twoListed, hgone, ?_⟩
  have hlater := inOrder_meanwhile (inOrder_of_drawn drawn_twoListed) (closing 0)
  have hpopup : (twoListed.meanwhile (closing 0)).screen.popup = .tunnels 0 := by
    rw [meanwhile_screen, popup_twoListed]
  rw [stopsOnly_iff_askAt hlater hpopup rfl,
    Registry.askAt_eq_ask_iff hlater.owned.ids hlater.nodup_signals,
    meanwhile_tunnels_congr tunnels_twoListed]
  decide +kernel

end App

end ResourceBrowser
