import ResourceBrowser.App.Run
import ResourceBrowser.Proofs.Screen.Popups

/-!
# What the parts of the application change

Each part of the application changes a few fields and leaves all others alone. What follows for the
source, for the tunnels and for the prompt is read off from here.
-/

namespace ResourceBrowser

open Cluster Screen Table View Tunnel

namespace App

/-- A report takes the last error from the table and may change the message line. -/
theorem reportTable_frame (a : App) (m : Moment) : ∃ flash, a.reportTable m = { a with
    browser := { a.browser with table := { a.browser.table with lastError := none } }
    screen := { a.screen with flash } } := by
  unfold reportTable
  dsimp only [LiveTable.takeError]
  cases a.browser.table.lastError with
  | none => exact ⟨a.screen.flash, rfl⟩
  | some message => exact ⟨_, rfl⟩

/-- To hand over a selector concerns the source only. -/
theorem apply_frame {a b : App} {selector : Option String} {changed : Bool}
    (h : a.apply selector = .ok (b, changed)) : ∃ feed applied, b = { a with feed, applied } := by
  unfold apply at h
  dsimp only at h
  split at h
  · obtain ⟨rfl, -⟩ := Prod.mk.inj (Except.ok.inj h)
    exact ⟨a.feed, a.applied, rfl⟩
  · cases hset : a.feed.setSelector ((selector.map Text.trim).filter (· != "")) with
    | error e =>
      rw [hset] at h
      cases h
    | ok feed =>
      rw [hset] at h
      obtain ⟨rfl, -⟩ := Prod.mk.inj (Except.ok.inj h)
      exact ⟨_, _, rfl⟩

/-- To hand over no selector always succeeds. -/
theorem exists_apply_none (a : App) : ∃ b changed, a.apply none = .ok (b, changed) := by
  by_cases h : a.applied = none
  · exact ⟨a, false, if_pos (beq_iff_eq.2 h)⟩
  · exact ⟨_, true, if_neg (mt beq_iff_eq.1 h)⟩

/-- Afterwards nothing is asked for any more. -/
theorem frame_apply_none {a b : App} {changed : Bool} (h : a.apply none = .ok (b, changed)) :
    b.feed.reachable = a.feed.reachable ∧ b.applied = none ∧
      (b.feed.cluster.selector = .empty ∨
        a.applied = none ∧ b.feed.cluster.selector = a.feed.cluster.selector) := by
  unfold apply at h
  dsimp only [Option.map_none, Option.filter_none] at h
  split at h
  · rename_i hsame
    obtain ⟨rfl, -⟩ := Prod.mk.inj (Except.ok.inj h)
    exact ⟨rfl, beq_iff_eq.1 hsame, .inr ⟨beq_iff_eq.1 hsame, rfl⟩⟩
  · obtain ⟨rfl, -⟩ := Prod.mk.inj (Except.ok.inj h)
    exact ⟨rfl, rfl, .inl rfl⟩

/-- Starting a tunnel closes the dialog, if there is one. -/
theorem startForward_frame (a : App) (m : Moment) : ∃ tunnels popup flash,
    a.startForward m = { a with tunnels, screen := { a.screen with popup, flash } } ∧
      (popup = .none ∨ popup = a.screen.popup) := by
  unfold startForward
  split
  · dsimp only
    split <;> exact ⟨_, .none, _, rfl, .inl rfl⟩
  · exact ⟨a.tunnels, a.screen.popup, a.screen.flash, rfl, .inr rfl⟩

theorem stopTunnel_frame (a : App) (index : Nat) (m : Moment) : ∃ tunnels flash,
    a.stopTunnel index m = { a with tunnels, screen := { a.screen with flash } } := by
  unfold stopTunnel
  split
  · exact ⟨a.tunnels, a.screen.flash, rfl⟩
  · split <;> exact ⟨_, _, rfl⟩

theorem handleEvent_frame (a : App) (e : Event) (m : Moment) : ∃ flash,
    a.handleEvent e m = { a with
      tunnels := { a.tunnels with events := a.tunnels.events.erase e }
      screen := { a.screen with flash } } := by
  unfold handleEvent
  cases e with
  | activated id spec => exact ⟨_, rfl⟩
  | stopped id => exact ⟨a.screen.flash, rfl⟩
  | failed id message => exact ⟨_, rfl⟩

theorem work_frame (a : App) (label : System.Step) :
    ∃ tunnels, a.work label = { a with tunnels } := by
  unfold work
  split
  · exact ⟨_, rfl⟩
  · exact ⟨a.tunnels, rfl⟩

variable {a b : App}

/-- Drawing settles the open popup and the place of the table on the screen. -/
theorem draw?_frame {clock : Option ClockTime} {width height : UInt16}
    (h : a.draw? clock width height = some b) :
    ∃ (c : Canvas) (drawn : Canvas × Popup) (pageSize offset : Nat),
      c.drawPopup? ⟨0, 0, width, height⟩ (a.scene clock) a.screen.popup = some drawn ∧
        b = { a with screen := { a.screen with popup := drawn.2, pageSize, offset } } := by
  obtain ⟨f, hf, rfl⟩ := Option.map_eq_some_iff.1 h
  obtain ⟨drawn, hdrawn, rfl⟩ := Option.map_eq_some_iff.1 hf
  exact ⟨_, drawn, _, _, hdrawn, rfl⟩

/-- Only a popup that cannot be placed keeps a frame from being drawn. -/
theorem draw?_eq_none_iff (a : App) (clock : Option ClockTime) (width height : UInt16) :
    a.draw? clock width height = none ↔ a.screen.popup ≠ .none ∧
      a.screen.popup.area? ⟨0, 0, width, height⟩ a.tunnels.registry.list.length = none := by
  unfold draw? Scene.draw?
  rw [Option.map_eq_none_iff, Option.map_eq_none_iff, drawPopup?_eq_none_iff]
  rfl

variable [Engine]

/-- A new browser has the table of one without hotkeys and tunnels. -/
theorem browserFor_frame (kind : String) (feed : Feed) (config : Config) :
    (browserFor kind feed config).table =
      (Browser.plain kind config).table.setMetrics feed.cluster.metrics := by
  unfold browserFor Browser.forKind
  dsimp only
  split <;> rfl

/-- An application with a new browser. -/
def viewing (a : App) (kind : String) : App :=
  { a with
    browser := browserFor kind a.feed a.config
    screen := { a.screen with mode := .normal } }

/-- A switch to another kind is refused with a message, or it ends in a listing for a new browser.
Before that, the source is asked for the kind and for everything of it. -/
theorem switchKind?_cases (a : App) (name : String) (m : Moment) :
    (∃ message, a.switchKind? name m = some (a.say .error message m)) ∨
      ∃ (kind : Cluster.Kind) (feed : Feed), a.feed.setKind kind.name = .ok feed ∧
        ∃ c changed, apply { a with feed } none = .ok (c, changed) ∧
          a.switchKind? name m = (c.viewing kind.name).reload? m := by
  unfold switchKind?
  cases Kind.ofAlias? name with
  | none => exact .inl ⟨_, rfl⟩
  | some kind =>
    dsimp only
    cases hset : a.feed.setKind kind.name with
    | error e => exact .inl ⟨_, rfl⟩
    | ok feed =>
      obtain ⟨c, changed, happly⟩ := exists_apply_none { a with feed }
      refine .inr ⟨kind, feed, hset, c, changed, happly, ?_⟩
      dsimp only
      rw [happly]
      rfl

theorem exists_of_reload? {m : Moment} (h : a.reload? m = some b) : ∃ feed listing,
    a.feed.refresh? m.nanos = some (feed, listing) ∧
      (a.receive feed listing).reportTable m = b := by
  obtain ⟨⟨feed, listing⟩, hrefresh, hreport⟩ := Option.map_eq_some_iff.1 h
  exact ⟨feed, listing, hrefresh, hreport⟩

end App

end ResourceBrowser
