import ResourceBrowser.Proofs.App.Frame
import ResourceBrowser.Proofs.Cluster.Arithmetic

/-!
# How long the application lasts

The application stops where the simulation behind it cannot go on, and where a frame has no place
for its popup. The simulation goes on as long as its counters have room and there is a container to
take away, so that only the frames are left.

* `HasSteps`: a cluster that has a number of steps left, `exists_tick?`.
* `GoesOn`: an application that follows, with a number of steps left.
* `goesOn_take?`: whatever comes in costs one step at most.
* `run?_eq_none_iff`: a run stops exactly at a frame that cannot be drawn.
-/

namespace ResourceBrowser

open Cluster Screen Table View Tunnel

/-! ## Clusters -/

namespace Cluster

variable {left n : Nat} {c d : Cluster}

/-- A cluster in which a number of further steps succeed. -/
structure HasSteps (left : Nat) (c : Cluster) : Prop where
  room : ∃ n k, n < UInt32.size ∧ k + left ≤ n ∧ c.Bounded n k
  staffed : unstaffed c.pods = false

theorem HasSteps.of_sameWorld (h : c.HasSteps left) (hsame : d.SameWorld c) : d.HasSteps left := by
  rcases h with ⟨⟨n, k, hn, hk, hbounded⟩, hstaffed⟩
  constructor
  · exact ⟨n, k, hn, hk, bounded_of_sameWorld hsame hbounded⟩
  · rw [hsame.pods, hstaffed]

theorem HasSteps.of_succ (h : c.HasSteps (left + 1)) : c.HasSteps left := by
  rcases h with ⟨⟨n, k, hn, hk, hbounded⟩, hstaffed⟩
  exact ⟨⟨n, k, hn, by omega, hbounded⟩, hstaffed⟩

theorem hasSteps_start {pods : List Pod} (h : HasRoom pods n) (hstaffed : unstaffed pods = false)
    (nodes : List Node) (metrics churn : Bool) : (start pods nodes metrics churn).HasSteps n := by
  constructor
  · exact ⟨n, 0, h.steps, by omega, bounded_start h nodes metrics churn⟩
  · rw [unstaffed_congr (firstApi_start pods nodes metrics churn), hstaffed]

/-- A listing costs one step if the simulation goes on with every listing, and none otherwise. -/
theorem exists_tick? (h : c.HasSteps (left + 1)) (now : Int) :
    ∃ d, c.tick? now = some d ∧ d.HasSteps left := by
  cases hchurn : c.churn with
  | false => exact ⟨c, tick?_of_not_churn hchurn now, h.of_succ⟩
  | true =>
    rcases h with ⟨⟨n, k, hn, hk, hbounded⟩, hstaffed⟩
    -- with room in the counters, a step fails for want of a container only
    have hkept : c.advance? now ≠ none := by
      rw [Ne, advance?_eq_none_iff hn (by omega) hbounded, hstaffed]
      intro hlost
      exact Bool.false_ne_true hlost.2
    rcases Option.ne_none_iff_exists'.1 hkept with ⟨d, hd⟩
    refine ⟨d, ?_, ⟨n, k + 1, hn, by omega, bounded_advance? hbounded hd⟩, ?_⟩
    · rw [tick?, if_pos hchurn, hd]
    · rw [unstaffed_congr (firstApi_advance? hd), hstaffed]

/-- Asking for another kind is about what is listed. -/
theorem Feed.sameWorld_setKind {f g : Feed} {kind : String} (h : f.setKind kind = .ok g) :
    g.cluster.SameWorld f.cluster := by
  unfold Feed.setKind at h
  cases hreach : f.reachable with
  | false =>
    rw [hreach] at h
    cases h
  | true =>
    rw [hreach, if_pos rfl] at h
    rcases setKind_cases f.cluster kind with ⟨e, he⟩ | hsame | ⟨k, -, hother⟩
    · rw [he] at h
      cases h
    · rw [hsame] at h
      obtain rfl := Except.ok.inj h
      exact .refl _
    · rw [hother] at h
      obtain rfl := Except.ok.inj h
      exact ⟨rfl, rfl, rfl, rfl, rfl⟩

theorem Feed.sameWorld_setSelector {f g : Feed} {selector : Option String}
    (h : f.setSelector selector = .ok g) : g.cluster.SameWorld f.cluster := by
  unfold Feed.setSelector at h
  rw [setSelector_eq] at h
  cases hread : readSelector selector with
  | error e =>
    rw [hread] at h
    cases h
  | ok s =>
    rw [hread] at h
    obtain rfl := Except.ok.inj h
    exact ⟨rfl, rfl, rfl, rfl, rfl⟩

/-- A server that does not answer costs nothing. -/
theorem Feed.exists_refresh? {f : Feed} (h : f.cluster.HasSteps (left + 1)) (now : Int) :
    ∃ g listing, f.refresh? now = some (g, listing) ∧ g.cluster.HasSteps left := by
  unfold Feed.refresh?
  cases f.reachable with
  | false => exact ⟨_, _, rfl, h.of_succ⟩
  | true =>
    rcases exists_tick? h now with ⟨d, hd, hsteps⟩
    have hlisted : f.cluster.refresh? now = some (d.record now) :=
      refresh?_eq_some_iff.2 ⟨d, hd, rfl⟩
    dsimp only
    rw [if_pos rfl, hlisted]
    exact ⟨_, _, rfl, hsteps.of_sameWorld ⟨rfl, rfl, rfl, rfl, rfl⟩⟩

end Cluster

/-! ## What follows in the application -/

namespace App

variable {left : Nat} {a b : App}

/-- There is an application that follows, and its cluster has a number of steps left. -/
def GoesOn (left : Nat) (next : Option App) : Prop :=
  ∃ b, next = some b ∧ b.feed.cluster.HasSteps left

/-- An application with its popup open where the popup cannot be placed. -/
def LacksPlace (a : App) (width height : UInt16) : Prop :=
  a.screen.popup ≠ .none ∧
    a.screen.popup.area? ⟨0, 0, width, height⟩ a.tunnels.registry.list.length = none

theorem goesOn_some (h : a.feed.cluster.HasSteps left) (hb : b.feed = a.feed) :
    GoesOn left (some b) :=
  ⟨b, rfl, hb.symm ▸ h⟩

/-- To hand over a selector costs nothing. -/
theorem sameWorld_apply {selector : Option String} {changed : Bool}
    (h : a.apply selector = .ok (b, changed)) : b.feed.cluster.SameWorld a.feed.cluster := by
  unfold apply at h
  dsimp only at h
  split at h
  · obtain ⟨rfl, -⟩ := Prod.mk.inj (Except.ok.inj h)
    exact .refl _
  · cases hset : a.feed.setSelector ((selector.map Text.trim).filter (· != "")) with
    | error e =>
      rw [hset] at h
      cases h
    | ok feed =>
      rw [hset] at h
      obtain ⟨rfl, -⟩ := Prod.mk.inj (Except.ok.inj h)
      exact Feed.sameWorld_setSelector hset

theorem GoesOn.reportTable {next : Option App} (h : GoesOn left next) (m : Moment) :
    GoesOn left (next.map (·.reportTable m)) := by
  rcases h with ⟨b, rfl, hsteps⟩
  have hfeed : (b.reportTable m).feed = b.feed := by
    rcases reportTable_frame b m with ⟨flash, hframe⟩
    rw [hframe]
  exact goesOn_some hsteps hfeed

variable [Engine]

theorem goesOn_reload? (h : a.feed.cluster.HasSteps (left + 1)) (m : Moment) :
    GoesOn left (a.reload? m) := by
  rcases Feed.exists_refresh? h m.nanos with ⟨feed, listing, hrefresh, hsteps⟩
  have hreceived : GoesOn left (some (a.receive feed listing)) := ⟨_, rfl, hsteps⟩
  unfold reload?
  rw [hrefresh]
  exact hreceived.reportTable m

theorem goesOn_applySelector? (h : a.feed.cluster.HasSteps (left + 1)) (commit : Bool)
    (m : Moment) : GoesOn left (a.applySelector? commit m) := by
  unfold applySelector?
  cases happly : a.apply a.browser.table.labelSelector? with
  | error e => cases commit <;> exact goesOn_some h.of_succ rfl
  | ok applied =>
    rcases applied with ⟨b, changed⟩
    have hsteps := h.of_sameWorld (sameWorld_apply happly)
    cases changed with
    | false => exact ⟨b, rfl, hsteps.of_succ⟩
    | true => exact goesOn_reload? hsteps m

/-- To drop the selector at a switch cannot fail, and costs nothing either. -/
theorem goesOn_switchKind? (h : a.feed.cluster.HasSteps (left + 1)) (name : String) (m : Moment) :
    GoesOn left (a.switchKind? name m) := by
  rcases switchKind?_cases a name m with ⟨message, hsaid⟩ |
      ⟨kind, feed, hset, c, changed, happly, hreload⟩
  · rw [hsaid]
    exact goesOn_some h.of_succ rfl
  · have hsteps := h.of_sameWorld (Feed.sameWorld_setKind hset)
    rw [hreload]
    refine goesOn_reload? ?_ m
    exact hsteps.of_sameWorld (sameWorld_apply happly)

/-- Of the actions of the view, only a switch to another kind asks for a listing. -/
theorem goesOn_dispatch? (h : a.feed.cluster.HasSteps (left + 1)) (key : Key.Binding)
    (m : Moment) : GoesOn left (a.dispatch? key m) := by
  unfold dispatch?
  rcases a.browser.dispatch (a.context m) key with _ | ⟨browser, e | o⟩
  · exact goesOn_some h.of_succ rfl
  · exact goesOn_some h.of_succ rfl
  · cases o with
    | done | save _ _ | startFilter | showTunnels | openDialog _ =>
      exact goesOn_some h.of_succ rfl
    | goto kind => exact goesOn_switchKind? (a := { a with browser }) h kind m

theorem goesOn_react? (h : a.feed.cluster.HasSteps (left + 1)) (r : Reaction) (m : Moment) :
    GoesOn left (a.react? r m) := by
  cases r with
  | none | quit => exact goesOn_some h.of_succ rfl
  | dispatch key => exact goesOn_dispatch? h key m
  | filterChanged commit => exact goesOn_applySelector? h commit m
  | startForward =>
    rcases startForward_frame a m with ⟨tunnels, popup, flash, hframe, -⟩
    exact goesOn_some h.of_succ (by rw [hframe])
  | stopTunnel index =>
    rcases stopTunnel_frame a index m with ⟨tunnels, flash, hframe⟩
    exact goesOn_some h.of_succ (by rw [hframe])

theorem goesOn_onKey? (h : a.feed.cluster.HasSteps (left + 1)) (key : Key.Press) (m : Moment) :
    GoesOn left (a.onKey? key m) := by
  unfold onKey?
  dsimp only
  generalize handleKey a.screen a.browser.table key = handled
  exact (goesOn_react? (a := a.heard handled) h handled.reaction m).reportTable m

/-! ## Whatever comes in -/

/-- With steps left, everything that comes in has an application that follows, with one step less at
worst. The exception is a frame without a place for its popup. -/
theorem goesOn_take? (h : a.feed.cluster.HasSteps (left + 1)) (i : Input) :
    GoesOn left (a.take? i) ∨
      ∃ clock width height, i = .draw clock width height ∧ a.LacksPlace width height := by
  cases i with
  | key press m => exact .inl (goesOn_onKey? h press m)
  | tick m =>
    refine .inl (goesOn_reload? ?_ m)
    exact h
  | event e m =>
    rcases handleEvent_frame a e m with ⟨flash, hframe⟩
    exact .inl (goesOn_some h.of_succ (by rw [hframe]))
  | work label =>
    rcases work_frame a label with ⟨tunnels, hframe⟩
    exact .inl (goesOn_some h.of_succ (by rw [hframe]))
  | draw clock width height =>
    cases hb : a.draw? clock width height with
    | none =>
      exact .inr ⟨clock, width, height, rfl, (draw?_eq_none_iff a clock width height).1 hb⟩
    | some b =>
      rcases draw?_frame hb with ⟨c, drawn, pageSize, offset, -, rfl⟩
      exact .inl ⟨_, hb, h.of_succ⟩

/-- A run in which the simulation has a step left for everything that comes in stops exactly at a
frame without a place for its popup. -/
theorem run?_eq_none_iff {inputs : List Input} (h : a.feed.cluster.HasSteps inputs.length) :
    a.run? inputs = none ↔ ∃ before clock width height after b,
      inputs = before ++ .draw clock width height :: after ∧ a.run? before = some b ∧
        b.LacksPlace width height := by
  constructor
  · intro hstops
    -- everything that is taken in before the frame spends one of the steps
    induction inputs generalizing a with
    | nil => cases hstops
    | cons i rest ih =>
      rw [run?, List.foldlM_cons] at hstops
      rcases goesOn_take? h i with ⟨b, hb, hsteps⟩ | ⟨clock, width, height, rfl, hlacks⟩
      · rw [hb] at hstops
        rcases ih hsteps hstops with ⟨before, clock, width, height, after, c, rfl, hc, hlacks⟩
        refine ⟨i :: before, clock, width, height, after, c, rfl, ?_, hlacks⟩
        rw [run?, List.foldlM_cons, hb]
        exact hc
      · exact ⟨[], clock, width, height, rest, a, rfl, rfl, hlacks⟩
  · rintro ⟨before, clock, width, height, after, b, rfl, hb, hlacks⟩
    have hstops : b.take? (.draw clock width height) = none :=
      (draw?_eq_none_iff b clock width height).2 hlacks
    unfold run? at hb ⊢
    rw [List.foldlM_append, hb, Option.bind_eq_bind, Option.bind_some, List.foldlM_cons, hstops]
    rfl

/-- From the start on, an application over a cluster with room in its counters and containers to
take away stops at such a frame only. -/
theorem run?_start_eq_none_iff {pods : List Pod} {inputs : List Input}
    (h : HasRoom pods inputs.length) (hstaffed : unstaffed pods = false) (nodes : List Node)
    (metrics churn : Bool) (config : Config) :
    (start (Cluster.start pods nodes metrics churn) config).run? inputs = none ↔
      ∃ before clock width height after b, inputs = before ++ .draw clock width height :: after ∧
        (start (Cluster.start pods nodes metrics churn) config).run? before = some b ∧
          b.LacksPlace width height :=
  run?_eq_none_iff (hasSteps_start h hstaffed nodes metrics churn)

end App

end ResourceBrowser
