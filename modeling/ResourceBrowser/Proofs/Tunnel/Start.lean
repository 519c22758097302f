import ResourceBrowser.Proofs.Tunnel.Ownership
import ResourceBrowser.Tunnel.Start

/-!
# Whole calls

A call to start a tunnel that nothing comes in between is a sequence of steps like any other. So the
registry is in order after it, as it is after every step.

* `InOrder`: every start keeps its own entry, and no two share a number.
* `inOrder_start`: a whole call leaves the registry in order.
-/

namespace ResourceBrowser.Tunnel

namespace System

variable {s s' : System} {u : Upkeep} {o : Option (Nat × Event)} {c : Call}

/-- Numbers were given out once, and the entries are those of the starts that own them. -/
structure InOrder (s : System) : Prop where
  numbered : Numbered s.calls s.sessions s.next
  owned : Owned s

theorem inOrder_of_reachable (h : Reachable s) : InOrder s :=
  ⟨numbered_of_reachable h, owned_of_reachable h⟩

theorem inOrder_empty : InOrder {} := inOrder_of_reachable .start

theorem InOrder.of_taken (h : InOrder s) (hstep : Taken s u o s') : InOrder s' :=
  ⟨numbered_of_taken h.numbered hstep, owned_of_taken h.numbered h.owned hstep⟩

/-- The order is not about the events. -/
theorem InOrder.of_events (h : InOrder s) (events : List Event) : InOrder { s with events } :=
  ⟨h.numbered, ⟨h.owned.ids, h.owned.matched⟩⟩

/-- No two entries share a stop signal. -/
theorem InOrder.nodup_signals (h : InOrder s) : (s.registry.entries.map (·.signal)).Nodup := by
  have hentries : s.registry.entries.Nodup := List.Nodup.of_map _ h.owned.ids
  refine List.Nodup.map_on ?_ hentries
  intro d hd e he hsignal
  -- the owners have numbers of their own, and the entries are theirs
  have howner : ∀ e ∈ s.registry.entries, e.ticket ∈ s.owners := fun e he =>
    (h.owned.matched _).1 (List.mem_map.2 ⟨e, he, rfl⟩)
  have hticket : d.ticket = e.ticket :=
    List.inj_on_of_nodup_map (nodup_number_owners h.numbered) (howner d hd) (howner e he) hsignal
  exact List.inj_on_of_nodup_map h.owned.ids hd he (congrArg Ticket.id hticket)

/-! ## Steps of one call -/

/-- A call is under way at a stage, in a system that is in order. The steps of the call are taken
with what it was at first, since they read nothing that changes. -/
structure Calling (s : System) (c : Call) (stage : CallStage) : Prop extends InOrder s where
  mem : { c with stage } ∈ s.calls

/-- What a step of a call comes to: the system is in order, and unless it ended, the call goes on at
a later stage. -/
def Goes (p : Progress) (c : Call) (stage : CallStage) : Prop :=
  InOrder p.system ∧ (p.result = none → Calling p.system c stage)

variable {now stage : CallStage}

theorem calling_begin (h : InOrder s) (id : Id) (spec : Spec) :
    Calling (s.begin id spec).1 (s.begin id spec).2 .probing :=
  ⟨h.of_taken (.begun id spec), List.mem_append_right _ (List.mem_singleton_self _)⟩

theorem calling_goOn (h : InOrder (s.goOn c stage).system)
    (hs : (s.calls.map (·.number)).Nodup) (hc : { c with stage := now } ∈ s.calls) :
    Calling (s.goOn c stage).system c stage :=
  ⟨h, (mem_goOn hs hc stage).2 (.inl rfl)⟩

/-- A call that owns no entry yet moves on to a stage where it still owns none. -/
theorem goes_goOn (h : Calling s c now) (before : now.owns = false) (after : stage.owns = false) :
    Goes (s.goOn c stage) c stage :=
  have hafter := h.of_taken (.moved h.mem before after)
  ⟨hafter, fun _ => calling_goOn hafter h.numbered.ofCalls h.mem⟩

/-- A call that owns no entry yet ends. -/
theorem goes_finish (h : Calling s c now) (before : now.owns = false)
    (result : Except Fault Unit) : Goes (s.finish c result) c stage :=
  have hstep : Taken s .keeps none (s.finish { c with stage := now } result).system :=
    .ended h.mem before
  ⟨h.of_taken hstep, nofun⟩

theorem goes_probed (h : Calling s c .probing) (cause : Option String) :
    Goes (s.probed c cause) c .checking := by
  cases cause with
  | none => exact goes_goOn h rfl rfl
  | some cause => exact goes_finish h rfl _

theorem goes_checked (h : Calling s c .checking) : Goes (s.checked c) c .preparing := by
  unfold checked
  split
  · exact goes_finish h rfl _
  · exact goes_goOn h rfl rfl

theorem goes_entered {forwarding : Forwarding} (h : Calling s c (.entering forwarding))
    (startedAt : ClockTime) :
    Goes (s.entered c forwarding startedAt) c (.launching forwarding) := by
  unfold entered
  cases hfree : s.registry.contains c.id with
  | true => exact goes_finish h rfl _
  | false =>
    let d : Call := { c with stage := .entering forwarding }
    let e : Entry := ⟨c.id, c.spec, .starting, startedAt, c.number⟩
    have hstep : Taken s (.inserts d.ticket) none
        ({ s with registry := s.registry.insert e }.goOn d (.launching forwarding)).system :=
      .entered h.mem rfl rfl hfree rfl rfl
    have hafter := h.of_taken hstep
    exact ⟨hafter, fun _ => calling_goOn hafter h.numbered.ofCalls h.mem⟩

theorem inOrder_launched {forwarding : Forwarding} (h : Calling s c (.launching forwarding))
    (cause : Option String) : InOrder (s.launched c forwarding cause).system := by
  let d : Call := { c with stage := .launching forwarding }
  cases cause with
  | none =>
    let x : Session := ⟨c.number, c.id, c.spec, forwarding, .activating, false⟩
    have hstep : Taken s .keeps none
        ({ s with sessions := s.sessions ++ [x] }.finish d (.ok ())).system :=
      .launched h.mem rfl rfl rfl
    exact h.of_taken hstep
  | some cause =>
    have hstep : Taken s (.removes d.ticket) none
        ({ s with registry := s.registry.remove d.id }.finish d (.error (.system cause))).system :=
      .rolledBack h.mem rfl
    exact h.of_taken hstep

/-! ## Whole calls -/

theorem inOrder_andThen {p : Progress} {f : System → System × Except Fault Unit}
    (h : Goes p c stage) (hf : Calling p.system c stage → InOrder (f p.system).1) :
    InOrder (p.andThen f).1 := by
  unfold Progress.andThen
  cases hresult : p.result with
  | none => exact hf (h.2 hresult)
  | some result => exact h.1

/-- A whole call leaves the system in order, if nothing else happens while the forwarding is
prepared. -/
theorem inOrder_start (h : InOrder s) (w : Surroundings) (hw : w.prepare = fun s => (s, .ok {}))
    (id : Id) (spec : Spec) : InOrder (s.start w id spec).1 := by
  unfold start
  rw [hw]
  dsimp only
  refine inOrder_andThen (goes_probed (calling_begin h id spec) _) fun h => ?_
  refine inOrder_andThen (goes_checked h) fun h => ?_
  refine inOrder_andThen (goes_goOn h rfl rfl) fun h => ?_
  refine inOrder_andThen (goes_entered h _) fun h => ?_
  exact inOrder_launched h _

/-- To ask a tunnel to stop is a step of the system. -/
theorem inOrder_stop (h : InOrder s) (id : Id) : InOrder (s.stop id).1 := by
  unfold stop
  cases hstop : s.registry.stop id with
  | error e => exact h
  | ok registry =>
    have hstep : s.step? (.stop id) = some { system := { s with registry } } := by
      simp [step?, hstop, Except.toOption]
    exact h.of_taken (taken_of_step? hstep)

end System

end ResourceBrowser.Tunnel
