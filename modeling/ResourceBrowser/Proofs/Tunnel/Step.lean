import ResourceBrowser.Tunnel.System

/-!
# What a step of the system can do

`Taken` lists what a step can come to, whichever call or session it is a step of. Statements about
every step split on it and leave `System.step?` closed.

* `System.upkeep`: what a step does to the entries of the registry.
* `System.emits`: the event a step delivers, with the number of its session.
* `taken_of_step?`: every step is one of the twelve ways of `Taken`.
* `System.run?`: a history, step by step.
-/

namespace ResourceBrowser.Tunnel

/-! ## Tickets -/

/-- What tells the entry of one start from that of any other: the number of the call is that of
the stop signal. -/
structure Ticket where
  number : Nat
  id : Id
  spec : Spec
deriving DecidableEq, Repr

/-- The ticket of the start that inserted an entry. -/
def Entry.ticket (e : Entry) : Ticket := ⟨e.signal, e.id, e.spec⟩

/-- The ticket of a call. -/
def Call.ticket (c : Call) : Ticket := ⟨c.number, c.id, c.spec⟩

/-- The ticket of a session. -/
def Session.ticket (x : Session) : Ticket := ⟨x.number, x.id, x.spec⟩

/-- True from the insertion of the entry to the end of the call. -/
def CallStage.owns : CallStage → Bool
  | .launching _ => true
  | _ => false

/-- True up to the removal of the entry. -/
def SessionStage.owns : SessionStage → Bool
  | .reporting _ => false
  | _ => true

/-- What a step does to the entries of the registry. -/
inductive Upkeep where
  | keeps
  | inserts (t : Ticket)
  | removes (t : Ticket)
deriving DecidableEq, Repr

namespace System

/-- What a step does to the entries. -/
def upkeep (s : System) : Step → Upkeep
  | .entered n _ =>
    match s.call? n with
    | some c => if s.registry.contains c.id then .keeps else .inserts c.ticket
    | none => .keeps
  | .launched n (some _) =>
    match s.call? n with
    | some c => .removes c.ticket
    | none => .keeps
  | .advance n =>
    match s.session? n with
    | some x =>
      match x.stage with
      | .removing _ => .removes x.ticket
      | _ => .keeps
    | none => .keeps
  | _ => .keeps

/-- The event that a step delivers, with the number of the session. -/
def emits (s : System) : Step → Option (Nat × Event)
  | .advance n =>
    match s.session? n with
    | some x =>
      match x.stage with
      | .announcing => some (x.number, .activated x.id x.spec)
      | .reporting failure => some (x.number, endEvent x.id failure)
      | _ => none
    | none => none
  | _ => none

/-! ## The ways of a step -/

/-- What a step does to the entries, the event it delivers, and the system after it. -/
inductive Taken (s : System) : Upkeep → Option (Nat × Event) → System → Prop where
  | begun (id : Id) (spec : Spec) : Taken s .keeps none (s.begin id spec).1
  /-- A call goes on without an entry. -/
  | moved {c : Call} {stage : CallStage} (hc : c ∈ s.calls) (before : c.stage.owns = false)
      (after : stage.owns = false) : Taken s .keeps none (s.goOn c stage).system
  /-- A call ends without an entry. -/
  | ended {c : Call} {result : Except Fault Unit} (hc : c ∈ s.calls)
      (before : c.stage.owns = false) : Taken s .keeps none (s.finish c result).system
  | entered {c : Call} {stage : CallStage} {e : Entry} (hc : c ∈ s.calls)
      (before : c.stage.owns = false) (after : stage.owns = true)
      (free : s.registry.contains c.id = false) (ticket : e.ticket = c.ticket)
      (state : e.state = .starting) : Taken s (.inserts c.ticket) none
        ({ s with registry := s.registry.insert e }.goOn c stage).system
  | rolledBack {c : Call} {result : Except Fault Unit} (hc : c ∈ s.calls)
      (before : c.stage.owns = true) :
      Taken s (.removes c.ticket) none
        ({ s with registry := s.registry.remove c.id }.finish c result).system
  | launched {c : Call} {x : Session} {result : Except Fault Unit} (hc : c ∈ s.calls)
      (before : c.stage.owns = true) (ticket : x.ticket = c.ticket)
      (stage : x.stage = .activating) :
      Taken s .keeps none ({ s with sessions := s.sessions ++ [x] }.finish c result).system
  | activated {x : Session} (hx : x ∈ s.sessions) (stage : x.stage = .activating) :
      Taken s .keeps none
        ({ s with registry := s.registry.activate x.id }.moveSession x .announcing)
  | announced {x : Session} (hx : x ∈ s.sessions) (stage : x.stage = .announcing) :
      Taken s .keeps (some (x.number, .activated x.id x.spec))
        ({ s with events := s.events ++ [Event.activated x.id x.spec] }.moveSession x .running)
  | returned {x : Session} {failure : Option Fault} (hx : x ∈ s.sessions)
      (stage : x.stage = .running) : Taken s .keeps none (s.moveSession x (.removing failure))
  | removed {x : Session} {failure : Option Fault} (hx : x ∈ s.sessions)
      (stage : x.stage = .removing failure) :
      Taken s (.removes x.ticket) none
        ({ s with registry := s.registry.remove x.id }.moveSession x (.reporting failure))
  | reported {x : Session} {failure : Option Fault} (hx : x ∈ s.sessions)
      (stage : x.stage = .reporting failure) :
      Taken s .keeps (some (x.number, endEvent x.id failure))
        { s with
          events := s.events ++ [endEvent x.id failure]
          sessions := s.sessions.filter (·.number ≠ x.number) }
  | raised (p : Entry → Bool) :
      Taken s .keeps none { s with registry := s.registry.raise p }

variable {s s' : System}

theorem mem_of_call? {n : Nat} {c : Call} (h : s.call? n = some c) : c ∈ s.calls :=
  List.mem_of_find?_eq_some h

theorem mem_of_session? {n : Nat} {x : Session} (h : s.session? n = some x) : x ∈ s.sessions :=
  List.mem_of_find?_eq_some h

/-- A step that a call can take at one stage only, where the call owns no entry. -/
theorem exists_call_at {n : Nat} {stage : CallStage} {p : Progress} {f : Call → Progress}
    (howns : stage.owns = false)
    (h : (s.call? n).bind (fun c => if c.stage = stage then some (f c) else none) = some p) :
    ∃ c ∈ s.calls, c.stage.owns = false ∧ f c = p := by
  obtain ⟨c, hc, hp⟩ := Option.bind_eq_some_iff.1 h
  obtain ⟨hstage, hsome⟩ := Option.ite_none_right_eq_some.1 hp
  refine ⟨c, mem_of_call? hc, ?_, Option.some.inj hsome⟩
  rw [hstage]
  exact howns

/-- The next step of a session is one of the ways of a step. -/
theorem taken_of_advance {n : Nat} {x : Session} (hx : s.session? n = some x)
    (h : s.advance x = some s') :
    Taken s (s.upkeep (.advance n)) (s.emits (.advance n)) s' := by
  have hmem := mem_of_session? hx
  unfold advance at h
  cases hstage : x.stage with
  | activating =>
    rw [hstage] at h
    obtain rfl := Option.some.inj h
    simpa [upkeep, emits, hx, hstage] using Taken.activated hmem hstage
  | announcing =>
    rw [hstage] at h
    obtain rfl := Option.some.inj h
    simpa [upkeep, emits, hx, hstage] using Taken.announced hmem hstage
  | running =>
    rw [hstage] at h
    exact absurd h (by simp)
  | removing failure =>
    rw [hstage] at h
    obtain rfl := Option.some.inj h
    simpa [upkeep, emits, hx, hstage] using Taken.removed hmem hstage
  | reporting failure =>
    rw [hstage] at h
    obtain rfl := Option.some.inj h
    simpa [upkeep, emits, hx, hstage] using Taken.reported hmem hstage

/-- Entering a tunnel into the registry is one of the ways of a step. -/
theorem taken_of_entered {n : Nat} {c : Call} {startedAt : ClockTime} {forwarding : Forwarding}
    (hc : s.call? n = some c) (hstage : c.stage = .entering forwarding) :
    Taken s (s.upkeep (.entered n startedAt)) none (s.entered c forwarding startedAt).system := by
  have hmem := mem_of_call? hc
  have hidle : c.stage.owns = false := by rw [hstage]; rfl
  unfold entered
  cases hfree : s.registry.contains c.id with
  | true =>
    have hkeeps : s.upkeep (.entered n startedAt) = .keeps := by simp [upkeep, hc, hfree]
    rw [hkeeps, if_pos rfl]
    exact .ended hmem hidle
  | false =>
    have hinserts : s.upkeep (.entered n startedAt) = .inserts c.ticket := by
      simp [upkeep, hc, hfree]
    rw [hinserts, if_neg (by simp)]
    exact .entered hmem hidle rfl hfree rfl rfl

/-- Every step is one of the ways of a step. -/
theorem taken_of_step? {label : Step} {p : Progress} (h : s.step? label = some p) :
    Taken s (s.upkeep label) (s.emits label) p.system := by
  cases label with
  | begin id spec =>
    obtain rfl := Option.some.inj h
    exact .begun id spec
  | probed n cause =>
    obtain ⟨c, hc, hidle, rfl⟩ := exists_call_at rfl h
    cases cause with
    | some cause => exact .ended hc hidle
    | none => exact .moved hc hidle rfl
  | checked n =>
    obtain ⟨c, hc, hidle, rfl⟩ := exists_call_at rfl h
    unfold checked
    split
    · exact .ended hc hidle
    · exact .moved hc hidle rfl
  | prepared n result =>
    obtain ⟨c, hc, hidle, rfl⟩ := exists_call_at rfl h
    cases result with
    | error e => exact .ended hc hidle
    | ok forwarding => exact .moved hc hidle rfl
  | entered n startedAt =>
    obtain ⟨c, hc, hp⟩ := Option.bind_eq_some_iff.1 h
    split at hp
    · rename_i forwarding hstage
      obtain rfl := Option.some.inj hp
      exact taken_of_entered hc hstage
    · exact absurd hp (by simp)
  | launched n cause =>
    obtain ⟨c, hc, hp⟩ := Option.bind_eq_some_iff.1 h
    split at hp
    · rename_i forwarding hstage
      obtain rfl := Option.some.inj hp
      have howns : c.stage.owns = true := by rw [hstage]; rfl
      cases cause with
      | some cause =>
        have hremoves : s.upkeep (.launched n (some cause)) = .removes c.ticket := by
          simp [upkeep, hc]
        rw [hremoves]
        exact .rolledBack (mem_of_call? hc) howns
      | none => exact .launched (mem_of_call? hc) howns rfl rfl
    · exact absurd hp (by simp)
  | advance n =>
    obtain ⟨x, hx, hp⟩ := Option.bind_eq_some_iff.1 h
    obtain ⟨next, hnext, rfl⟩ := Option.map_eq_some_iff.1 hp
    exact taken_of_advance hx hnext
  | returns n failure =>
    obtain ⟨x, hx, hp⟩ := Option.bind_eq_some_iff.1 h
    obtain ⟨next, hnext, rfl⟩ := Option.map_eq_some_iff.1 hp
    obtain ⟨hstage, hsome⟩ := Option.ite_none_right_eq_some.1 hnext
    obtain rfl := Option.some.inj hsome
    exact .returned (mem_of_session? hx) hstage
  | stop id =>
    obtain ⟨registry, hstop, rfl⟩ := Option.map_eq_some_iff.1 h
    unfold Registry.stop at hstop
    split at hstop
    · obtain rfl := Option.some.inj hstop
      exact .raised _
    · exact absurd hstop (by simp [Except.toOption])
  | stopAll =>
    obtain rfl := Option.some.inj h
    exact .raised _

/-! ## Histories -/

/-- The system after steps taken one after the other, if each of them can be taken. -/
def run? : System → List Step → Option System
  | s, [] => some s
  | s, label :: rest => (s.step? label).bind fun p => p.system.run? rest

/-- Histories lead to reachable systems. -/
theorem Reachable.run? (h : Reachable s) (labels : List Step)
    (hrun : s.run? labels = some s') : Reachable s' := by
  induction labels generalizing s with
  | nil =>
    obtain rfl := Option.some.inj hrun
    exact h
  | cons label rest ih =>
    obtain ⟨p, hp, hrest⟩ := Option.bind_eq_some_iff.1 hrun
    exact ih (h.step label hp) hrest

end System

end ResourceBrowser.Tunnel
