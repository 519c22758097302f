import ResourceBrowser.Proofs.Tunnel.Ownership
import ResourceBrowser.Tunnel.Start

/-!
# What a start comes to

A call to start a tunnel can fail in five ways: twice before the forwarding is prepared, by the
preparation itself, and twice after it, the last time when the tunnel is in the registry already.
The registry is free for others while the forwarding is prepared, and the preparation may use the
system itself. Whichever way the call takes, it leaves a tunnel or nothing at all.

* `Starts`: the ways of a call, each with what it leaves, `starts_start`.
* `Grown`: what calls add to a system, also when one starts from within another,
  `grown_of_reentered`.
* `AllOrNothing`: what a call promises whichever way it takes, `allOrNothing_start`.
-/

namespace ResourceBrowser.Tunnel

/-- Removing an entry takes back its insertion, if there was none for its id. -/
theorem Registry.remove_insert {r : Registry} {e : Entry} (h : r.contains e.id = false) :
    (r.insert e).remove e.id = r := by
  have hkept : r.entries.filter (·.id ≠ e.id) = r.entries := by
    rw [List.filter_eq_self]
    intro d hd
    simpa using Registry.contains_eq_false.1 h d hd
  have hall : (r.entries ++ [e]).filter (·.id ≠ e.id) = r.entries := by
    rw [List.filter_append, hkept]
    simp
  unfold Registry.insert Registry.remove
  rw [hall]

namespace System

/-! ## Systems around a call -/

/-- The system without the call that has a number. -/
def withoutCall (s : System) (number : Nat) : System :=
  { s with calls := s.calls.filter (·.number ≠ number) }

/-- The system as the preparation of the forwarding finds it. -/
def atPreparation (s : System) (id : Id) (spec : Spec) : System :=
  let (s, c) := s.begin id spec
  ((s.goOn c .checking).system.goOn c .preparing).system

/-- The system with a tunnel more: an entry in the registry and a session that is about to run, both
with one number. -/
def withTunnel (s : System) (number : Nat) (id : Id) (spec : Spec) (forwarding : Forwarding)
    (startedAt : ClockTime) : System :=
  { s with
    registry := s.registry.insert ⟨id, spec, .starting, startedAt, number⟩
    sessions := s.sessions ++ [⟨number, id, spec, forwarding, .activating, false⟩] }

section Steps

variable {s : System} {c : Call} {w : Surroundings} {id : Id} {spec : Spec}
  {forwarding : Forwarding} {startedAt : ClockTime}

/-- A call that ends at once leaves the number after its own. -/
theorem withoutCall_begin (s : System) (id : Id) (spec : Spec) :
    (s.begin id spec).1.withoutCall s.next = { s.withoutCall s.next with next := s.next + 1 } := by
  simp [begin, withoutCall]

/-- Ending a call forgets the stage it was at. -/
theorem withoutCall_goOn (s : System) (c : Call) (stage : CallStage) :
    (s.goOn c stage).system.withoutCall c.number = s.withoutCall c.number := by
  have hcalls : (s.calls.map fun d => if d.number = c.number then { d with stage } else d).filter
      (·.number ≠ c.number) = s.calls.filter (·.number ≠ c.number) := by
    induction s.calls with
    | nil => rfl
    | cons d calls ih =>
      by_cases hd : d.number = c.number
      · simpa [hd] using ih
      · simpa [hd] using ih
  unfold withoutCall goOn
  simp only [hcalls]

/-! ## Steps in a row -/

theorem andThen_goOn {f : System → System × Except Fault Unit} (stage : CallStage) :
    Progress.andThen (s.goOn c stage) f = f (s.goOn c stage).system := rfl

theorem andThen_finish {f : System → System × Except Fault Unit} (result : Except Fault Unit) :
    Progress.andThen (s.finish c result) f = (s.withoutCall c.number, result) := rfl

theorem checked_of_contains (there : s.registry.contains c.id = true) :
    s.checked c = s.finish c (.error (.alreadyActive c.id)) :=
  if_pos there

theorem checked_of_free (free : s.registry.contains c.id = false) :
    s.checked c = s.goOn c .preparing :=
  if_neg (by simp [free])

theorem entered_of_contains (there : s.registry.contains c.id = true) :
    s.entered c forwarding startedAt = s.finish c (.error (.alreadyActive c.id)) :=
  if_pos there

theorem entered_of_free (free : s.registry.contains c.id = false) :
    s.entered c forwarding startedAt =
      { s with registry := s.registry.insert ⟨c.id, c.spec, .starting, startedAt, c.number⟩ }.goOn c
        (.launching forwarding) :=
  if_neg (by simp [free])

/-- The rest of a call after its forwarding has been prepared. -/
def afterPreparation (s : System) (c : Call) (w : Surroundings) (forwarding : Forwarding) :
    System × Except Fault Unit :=
  Progress.andThen (s.prepared c (.ok forwarding)) fun s =>
    Progress.andThen (s.entered c forwarding w.startedAt) fun s =>
      let p := s.launched c forwarding w.launch
      (p.system, p.result.getD (.ok ()))

theorem afterPreparation_of_contains (there : s.registry.contains c.id = true) :
    s.afterPreparation c w forwarding =
      (s.withoutCall c.number, .error (.alreadyActive c.id)) := by
  have hentering : (s.goOn c (.entering forwarding)).system.registry.contains c.id = true := there
  simp only [afterPreparation, prepared, andThen_goOn, entered_of_contains hentering,
    andThen_finish, withoutCall_goOn]

/-- What a call leaves that has changed the registry and ends. -/
theorem withoutCall_entered (registry : Registry) :
    ({ (s.goOn c (.entering forwarding)).system with registry }.goOn c
      (.launching forwarding)).system.withoutCall c.number =
        { s.withoutCall c.number with registry } := by
  rw [withoutCall_goOn, ← withoutCall_goOn s c (.entering forwarding)]
  rfl

theorem afterPreparation_of_free (free : s.registry.contains c.id = false) :
    s.afterPreparation c w forwarding =
      match w.launch with
      | some cause => (s.withoutCall c.number, .error (.system cause))
      | none => ((s.withTunnel c.number c.id c.spec forwarding w.startedAt).withoutCall c.number,
          .ok ()) := by
  have hentering : (s.goOn c (.entering forwarding)).system.registry.contains c.id = false := free
  let entry : Entry := ⟨c.id, c.spec, .starting, w.startedAt, c.number⟩
  have hentered := @withoutCall_entered s c forwarding (s.registry.insert entry)
  simp only [afterPreparation, prepared, andThen_goOn, entered_of_free hentering]
  cases w.launch with
  | some cause =>
    -- the entry is taken back under its id, which had none before
    have hundone : (s.registry.insert entry).remove c.id = s.registry :=
      Registry.remove_insert free
    have hleft := congrArg (fun s : System => { s with registry := s.registry.remove c.id })
      hentered
    dsimp only at hleft
    rw [hundone] at hleft
    exact Prod.ext hleft rfl
  | none =>
    let session : Session := ⟨c.number, c.id, c.spec, forwarding, .activating, false⟩
    have hleft := congrArg (fun s : System => { s with sessions := s.sessions ++ [session] })
      hentered
    exact Prod.ext hleft rfl

/-! ## A call up to its preparation -/

theorem start_of_probe {cause : String} (probe : w.probe = some cause) :
    s.start w id spec = ({ s.withoutCall s.next with next := s.next + 1 },
      .error (.portUnavailable spec.localText cause)) := by
  rw [← withoutCall_begin s id spec]
  unfold start
  simp only [probe, probed, andThen_finish]
  rfl

theorem start_of_contains (probe : w.probe = none) (there : s.registry.contains id = true) :
    s.start w id spec = ({ s.withoutCall s.next with next := s.next + 1 },
      .error (.alreadyActive id)) := by
  have hchecking : ((s.begin id spec).1.goOn (s.begin id spec).2 .checking).system.registry.contains
      (s.begin id spec).2.id = true := there
  have hleft := withoutCall_goOn (s.begin id spec).1 (s.begin id spec).2 .checking
  unfold start
  simp only [probe, probed, andThen_goOn, checked_of_contains hchecking, andThen_finish]
  exact Prod.ext (hleft.trans (withoutCall_begin s id spec)) rfl

theorem start_of_free (probe : w.probe = none) (free : s.registry.contains id = false) :
    s.start w id spec =
      match w.prepare (s.atPreparation id spec) with
      | (left, .error e) => (left.withoutCall s.next, .error e)
      | (left, .ok forwarding) => left.afterPreparation (s.begin id spec).2 w forwarding := by
  have hchecking : ((s.begin id spec).1.goOn (s.begin id spec).2 .checking).system.registry.contains
      (s.begin id spec).2.id = false := free
  have hprepare : w.prepare (((s.begin id spec).1.goOn (s.begin id spec).2 .checking).system.goOn
      (s.begin id spec).2 .preparing).system = w.prepare (s.atPreparation id spec) := rfl
  unfold start
  simp only [probe, probed, andThen_goOn, checked_of_free hchecking, hprepare]
  rcases w.prepare (s.atPreparation id spec) with ⟨left, e | forwarding⟩
  · rfl
  · rfl

end Steps

/-! ## The ways of a call -/

/-- The ways of a call to start a tunnel: what it leaves, and what it answers. From the third one on
the forwarding has been prepared, and `left` is the system after that. -/
inductive Starts (s : System) (w : Surroundings) (id : Id) (spec : Spec) :
    System → Except Fault Unit → Prop where
  | portUnavailable {cause : String} (probe : w.probe = some cause) :
      Starts s w id spec { s.withoutCall s.next with next := s.next + 1 }
        (.error (.portUnavailable spec.localText cause))
  | alreadyActive (probe : w.probe = none) (there : s.registry.contains id = true) :
      Starts s w id spec { s.withoutCall s.next with next := s.next + 1 }
        (.error (.alreadyActive id))
  | notPrepared {left : System} {e : Fault} (probe : w.probe = none)
      (free : s.registry.contains id = false)
      (prepared : w.prepare (s.atPreparation id spec) = (left, .error e)) :
      Starts s w id spec (left.withoutCall s.next) (.error e)
  | overtaken {left : System} {forwarding : Forwarding} (probe : w.probe = none)
      (free : s.registry.contains id = false)
      (prepared : w.prepare (s.atPreparation id spec) = (left, .ok forwarding))
      (there : left.registry.contains id = true) :
      Starts s w id spec (left.withoutCall s.next) (.error (.alreadyActive id))
  | notLaunched {left : System} {forwarding : Forwarding} {cause : String} (probe : w.probe = none)
      (free : s.registry.contains id = false)
      (prepared : w.prepare (s.atPreparation id spec) = (left, .ok forwarding))
      (still : left.registry.contains id = false) (launch : w.launch = some cause) :
      Starts s w id spec (left.withoutCall s.next) (.error (.system cause))
  | launched {left : System} {forwarding : Forwarding} (probe : w.probe = none)
      (free : s.registry.contains id = false)
      (prepared : w.prepare (s.atPreparation id spec) = (left, .ok forwarding))
      (still : left.registry.contains id = false) (launch : w.launch = none) :
      Starts s w id spec
        ((left.withTunnel s.next id spec forwarding w.startedAt).withoutCall s.next) (.ok ())

theorem starts_start (s : System) (w : Surroundings) (id : Id) (spec : Spec) :
    Starts s w id spec (s.start w id spec).1 (s.start w id spec).2 := by
  cases hprobe : w.probe with
  | some cause =>
    rw [start_of_probe hprobe]
    exact .portUnavailable hprobe
  | none =>
    cases hthere : s.registry.contains id with
    | true =>
      rw [start_of_contains hprobe hthere]
      exact .alreadyActive hprobe hthere
    | false =>
      rw [start_of_free hprobe hthere]
      rcases hprepared : w.prepare (s.atPreparation id spec) with ⟨left, e | forwarding⟩
      · exact .notPrepared hprobe hthere hprepared
      · dsimp only
        cases hstill : left.registry.contains id with
        | true =>
          rw [afterPreparation_of_contains hstill]
          exact .overtaken hprobe hthere hprepared hstill
        | false =>
          rw [afterPreparation_of_free hstill]
          cases hlaunch : w.launch with
          | some cause => exact .notLaunched hprobe hthere hprepared hstill hlaunch
          | none => exact .launched hprobe hthere hprepared hstill hlaunch

/-! ## Calls from within calls -/

/-- The second system comes from the first one by whole calls to start tunnels. The preparation in
such a call may itself start tunnels. -/
inductive Reentered : System → System → Prop where
  | none (s : System) : Reentered s s
  | start {s s' : System} (w : Surroundings) (id : Id) (spec : Spec) :
      Reentered s s' →
      Reentered (s'.atPreparation id spec) (w.prepare (s'.atPreparation id spec)).1 →
      Reentered s (s'.start w id spec).1

/-- The second system has some tunnels more, each with an entry and a session of its own; all that
was in the first one is in the second one as it was. -/
def Grown (s s' : System) : Prop :=
  ∃ entries sessions,
    s'.registry = { s.registry with entries := s.registry.entries ++ entries } ∧
      s'.sessions = s.sessions ++ sessions ∧ s'.events = s.events ∧
      entries.map (·.ticket) = sessions.map (·.ticket)

theorem Grown.trans {s s' s'' : System} (h : Grown s s') (h' : Grown s' s'') : Grown s s'' := by
  obtain ⟨entries, sessions, hregistry, hsessions, hevents, htickets⟩ := h
  obtain ⟨entries', sessions', hregistry', hsessions', hevents', htickets'⟩ := h'
  refine ⟨entries ++ entries', sessions ++ sessions', ?_, ?_, hevents'.trans hevents, ?_⟩
  · rw [hregistry', hregistry, ← List.append_assoc]
  · rw [hsessions', hsessions, List.append_assoc]
  · rw [List.map_append, List.map_append, htickets, htickets']

/-- Systems that differ in the calls under way only. -/
theorem grown_of_eq {s s' : System} (registry : s'.registry = s.registry)
    (sessions : s'.sessions = s.sessions) (events : s'.events = s.events) : Grown s s' :=
  ⟨[], [], by simp [registry], by simp [sessions], events, rfl⟩

theorem grown_atPreparation (s : System) (id : Id) (spec : Spec) :
    Grown s (s.atPreparation id spec) :=
  grown_of_eq rfl rfl rfl

theorem grown_withoutCall (s : System) (number : Nat) : Grown s (s.withoutCall number) :=
  grown_of_eq rfl rfl rfl

theorem grown_withTunnel (s : System) (number : Nat) (id : Id) (spec : Spec)
    (forwarding : Forwarding) (startedAt : ClockTime) :
    Grown s (s.withTunnel number id spec forwarding startedAt) :=
  ⟨[⟨id, spec, .starting, startedAt, number⟩],
    [⟨number, id, spec, forwarding, .activating, false⟩], rfl, rfl, rfl, rfl⟩

/-- A call adds what its preparation adds, and a tunnel at most. -/
theorem grown_of_starts {s s' : System} {w : Surroundings} {id : Id} {spec : Spec}
    {result : Except Fault Unit} (h : Starts s w id spec s' result)
    (hw : Grown (s.atPreparation id spec) (w.prepare (s.atPreparation id spec)).1) :
    Grown s s' := by
  have hprepare := (grown_atPreparation s id spec).trans hw
  cases h with
  | portUnavailable probe => exact grown_of_eq rfl rfl rfl
  | alreadyActive probe there => exact grown_of_eq rfl rfl rfl
  | notPrepared probe free prepared =>
    rw [prepared] at hprepare
    exact hprepare.trans (grown_withoutCall _ _)
  | overtaken probe free prepared there =>
    rw [prepared] at hprepare
    exact hprepare.trans (grown_withoutCall _ _)
  | notLaunched probe free prepared still launch =>
    rw [prepared] at hprepare
    exact hprepare.trans (grown_withoutCall _ _)
  | @launched left forwarding probe free prepared still launch =>
    rw [prepared] at hprepare
    have htunnel := grown_withTunnel left s.next id spec forwarding w.startedAt
    exact (hprepare.trans htunnel).trans (grown_withoutCall _ _)

/-- Calls only add tunnels, however deep one starts from within another. -/
theorem grown_of_reentered {s s' : System} (h : Reentered s s') : Grown s s' := by
  induction h with
  | none s => exact grown_of_eq rfl rfl rfl
  | @start s s' w id spec _ _ ih ihw =>
    -- `ih` is about the calls before, `ihw` about those from within the preparation
    have hcall := grown_of_starts (starts_start s' w id spec) ihw
    exact ih.trans hcall

/-! ## A tunnel or nothing -/

/-- What a call to start a tunnel promises: it leaves a tunnel, or nothing of its own. -/
structure AllOrNothing (s : System) (w : Surroundings) (id : Id) (spec : Spec) : Prop where
  /-- The preparation finds all as the call has found it, except for the calls under way. -/
  handed : ∃ calls, s.atPreparation id spec = { s with calls, next := s.next + 1 }
  /-- A call that fails before the preparation leaves all as it was, and prepares nothing: it comes
  to the same with any other preparation. -/
  unprepared : w.probe ≠ none ∨ s.registry.contains id = true →
    (∃ e, (s.start w id spec).2 = .error e) ∧
      (s.start w id spec).1 = { s.withoutCall s.next with next := s.next + 1 } ∧
      ∀ prepare, s.start { w with prepare } id spec = s.start w id spec
  /-- A call that fails later leaves all as the preparation has left it. -/
  failed {e : Fault} : w.probe = none → s.registry.contains id = false →
    (s.start w id spec).2 = .error e →
      (s.start w id spec).1 = (w.prepare (s.atPreparation id spec)).1.withoutCall s.next
  /-- The preparation may start tunnels; whatever becomes of the call, these are all that is added
  to what was there before, but for the tunnel of the call. -/
  grown : Reentered (s.atPreparation id spec) (w.prepare (s.atPreparation id spec)).1 →
    Grown s (w.prepare (s.atPreparation id spec)).1 ∧ Grown s (s.start w id spec).1
  /-- A call succeeds unless one of five things goes wrong. -/
  succeeds : (s.start w id spec).2 = .ok () ↔
    w.probe = none ∧ s.registry.contains id = false ∧ w.launch = none ∧
      ∃ left forwarding, w.prepare (s.atPreparation id spec) = (left, .ok forwarding) ∧
        left.registry.contains id = false
  /-- A call that succeeds adds one entry and one session to what the preparation has left, both for
  the tunnel it was asked for. -/
  started {left : System} {forwarding : Forwarding} : (s.start w id spec).2 = .ok () →
    w.prepare (s.atPreparation id spec) = (left, .ok forwarding) →
      (s.start w id spec).1 =
        (left.withTunnel s.next id spec forwarding w.startedAt).withoutCall s.next

section Promises

variable {s s' : System} {w : Surroundings} {id : Id} {spec : Spec}

theorem start_unprepared (h : w.probe ≠ none ∨ s.registry.contains id = true) :
    ∃ e, ∀ prepare, s.start { w with prepare } id spec =
      ({ s.withoutCall s.next with next := s.next + 1 }, .error e) := by
  cases hprobe : w.probe with
  | some cause =>
    exact ⟨_, fun prepare => start_of_probe rfl⟩
  | none =>
    have hthere : s.registry.contains id = true := h.resolve_left (by simp [hprobe])
    exact ⟨_, fun prepare => start_of_contains rfl hthere⟩

theorem Starts.failed {e : Fault} (h : Starts s w id spec s' (.error e)) (probe : w.probe = none)
    (free : s.registry.contains id = false) :
    s' = (w.prepare (s.atPreparation id spec)).1.withoutCall s.next := by
  cases h with
  | portUnavailable taken => simp [probe] at taken
  | alreadyActive _ there => simp [free] at there
  | notPrepared _ _ prepared => rw [prepared]
  | overtaken _ _ prepared => rw [prepared]
  | notLaunched _ _ prepared => rw [prepared]

theorem Starts.ok_iff {result : Except Fault Unit} (h : Starts s w id spec s' result) :
    result = .ok () ↔ w.probe = none ∧ s.registry.contains id = false ∧ w.launch = none ∧
      ∃ left forwarding, w.prepare (s.atPreparation id spec) = (left, .ok forwarding) ∧
        left.registry.contains id = false := by
  constructor
  · rintro rfl
    cases h with
    | launched probe free prepared still launch =>
      exact ⟨probe, free, launch, _, _, prepared, still⟩
  · rintro ⟨probe, free, launch, left, forwarding, prepared, still⟩
    cases h with
    | portUnavailable taken => simp [probe] at taken
    | alreadyActive _ there => simp [free] at there
    | notPrepared _ _ failed => simp [prepared] at failed
    | overtaken _ _ overtaken there =>
      obtain ⟨rfl, -⟩ := Prod.ext_iff.1 (prepared.symm.trans overtaken)
      simp [still] at there
    | notLaunched _ _ _ _ failed => simp [launch] at failed
    | launched => rfl

theorem Starts.started {left : System} {forwarding : Forwarding}
    (h : Starts s w id spec s' (.ok ()))
    (prepared : w.prepare (s.atPreparation id spec) = (left, .ok forwarding)) :
    s' = (left.withTunnel s.next id spec forwarding w.startedAt).withoutCall s.next := by
  cases h with
  | launched _ _ launched =>
    have hsame := prepared.symm.trans launched
    simp only [Prod.mk.injEq, Except.ok.injEq] at hsame
    obtain ⟨rfl, rfl⟩ := hsame
    rfl

end Promises

/-- A call to start a tunnel leaves a tunnel or nothing, whatever the preparation does. -/
theorem allOrNothing_start (s : System) (w : Surroundings) (id : Id) (spec : Spec) :
    AllOrNothing s w id spec := by
  have hstarts := starts_start s w id spec
  refine ⟨⟨_, rfl⟩, ?_, ?_, ?_, hstarts.ok_iff, ?_⟩
  · intro h
    obtain ⟨e, hstart⟩ := @start_unprepared s w id spec h
    have hself : s.start w id spec = _ := hstart w.prepare
    refine ⟨⟨e, ?_⟩, ?_, fun prepare => (hstart prepare).trans hself.symm⟩
    · rw [hself]
    · rw [hself]
  · intro e probe free hfailed
    rw [hfailed] at hstarts
    exact hstarts.failed probe free
  · intro h
    have hprepare := grown_of_reentered h
    exact ⟨(grown_atPreparation s id spec).trans hprepare, grown_of_starts hstarts hprepare⟩
  · intro left forwarding hok prepared
    rw [hok] at hstarts
    exact hstarts.started prepared

/-- The preparation starts the very tunnel that is being prepared, and overtakes the call. -/
example :
    let id : Id := ⟨"default/web", "app"⟩
    let spec : Spec := ⟨"127.0.0.1", 8080, 80⟩
    let w : Surroundings := { prepare := fun s => ((s.start {} id spec).1, .ok {}) }
    (start {} w id spec).2 = .error (.alreadyActive id) ∧
      (start {} w id spec).1.registry.entries = [⟨id, spec, .starting, default, 1⟩] := by
  decide

end System

end ResourceBrowser.Tunnel
