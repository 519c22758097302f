import ResourceBrowser.Tunnel.Registry

/-!
# Running tunnels

Several clients start and stop tunnels while the sessions of the running ones go their own way. The
system is the registry together with the calls under way and the sessions, and every step below is
one that nobody can interrupt. A history of the system is any interleaving of such steps.

A call to start a tunnel probes the local port, looks for the id in the registry, prepares the
forwarding, enters the tunnel into the registry unless somebody else did meanwhile, and launches a
session. A session marks its tunnel active, reports that, forwards until the forwarding call
returns, removes the entry, and reports the end.
-/

namespace ResourceBrowser.Tunnel

/-! ## State -/

/-- When a forwarding call returns. -/
inductive Ending where
  | atOnce
  /-- When its stop signal is raised. -/
  | whenStopped
  /-- When its peer leaves. -/
  | whenLeft
deriving DecidableEq, Repr

/-- What a forwarding call does. -/
structure Forwarding where
  ending : Ending := .whenStopped
  /-- What it fails with, if it does not end well. -/
  failure : Option Fault := none
  /-- It keeps the local port while it runs. -/
  holdsPort : Bool := true
deriving DecidableEq, Repr

/-- How far a call to start a tunnel is. -/
inductive CallStage where
  | probing
  | checking
  | preparing
  | entering (forwarding : Forwarding)
  | launching (forwarding : Forwarding)
deriving DecidableEq, Repr

/-- A call to start a tunnel. Its number is that of the stop signal of the tunnel. -/
structure Call where
  number : Nat
  id : Id
  spec : Spec
  stage : CallStage
deriving DecidableEq, Repr

/-- How far a session is. -/
inductive SessionStage where
  | activating
  | announcing
  | running
  | removing (failure : Option Fault)
  | reporting (failure : Option Fault)
deriving DecidableEq, Repr

/-- The session of a tunnel, with the number of the call that launched it. -/
structure Session where
  number : Nat
  id : Id
  spec : Spec
  forwarding : Forwarding
  stage : SessionStage
  /-- The peer has left. -/
  left : Bool := false
deriving DecidableEq, Repr

/-- The registry with the calls and sessions under way, and the events so far. -/
structure System where
  registry : Registry := .empty
  calls : List Call := []
  sessions : List Session := []
  events : List Event := []
  /-- The number of the next call. -/
  next : Nat := 0
deriving DecidableEq, Repr

instance : Inhabited System := ⟨{}⟩

/-- What a step of a call comes to: the call goes on, or ends with a result. -/
structure Progress where
  system : System
  result : Option (Except Fault Unit) := none

namespace System

/-! ## Steps of a call -/

/-- A client begins a call. -/
def begin (s : System) (id : Id) (spec : Spec) : System × Call :=
  let call : Call := ⟨s.next, id, spec, .probing⟩
  ({ s with calls := s.calls ++ [call], next := s.next + 1 }, call)

/-- Moves a call to another stage. -/
def goOn (s : System) (c : Call) (stage : CallStage) : Progress :=
  { system := { s with calls := s.calls.map fun d =>
      if d.number = c.number then { d with stage } else d } }

/-- Ends a call. -/
def finish (s : System) (c : Call) (result : Except Fault Unit) : Progress :=
  { system := { s with calls := s.calls.filter (·.number ≠ c.number) }, result := some result }

/-- The local port has been probed; `cause` tells why it cannot be used. -/
def probed (s : System) (c : Call) (cause : Option String) : Progress :=
  match cause with
  | some cause => s.finish c (.error (.portUnavailable c.spec.localText cause))
  | none => s.goOn c .checking

/-- Looks for the id in the registry. -/
def checked (s : System) (c : Call) : Progress :=
  if s.registry.contains c.id then s.finish c (.error (.alreadyActive c.id))
  else s.goOn c .preparing

/-- The forwarding has been prepared. -/
def prepared (s : System) (c : Call) (result : Except Fault Forwarding) : Progress :=
  match result with
  | .error e => s.finish c (.error e)
  | .ok forwarding => s.goOn c (.entering forwarding)

/-- Enters the tunnel into the registry, unless there is one for the id by now. -/
def entered (s : System) (c : Call) (forwarding : Forwarding) (startedAt : ClockTime) :
    Progress :=
  if s.registry.contains c.id then s.finish c (.error (.alreadyActive c.id))
  else
    let entry : Entry := ⟨c.id, c.spec, .starting, startedAt, c.number⟩
    { s with registry := s.registry.insert entry }.goOn c (.launching forwarding)

/-- Launches the session; `cause` tells why it cannot be launched, and the entry is taken back. -/
def launched (s : System) (c : Call) (forwarding : Forwarding) (cause : Option String) : Progress :=
  match cause with
  | some cause =>
    { s with registry := s.registry.remove c.id }.finish c (.error (.system cause))
  | none =>
    let session : Session := ⟨c.number, c.id, c.spec, forwarding, .activating, false⟩
    { s with sessions := s.sessions ++ [session] }.finish c (.ok ())

/-! ## Steps of a session -/

/-- The session with a number. -/
def session? (s : System) (number : Nat) : Option Session :=
  s.sessions.find? (·.number = number)

/-- Moves a session to another stage. -/
def moveSession (s : System) (x : Session) (stage : SessionStage) : System :=
  { s with sessions := s.sessions.map fun y =>
      if y.number = x.number then { y with stage } else y }

/-- The event at the end of a session. -/
def endEvent (id : Id) : Option Fault → Event
  | none => .stopped id
  | some e => .failed id e.message

/-- The next step of a session; none while its forwarding call runs. -/
def advance (s : System) (x : Session) : Option System :=
  match x.stage with
  | .activating =>
    some ({ s with registry := s.registry.activate x.id }.moveSession x .announcing)
  | .announcing =>
    some ({ s with events := s.events ++ [Event.activated x.id x.spec] }.moveSession x .running)
  | .running => none
  | .removing failure =>
    some ({ s with registry := s.registry.remove x.id }.moveSession x (.reporting failure))
  | .reporting failure =>
    some { s with
      events := s.events ++ [endEvent x.id failure]
      sessions := s.sessions.filter (·.number ≠ x.number) }

/-- The forwarding call of a session returns. -/
def returns (s : System) (x : Session) (failure : Option Fault) : Option System :=
  if x.stage = .running then some (s.moveSession x (.removing failure)) else none

/-! ## Histories -/

/-- A step of the system. What the surroundings decide is part of the step. -/
inductive Step where
  | begin (id : Id) (spec : Spec)
  | probed (call : Nat) (cause : Option String)
  | checked (call : Nat)
  | prepared (call : Nat) (result : Except Fault Forwarding)
  | entered (call : Nat) (startedAt : ClockTime)
  | launched (call : Nat) (cause : Option String)
  | advance (session : Nat)
  | returns (session : Nat) (failure : Option Fault)
  | stop (id : Id)
  | stopAll

/-- The call with a number. -/
def call? (s : System) (number : Nat) : Option Call := s.calls.find? (·.number = number)

/-- Takes a step; none when the step cannot be taken now. -/
def step? (s : System) : Step → Option Progress
  | .begin id spec => some { system := (s.begin id spec).1 }
  | .probed n cause => do
    let c ← s.call? n
    if c.stage = .probing then some (s.probed c cause) else none
  | .checked n => do
    let c ← s.call? n
    if c.stage = .checking then some (s.checked c) else none
  | .prepared n result => do
    let c ← s.call? n
    if c.stage = .preparing then some (s.prepared c result) else none
  | .entered n startedAt => do
    let c ← s.call? n
    match c.stage with
    | .entering forwarding => some (s.entered c forwarding startedAt)
    | _ => none
  | .launched n cause => do
    let c ← s.call? n
    match c.stage with
    | .launching forwarding => some (s.launched c forwarding cause)
    | _ => none
  | .advance n => do
    let x ← s.session? n
    (s.advance x).map fun system => { system }
  | .returns n failure => do
    let x ← s.session? n
    (s.returns x failure).map fun system => { system }
  | .stop id => (s.registry.stop id).toOption.map fun registry => { system := { s with registry } }
  | .stopAll => some { system := { s with registry := s.registry.stopAll } }

/-- The systems that histories lead to. -/
inductive Reachable : System → Prop where
  | start : Reachable {}
  | step {s : System} {p : Progress} (label : Step) :
      Reachable s → s.step? label = some p → Reachable p.system

end System

end ResourceBrowser.Tunnel
