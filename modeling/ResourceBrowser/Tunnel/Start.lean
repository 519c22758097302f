import ResourceBrowser.Tunnel.System

/-!
# Starting and stopping tunnels

A whole call to start a tunnel, with nothing in between but what the preparation of the forwarding
itself does, and the run of the sessions up to where each of them waits.
-/

namespace ResourceBrowser.Tunnel

/-- What the surroundings decide while a tunnel starts. -/
structure Surroundings where
  /-- Why the local port cannot be used. -/
  probe : Option String := none
  /-- Prepares the forwarding; this may use the system itself. -/
  prepare : System → System × Except Fault Forwarding := fun s => (s, .ok {})
  /-- Why no session can be launched. -/
  launch : Option String := none
  startedAt : ClockTime := default

/-- Goes on with a call that has not ended. -/
def Progress.andThen (p : Progress) (f : System → System × Except Fault Unit) :
    System × Except Fault Unit :=
  match p.result with
  | some result => (p.system, result)
  | none => f p.system

namespace System

/-- Starts a tunnel. -/
def start (s : System) (w : Surroundings) (id : Id) (spec : Spec) : System × Except Fault Unit :=
  let (s, c) := s.begin id spec
  Progress.andThen (s.probed c w.probe) fun s =>
    Progress.andThen (s.checked c) fun s =>
      let (s, result) := w.prepare s
      match result with
      | .error e => ((s.prepared c (.error e)).system, .error e)
      | .ok forwarding =>
        Progress.andThen (s.prepared c (.ok forwarding)) fun s =>
          Progress.andThen (s.entered c forwarding w.startedAt) fun s =>
            let p := s.launched c forwarding w.launch
            (p.system, p.result.getD (.ok ()))

/-- Asks a tunnel to stop. -/
def stop (s : System) (id : Id) : System × Except Fault Unit :=
  match s.registry.stop id with
  | .ok registry => ({ s with registry }, .ok ())
  | .error e => (s, .error e)

/-- Asks every tunnel to stop. -/
def stopAll (s : System) : System := { s with registry := s.registry.stopAll }

/-- The peers of the sessions of a tunnel leave. -/
def leave (s : System) (id : Id) : System :=
  { s with sessions := s.sessions.map fun x => if x.id = id then { x with left := true } else x }

/-- Why a local port cannot be used: a running session keeps it. Port zero stands for any free
port. -/
def portTaken (s : System) (spec : Spec) : Option String :=
  if spec.localPort != 0 && s.sessions.any fun x =>
      x.forwarding.holdsPort && x.spec.address == spec.address &&
        x.spec.localPort == spec.localPort then
    some "Address already in use (os error 98)"
  else none

/-! ## Sessions -/

/-- True when the forwarding call of a session returns now. -/
def isOver (s : System) (x : Session) : Bool :=
  match x.forwarding.ending with
  | .atOnce => true
  | .whenStopped => s.registry.raised.contains x.number
  | .whenLeft => x.left

/-- The next step of a session that does not wait. -/
def proceed (s : System) (x : Session) : Option System :=
  match x.stage with
  | .running => if s.isOver x then s.returns x x.forwarding.failure else none
  | _ => s.advance x

/-- The number of steps in the life of a session. -/
def sessionSteps : Nat := 5

/-- Runs a session for at most so many steps. -/
def runSession (number : Nat) : Nat → System → System
  | 0, s => s
  | fuel + 1, s =>
    match (s.session? number).bind s.proceed with
    | some s => runSession number fuel s
    | none => s

/-- Runs every session up to where it waits. -/
def settle (s : System) : System :=
  s.sessions.foldl (fun s x => runSession x.number sessionSteps s) s

/-- Hands over the events so far. -/
def takeEvents (s : System) : System × List Event := ({ s with events := [] }, s.events)

end System

end ResourceBrowser.Tunnel
