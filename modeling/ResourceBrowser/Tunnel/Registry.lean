import ResourceBrowser.Tunnel.Basic

/-!
# The registry of tunnels

The registry holds the entries of the tunnels, at most one for an id. Every operation here is
carried out as a whole, while nobody else sees the registry. Each entry has a stop signal, known by
its number; raising it asks the forwarding call of the tunnel to return.
-/

namespace ResourceBrowser.Tunnel

/-- A time of day. -/
structure ClockTime where
  hours : Nat
  minutes : Nat
  seconds : Nat
deriving DecidableEq, Repr, Inhabited

/-- The entry of a tunnel. -/
structure Entry where
  id : Id
  spec : Spec
  state : State
  startedAt : ClockTime
  /-- The number of the stop signal. -/
  signal : Nat
deriving DecidableEq, Repr

/-- The entries of the tunnels, and the numbers of the stop signals that have been raised. -/
structure Registry where
  entries : List Entry := []
  raised : List Nat := []
deriving DecidableEq, Repr

namespace Registry

/-- The registry without tunnels. -/
def empty : Registry := {}

instance : Inhabited Registry := ⟨empty⟩

/-- The entry of a tunnel. -/
def find? (r : Registry) (id : Id) : Option Entry := r.entries.find? (·.id = id)

/-- True when there is a tunnel for an id. -/
def contains (r : Registry) (id : Id) : Bool := (r.find? id).isSome

/-- How far a tunnel is. -/
def state? (r : Registry) (id : Id) : Option State := (r.find? id).map (·.state)

/-- The number of tunnels. -/
def size (r : Registry) : Nat := r.entries.length

/-- The entries in order of their ids. -/
def list (r : Registry) : List Entry :=
  r.entries.mergeSort fun a b => (a.id.compare b.id).isLE

/-- The registry in words, for logs. -/
def describe (r : Registry) : String :=
  "TunnelRegistry \x7b tunnels: " ++ toString r.size ++ " \x7d"

/-- Adds the entry of a tunnel that starts. -/
def insert (r : Registry) (e : Entry) : Registry := { r with entries := r.entries ++ [e] }

/-- Removes the entry of a tunnel. -/
def remove (r : Registry) (id : Id) : Registry :=
  { r with entries := r.entries.filter (·.id ≠ id) }

/-- Changes the entries that satisfy `p`. -/
def update (r : Registry) (p : Entry → Bool) (f : Entry → Entry) : Registry :=
  { r with entries := r.entries.map fun e => if p e then f e else e }

/-- Marks a tunnel active, unless it has been asked to stop. -/
def activate (r : Registry) (id : Id) : Registry :=
  r.update (fun e => e.id = id && e.state = .starting) ({ · with state := .active })

/-- Asks the tunnels that satisfy `p` to stop. -/
def raise (r : Registry) (p : Entry → Bool) : Registry :=
  { r.update p ({ · with state := .stopping }) with
    raised := (r.entries.filter p).map (·.signal) ++ r.raised }

/-- Asks a tunnel to stop. -/
def stop (r : Registry) (id : Id) : Except Fault Registry :=
  if r.contains id then .ok (r.raise (·.id = id)) else .error (.notFound id)

/-- Asks every tunnel to stop. -/
def stopAll (r : Registry) : Registry := r.raise fun _ => true

end Registry

end ResourceBrowser.Tunnel
