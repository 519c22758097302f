import ResourceBrowser.Cluster.Resource

/-!
# Tunnels

A tunnel forwards connections to a local port to a container. It is identified by the path of the
pod and the name of the container, so there is at most one for each container.
-/

namespace ResourceBrowser.Tunnel

/-- What a tunnel belongs to. -/
structure Id where
  path : String
  container : String
deriving DecidableEq, Repr, Inhabited

/-- Where a tunnel listens, and where it leads. -/
structure Spec where
  address : String
  localPort : UInt16
  remotePort : UInt16
deriving DecidableEq, Repr

/-- How far a tunnel is. -/
inductive State where
  | starting
  | active
  /-- Asked to stop; the forwarding call has not returned yet. -/
  | stopping
deriving DecidableEq, Repr

/-- Why a tunnel could not be started, stopped or kept. -/
inductive Fault where
  | portUnavailable (address cause : String)
  | alreadyActive (id : Id)
  | notFound (id : Id)
  | noTcpPorts (path : String)
  | notStarted (cause : String)
  | broken (cause : String)
  | system (cause : String)
deriving DecidableEq, Repr

/-- What happened to a tunnel. -/
inductive Event where
  | activated (id : Id) (spec : Spec)
  /-- The forwarding call returned. -/
  | stopped (id : Id)
  | failed (id : Id) (message : String)
deriving DecidableEq, Repr

namespace Id

/-- The text of an id. -/
def text (id : Id) : String := id.path ++ ":" ++ id.container

/-- The order of ids: by path, then by container. -/
def compare (a b : Id) : Ordering :=
  (compareOfLessAndEq a.path b.path).then (compareOfLessAndEq a.container b.container)

end Id

namespace Spec

/-- The local address with its port. -/
def localText (s : Spec) : String := s.address ++ ":" ++ toString s.localPort.toNat

/-- The text of a tunnel's ends. -/
def text (s : Spec) : String := s.localText ++ "->" ++ toString s.remotePort.toNat

end Spec

namespace State

/-- The name of a state. -/
def text : State → String
  | .starting => "Starting"
  | .active => "Active"
  | .stopping => "Stopping"

end State

namespace Fault

/-- The text shown for a fault. -/
def message : Fault → String
  | .portUnavailable address cause => "port " ++ address ++ " is unavailable: " ++ cause
  | .alreadyActive id => "a port-forward is already active on " ++ id.text
  | .notFound id => "no tunnel found for " ++ id.text
  | .noTcpPorts path => "no tcp ports found on " ++ path
  | .notStarted cause => "port-forward failed to start: " ++ cause
  | .broken cause => "port-forward failed: " ++ cause
  | .system cause => cause

/-- The name of the kind of a fault. -/
def name : Fault → String
  | .portUnavailable _ _ => "PortUnavailable"
  | .alreadyActive _ => "AlreadyActive"
  | .notFound _ => "TunnelNotFound"
  | .noTcpPorts _ => "NoTcpPorts"
  | .notStarted _ => "Start"
  | .broken _ => "Forward"
  | .system _ => "Io"

end Fault

/-- The tunnel that an event is about. -/
def Event.id : Event → Id
  | .activated id _ => id
  | .stopped id => id
  | .failed id _ => id

end ResourceBrowser.Tunnel
