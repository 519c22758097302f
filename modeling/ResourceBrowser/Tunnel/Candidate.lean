import ResourceBrowser.Tunnel.Basic

/-!
# Candidates for tunnels

The ports of a pod that a tunnel can lead to: the TCP ports that its containers declare.
-/

namespace ResourceBrowser.Tunnel

open Cluster

/-- A port that a tunnel can lead to. -/
structure Candidate where
  container : String
  portName : String
  port : UInt16
deriving DecidableEq, Repr

namespace Candidate

/-- The tunnel to the port that listens at the same port. -/
def spec (c : Candidate) (address : String) : Spec := ⟨address, c.port, c.port⟩

/-- The text of a candidate. -/
def text (c : Candidate) : String :=
  c.container ++ (if c.portName == "" then "" else "/" ++ c.portName) ++ ":" ++
    toString c.port.toNat

/-- The TCP ports that a container declares. -/
def ofContainer (c : Container) : List Candidate :=
  (c.ports.filter (·.protocol = .tcp)).map fun p => ⟨c.name, p.name, p.number⟩

end Candidate

/-- The TCP ports of the containers of a pod, in the order in which they are declared. -/
def candidates (path : String) (containers : List Container) : Except Fault (List Candidate) :=
  match containers.flatMap Candidate.ofContainer with
  | [] => .error (.noTcpPorts path)
  | found => .ok found

end ResourceBrowser.Tunnel
