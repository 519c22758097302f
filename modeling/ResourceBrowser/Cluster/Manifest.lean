import ResourceBrowser.Cluster.Resource
import ResourceBrowser.Json.Printer

/-!
# Manifests

Resources as JSON values, without their times. A port is a TCP port unless its manifest says
otherwise, and a container without ports has none.
-/

namespace ResourceBrowser.Cluster

/-! ## Containers -/

/-- The bound on port numbers. -/
def portBound : Nat := 65536

/-- Reads a port. -/
def Port.ofJson? (value : Json) : Option Port := do
  match ← value.record? ["name", "port", "protocol"] with
  | [name, some number, protocol] =>
    let protocol ← Json.optional .tcp (fun p => p.text?.bind Protocol.ofName?) protocol
    some ⟨← Json.optional "" Json.text? name, .ofNat (← number.natBelow? portBound), protocol⟩
  | _ => none

/-- Reads a container. -/
def Container.ofJson? (value : Json) : Option Container := do
  match ← value.record? ["name", "ports"] with
  | [some name, ports] =>
    some ⟨← name.text?, ← Json.optional [] (Json.list? Port.ofJson?) ports⟩
  | _ => none

/-- The value of a port. -/
def Port.toJson (p : Port) : Json :=
  .ofFields [("name", .ofText p.name), ("port", .ofNat p.number.toNat),
    ("protocol", .ofText p.protocol.name)]

/-- The value of a container. -/
def Container.toJson (c : Container) : Json :=
  .ofFields [("name", .ofText c.name), ("ports", .array (c.ports.map Port.toJson))]

/-! ## Pods and nodes -/

/-- The value of labels. -/
def labelsJson (labels : Labels) : Json := .ofKeyList .ofText labels

/-- The value of a reading. -/
def readingJson (reading : Option UInt64) : Json :=
  .ofOption (fun n => .ofNat n.toNat) reading

/-- The value of a pod. -/
def Pod.toJson (p : Pod) : Json :=
  .ofFields [
    ("namespace", .ofText p.ns),
    ("name", .ofText p.name),
    ("labels", labelsJson p.labels),
    ("phase", .ofText p.phase.name),
    ("ready", .ofNat p.ready.toNat),
    ("restarts", .ofNat p.restarts.toNat),
    ("ip", .ofOption .ofText p.ip),
    ("node", .ofOption .ofText p.node),
    ("containers", .array (p.containers.map Container.toJson)),
    ("cpu_milli", readingJson p.cpuMilli),
    ("mem_bytes", readingJson p.memoryBytes)]

/-- The value of a node. -/
def Node.toJson (n : Node) : Json :=
  .ofFields [
    ("name", .ofText n.name),
    ("labels", labelsJson n.labels),
    ("ready", .bool n.ready),
    ("roles", .ofTexts n.roles),
    ("version", .ofText n.version),
    ("cpu_milli", readingJson n.cpuMilli),
    ("mem_bytes", readingJson n.memoryBytes)]

/-- The value of a resource. -/
def Resource.toJson : Resource → Json
  | .pod p => p.toJson
  | .node n => n.toJson

end ResourceBrowser.Cluster
