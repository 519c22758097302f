import ResourceBrowser.Cluster.Resource
import ResourceBrowser.Number.Age
import ResourceBrowser.Table.Grid

/-!
# Listings

How resources are listed: the columns of each kind, the row of a resource, and the color of a row.
-/

namespace ResourceBrowser.Cluster

open Table Number

/-! ## Fields -/

/-- The text of a processor reading. -/
def cpuText (milli : Option UInt64) : String :=
  (milli.map fun m => toString m.toNat ++ "m").getD ""

/-- The text of a memory reading, in whole mebibytes. -/
def memoryText (bytes : Option UInt64) : String :=
  (bytes.map fun b => toString (b.toNat / (1024 * 1024)) ++ "Mi").getD ""

namespace Pod

/-- The number of containers as it is compared with ready counts. -/
def containerCount (p : Pod) : UInt32 := .ofNat p.containers.length

/-- The status that the listing shows. -/
def status (p : Pod) : String :=
  match p.phase with
  | .pending => if p.node.isSome then "ContainerCreating" else "Pending"
  | .running => "Running"
  | .succeeded => "Completed"
  | .failed => "Error"

/-- Why the pod is unhealthy; empty if it is not. -/
def diagnosis (p : Pod) : String :=
  match p.phase with
  | .failed => "pod failed"
  | .running =>
    if p.ready < p.containerCount then
      "container ready check failed: " ++ toString p.ready.toNat ++ " of " ++
        toString p.containerCount.toNat
    else ""
  | _ => ""

/-- The row of a pod at a time. -/
def row (p : Pod) (now : Int) : Row where
  id := p.path
  fields := [
    p.ns,
    p.name,
    toString p.ready.toNat ++ "/" ++ toString p.containers.length,
    toString p.restarts.toNat,
    p.status,
    cpuText p.cpuMilli,
    memoryText p.memoryBytes,
    p.ip.getD "",
    p.node.getD "",
    p.diagnosis,
    ageText p.created now]

end Pod

/-- The row of a node at a time. -/
def Node.row (n : Node) (now : Int) : Row where
  id := n.name
  fields := [
    n.name,
    if n.ready then "Ready" else "NotReady",
    if n.roles.isEmpty then "<none>" else ",".intercalate n.roles,
    n.version,
    cpuText n.cpuMilli,
    memoryText n.memoryBytes,
    ",".intercalate (n.labels.map fun (key, value) => key ++ "=" ++ value),
    if n.ready then "" else "node not ready",
    ageText n.created now]

/-! ## Columns -/

/-- Name of the status column. -/
def statusColumn : String := "STATUS"

def podHeader : Header := [
  { name := namespaceColumn },
  { name := nameColumn },
  { name := "READY" },
  { name := "RESTARTS", align := .right },
  { name := statusColumn },
  { name := "CPU", align := .right, metric := true },
  { name := "MEM", align := .right, metric := true },
  { name := "IP", wide := true },
  { name := "NODE", wide := true },
  { name := validColumn, wide := true },
  { name := ageColumn, time := true }]

def nodeHeader : Header := [
  { name := nameColumn },
  { name := statusColumn },
  { name := "ROLES" },
  { name := "VERSION" },
  { name := "CPU", align := .right, metric := true },
  { name := "MEM", align := .right, metric := true },
  { name := "LABELS", wide := true },
  { name := validColumn, wide := true },
  { name := ageColumn, time := true }]

/-! ## Colors -/

/-- Colors pods: the unhealthy ones first, then by status, then by what changed. -/
def podColor : Colorer := fun ns header e =>
  let field (index : Option Nat) : Option String := index.bind fun i => e.row.fields[i]?
  if (field header.validIndex?).any (· != "") then .error
  else match field (header.indexOf? statusColumn true) with
    | some "Completed" => .completed
    | some "Pending" => .pending
    | some "ContainerCreating" => .pending
    | some "Error" => .error
    | _ => colorByChange ns header e

namespace Kind

/-- The columns of a kind. -/
def header : Kind → Header
  | .pods => podHeader
  | .nodes => nodeHeader

/-- How the rows of a kind are colored. -/
def colorer : Kind → Colorer
  | .pods => podColor
  | .nodes => colorByChange

/-- The row of a resource in the listing of a kind. -/
def row (kind : Kind) (r : Resource) (now : Int) : Except SourceError Row :=
  match kind, r with
  | .pods, .pod p => .ok (p.row now)
  | .nodes, .node n => .ok (n.row now)
  | expected, got => .error (.unexpectedKind expected got.kind)

end Kind

end ResourceBrowser.Cluster
