import ResourceBrowser.KeyList
import ResourceBrowser.Scope
import ResourceBrowser.Text.Quoted

/-!
# Resources

The pods and nodes of a cluster. Counters have the widths of the machine words that they are kept
in, and times are in nanoseconds since 1970.
-/

namespace ResourceBrowser.Cluster

open Text

/-! ## Kinds -/

/-- The kinds of resources. -/
inductive Kind where
  | pods
  | nodes
deriving DecidableEq, Repr, Inhabited

namespace Kind

/-- The name of a kind. -/
def name : Kind → String
  | .pods => "pods"
  | .nodes => "nodes"

/-- The kind with a name. -/
def ofName? (name : String) : Option Kind :=
  if name == "pods" then some .pods else if name == "nodes" then some .nodes else none

/-- The kind that a user means, by its name or a shorter one in any letter case. -/
def ofAlias? (text : String) : Option Kind :=
  let text := asciiLower (trim text)
  if ["po", "pod", "pods"].contains text then some .pods
  else if ["no", "node", "nodes"].contains text then some .nodes
  else none

/-- True for the kinds that have no namespace. -/
def isClusterScoped : Kind → Bool
  | .pods => false
  | .nodes => true

end Kind

/-! ## Containers -/

/-- The transport protocol of a port. -/
inductive Protocol where
  | tcp
  | udp
  | sctp
deriving DecidableEq, Repr, Inhabited

/-- The name of a protocol. -/
def Protocol.name : Protocol → String
  | .tcp => "TCP"
  | .udp => "UDP"
  | .sctp => "SCTP"

/-- The protocol with a name. -/
def Protocol.ofName? (name : String) : Option Protocol :=
  [Protocol.tcp, .udp, .sctp].find? (·.name == name)

/-- A port that a container declares. -/
structure Port where
  name : String
  number : UInt16
  protocol : Protocol
deriving DecidableEq, Repr

/-- A container of a pod. -/
structure Container where
  name : String
  ports : List Port
deriving DecidableEq, Repr

/-! ## Pods and nodes -/

/-- Labels in order of their keys. -/
abbrev Labels := KeyList String

/-- The stage of a pod's life. -/
inductive Phase where
  | pending
  | running
  | succeeded
  | failed
deriving DecidableEq, Repr, Inhabited

/-- The name of a stage. -/
def Phase.name : Phase → String
  | .pending => "Pending"
  | .running => "Running"
  | .succeeded => "Succeeded"
  | .failed => "Failed"

/-- The stage with a name. -/
def Phase.ofName? (name : String) : Option Phase :=
  [Phase.pending, .running, .succeeded, .failed].find? (·.name == name)

structure Pod where
  ns : String
  name : String
  labels : Labels
  phase : Phase
  /-- How many containers are ready. -/
  ready : UInt32
  restarts : UInt32
  ip : Option String
  node : Option String
  containers : List Container
  /-- Processor use in thousandths. -/
  cpuMilli : Option UInt64
  memoryBytes : Option UInt64
  created : Option Int
deriving DecidableEq, Repr

structure Node where
  name : String
  labels : Labels
  ready : Bool
  roles : List String
  version : String
  cpuMilli : Option UInt64
  memoryBytes : Option UInt64
  created : Option Int
deriving DecidableEq, Repr

/-- The path of a pod. -/
def Pod.path (p : Pod) : String := Scope.path p.ns p.name

/-- Anything that a cluster holds. -/
inductive Resource where
  | pod (p : Pod)
  | node (n : Node)
deriving DecidableEq, Repr

namespace Resource

def kind : Resource → Kind
  | .pod _ => .pods
  | .node _ => .nodes

/-- The path that identifies the resource within its kind. -/
def path : Resource → String
  | .pod p => p.path
  | .node n => n.name

def ns : Resource → String
  | .pod p => p.ns
  | .node _ => Scope.cluster

def labels : Resource → Labels
  | .pod p => p.labels
  | .node n => n.labels

end Resource

/-! ## Errors -/

/-- Why a cluster did not answer. -/
inductive SourceError where
  | unknownKind (kind : String)
  | notFound (kind path : String)
  | invalidSelector (text : String)
  /-- A resource of another kind than the listing is for. -/
  | unexpectedKind (expected got : Kind)
deriving DecidableEq, Repr

/-- The name of the kind of an error. -/
def SourceError.name : SourceError → String
  | .unknownKind _ => "UnknownKind"
  | .notFound _ _ => "NotFound"
  | .invalidSelector _ => "InvalidSelector"
  | .unexpectedKind _ _ => "Render"

/-- The text shown for an error. -/
def SourceError.message : SourceError → String
  | .unknownKind kind => "unknown resource kind " ++ quote kind
  | .notFound kind path => kind ++ " " ++ quote path ++ " not found"
  | .invalidSelector text => "invalid label selector " ++ quote text
  | .unexpectedKind expected got => "expecting " ++ expected.name ++ " but got " ++ got.name

end ResourceBrowser.Cluster
