import ResourceBrowser.Cluster.Listing
import ResourceBrowser.Cluster.Selector
import ResourceBrowser.Number.Word

/-!
# Simulated clusters

A cluster that lives in memory and changes by fixed rules: readings wobble, one workload restarts
and another one flaps, and backup jobs come and go. It lists the resources of one kind and scope,
and tells for every row what changed since the listing before. Counters are machine words, and a step
that would overflow one fails.
-/

namespace ResourceBrowser

open Number Table

namespace Cluster

/-! ## Simulation -/

/-- What the names of backup jobs start with. -/
def backupStem : String := "backup-"

/-- True for the pods of backup jobs. -/
def Pod.isBackup (p : Pod) : Bool := backupStem.toList.isPrefixOf p.name.toList

/-- Changes the first item that satisfies `p`, if that can be done. -/
def modifyFirst? (p : α → Bool) (f : α → Option α) : List α → Option (List α)
  | [] => some []
  | a :: as =>
    if p a then (f a).map fun b => b :: as else (modifyFirst? p f as).map fun bs => a :: bs

/-- Drops the first `n` items that satisfy `p`. -/
def dropFirst (p : α → Bool) : Nat → List α → List α
  | 0, as => as
  | _, [] => []
  | n + 1, a :: as => if p a then dropFirst p n as else a :: dropFirst p (n + 1) as

/-- The processor reading of the pod at a position after a step. -/
def wobble? (step : UInt64) (position : Nat) (cpu : UInt64) : Option UInt64 := do
  let a ← product64? step 37
  let b ← product64? (.ofNat position) 11
  let turn ← sum64? a b
  let tens ← product64? (cpu / 10) 10
  sum64? tens (turn % 40)

def Pod.wobbled? (step : UInt64) (position : Nat) (p : Pod) : Option Pod :=
  match p.cpuMilli with
  | none => some p
  | some cpu => (wobble? step position cpu).map fun cpu => { p with cpuMilli := some cpu }

def Pod.restarted? (p : Pod) : Option Pod :=
  (sum32? p.restarts 1).map fun restarts => { p with restarts }

/-- In every fourth step one container is not ready. -/
def Pod.flapped? (step : UInt64) (p : Pod) : Option Pod :=
  (if step % 4 = 2 then difference32? p.containerCount 1 else some p.containerCount).map
    fun ready => { p with ready }

/-- A backup job goes from pending to running to succeeded. -/
def Pod.progress? (step : UInt64) (p : Pod) : Option Pod :=
  match p.phase with
  | .pending => (sum64? 100 (step % 100)).map fun last =>
    { p with phase := .running, ready := 1, ip := some ("10.244.1." ++ toString last.toNat) }
  | .running => some { p with phase := .succeeded, ready := 0 }
  | _ => some p

/-- A backup job that starts at a step. -/
def backupPod (step : UInt64) (now : Int) : Pod :=
  let name := backupStem ++ toString step.toNat
  { ns := "default"
    name
    labels := .ofPairs [("job-name", "backup")]
    phase := .pending
    ready := 0
    restarts := 0
    ip := some ("10.244.0." ++ toString (name.utf8ByteSize * 7 % 250))
    node := some "worker-2"
    containers := [⟨"backup", []⟩]
    cpuMilli := none
    memoryBytes := none
    created := some now }

/-- Adds a backup job, and keeps only the latest two. -/
def addBackup (step : UInt64) (now : Int) (pods : List Pod) : List Pod :=
  let pods := pods ++ [backupPod step now]
  dropFirst Pod.isBackup (pods.countP Pod.isBackup - 2) pods

/-- True for the pods of the workload that flaps. -/
def Pod.isApi (p : Pod) : Bool := "api-".toList.isPrefixOf p.name.toList

def wobblePods? (metrics : Bool) (step : UInt64) (pods : List Pod) : Option (List Pod) :=
  if metrics then pods.zipIdx.mapM fun (p, i) => p.wobbled? step i else some pods

def restartPods? (step : UInt64) (pods : List Pod) : Option (List Pod) :=
  if step % 3 = 0 then modifyFirst? (·.name == "redis-0") Pod.restarted? pods else some pods

def flapPods? (step : UInt64) (pods : List Pod) : Option (List Pod) :=
  modifyFirst? Pod.isApi (Pod.flapped? step) pods

def progressPods? (step : UInt64) (pods : List Pod) : Option (List Pod) :=
  pods.mapM fun p => if p.isBackup then p.progress? step else some p

/-- The pods after a step, unless a counter overflows. -/
def stepPods? (metrics : Bool) (step : UInt64) (now : Int) (pods : List Pod) :
    Option (List Pod) := do
  let pods ← wobblePods? metrics step pods
  let pods ← restartPods? step pods
  let pods ← flapPods? step pods
  let pods ← progressPods? step pods
  some (if step % 5 = 0 then addBackup step now pods else pods)

end Cluster

/-! ## State -/

/-- A simulated cluster, and the listing that it is asked for. -/
structure Cluster where
  pods : List Cluster.Pod
  nodes : List Cluster.Node
  kind : Cluster.Kind := .pods
  /-- The namespace asked for, or the label of all of them. -/
  namespaceName : String := Scope.all
  selector : Cluster.Selector := .empty
  metrics : Bool := true
  /-- The simulation goes on with every listing. -/
  churn : Bool := false
  step : UInt64 := 0
  /-- The rows of the last listing, which changes are told against. -/
  previous : List Row := []
  latest : Snapshot := .empty

namespace Cluster

/-- Turns readings on or off; without readings the resources have none. -/
def withMetrics (c : Cluster) (metrics : Bool) : Cluster :=
  if metrics then { c with metrics }
  else { c with
    metrics
    pods := c.pods.map fun p => { p with cpuMilli := none, memoryBytes := none }
    nodes := c.nodes.map fun n => { n with cpuMilli := none, memoryBytes := none } }

/-- Lets the simulation go on with every listing, or not. -/
def withChurn (c : Cluster) (churn : Bool) : Cluster := { c with churn }

/-- Moves the simulation one step forward, unless a counter overflows. -/
def advance? (c : Cluster) (now : Int) : Option Cluster := do
  let step ← sum64? c.step 1
  let pods ← stepPods? c.metrics step now c.pods
  some { c with step, pods }

/-! ## Listings -/

/-- The scope of the listing. -/
def ns (c : Cluster) : String := if c.kind.isClusterScoped then Scope.cluster else c.namespaceName

/-- True when resources of every namespace are listed. -/
def clusterWide (c : Cluster) : Bool := Scope.isAll c.ns

/-- The resources that the listing holds. -/
def resources (c : Cluster) : List Resource :=
  match c.kind with
  | .nodes => (c.nodes.filter fun n => c.selector.accepts n.labels).map .node
  | .pods =>
    let here := c.pods.filter fun p => Scope.isAll c.namespaceName || p.ns == c.namespaceName
    (here.filter fun p => c.selector.accepts p.labels).map .pod

/-- The row with an id in the last listing. -/
def previousRow? (c : Cluster) (id : String) : Option Row :=
  c.previous.reverse.find? (·.id == id)

/-- The rows of the listing at a time. -/
def rows (c : Cluster) (now : Int) : List Row :=
  c.resources.filterMap fun r => (c.kind.row r now).toOption

/-- The listing at a time. -/
def snapshot (c : Cluster) (now : Int) : Snapshot :=
  let header := c.kind.header
  ⟨header, (c.rows now).map fun row => RowEvent.diff header (c.previousRow? row.id) row, c.ns⟩

/-- Keeps the listing at a time, which the next one is told against. -/
def record (c : Cluster) (now : Int) : Cluster × Snapshot :=
  ({ c with previous := c.rows now, latest := c.snapshot now }, c.snapshot now)

/-- The cluster that is listed next, which the simulation may have moved forward. -/
def tick? (c : Cluster) (now : Int) : Option Cluster := if c.churn then c.advance? now else some c

/-- Makes a new listing. -/
def refresh? (c : Cluster) (now : Int) : Option (Cluster × Snapshot) :=
  (c.tick? now).map (·.record now)

/-! ## What is listed -/

/-- Asks for another kind. The selector belongs to the kind and goes with it. -/
def setKind (c : Cluster) (kind : String) : Except SourceError Cluster :=
  match Kind.ofAlias? kind with
  | none => .error (.unknownKind kind)
  | some kind =>
    if kind = c.kind then .ok c
    else .ok { c with kind, selector := .empty, previous := [], latest := .empty }

/-- Asks for another namespace. -/
def setNamespace (c : Cluster) (ns : String) : Cluster :=
  let ns := if Scope.isAll ns then Scope.all else ns
  if ns == c.namespaceName then c else { c with namespaceName := ns, previous := [] }

/-- Asks for the resources that meet a selector, or for all of them. -/
def setSelector (c : Cluster) (selector : Option String) : Except SourceError Cluster :=
  match selector with
  | none => .ok { c with selector := .empty }
  | some text => (Selector.read text).map fun selector => { c with selector }

/-- Reads a selector that may be absent. -/
def readSelector (selector : Option String) : Except SourceError Selector :=
  match selector with
  | none => .ok .empty
  | some text => Selector.read text

/-- The resource of a kind at a path, whether it is listed or not. -/
def find? (c : Cluster) (kind : Kind) (path : String) : Option Resource :=
  match kind with
  | .pods =>
    let (ns, name) := Scope.split path
    (c.pods.find? fun p => p.ns == ns && p.name == name).map .pod
  | .nodes => (c.nodes.find? fun n => n.name == path).map .node

/-- Looks up a resource that meets a selector. -/
def get (c : Cluster) (kind path : String) (selector : Option String) :
    Except SourceError Resource := do
  match Kind.ofAlias? kind with
  | none => .error (.unknownKind kind)
  | some kind =>
    let selector ← readSelector selector
    match (c.find? kind path).filter fun r => selector.accepts r.labels with
    | some r => .ok r
    | none => .error (.notFound kind.name path)

end Cluster

end ResourceBrowser
