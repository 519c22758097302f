import ResourceBrowser.Cluster.Simulation

/-!
# Requests to a simulated cluster

What a cluster can be asked for, as data, so that a history of a cluster is a list of requests, and
what each one answers.
-/

namespace ResourceBrowser.Cluster

open Table

/-- A request to a cluster. What depends on the time comes with the time. -/
inductive Request where
  | setKind (kind : String)
  | setNamespace (ns : String)
  | setSelector (selector : Option String)
  | advance (now : Int)
  | refresh (now : Int)
  | peek
  | get (kind path : String) (selector : Option String)
deriving DecidableEq, Repr

/-- What a request answers. -/
inductive Answer where
  | done
  | refused (e : SourceError)
  /-- A new listing. -/
  | listed (s : Snapshot)
  /-- The latest listing, as it was. -/
  | latest (s : Snapshot)
  | found (r : Resource)

/-- The new listing that came with an answer. -/
def Answer.listing? : Answer → Option Snapshot
  | .listed s => some s
  | _ => none

/-- The answer about a resource that was looked up. -/
def Answer.ofLookup : Except SourceError Resource → Answer
  | .ok r => .found r
  | .error e => .refused e

/-- Goes on with another state of the cluster, unless the request was refused. -/
def settle (c : Cluster) : Except SourceError Cluster → Cluster × Answer
  | .ok next => (next, .done)
  | .error e => (c, .refused e)

/-- Answers a request. -/
def serve? (c : Cluster) : Request → Option (Cluster × Answer)
  | .setKind kind => some (c.settle (c.setKind kind))
  | .setNamespace ns => some (c.setNamespace ns, .done)
  | .setSelector selector => some (c.settle (c.setSelector selector))
  | .advance now => (c.advance? now).map fun c => (c, .done)
  | .refresh now => (c.refresh? now).map fun (c, s) => (c, .listed s)
  | .peek => some (c, .latest c.latest)
  | .get kind path selector => some (c, .ofLookup (c.get kind path selector))

end ResourceBrowser.Cluster
