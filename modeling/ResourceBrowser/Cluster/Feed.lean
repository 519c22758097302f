import ResourceBrowser.Cluster.Simulation

/-!
# Feeds

The connection to a cluster. While its server cannot be reached, no listing comes in and no other
kind can be asked for; everything else is answered from what is known already.
-/

namespace ResourceBrowser.Cluster

open Table

/-- A connection to a cluster. -/
structure Feed where
  cluster : Cluster
  /-- The server answers. -/
  reachable : Bool := true
  /-- How many listings have been asked for. -/
  fetches : Nat := 0

namespace Feed

/-- Asks for a new listing. -/
def refresh? (f : Feed) (now : Int) : Option (Feed × Except SourceError Snapshot) :=
  let f := { f with fetches := f.fetches + 1 }
  if f.reachable then
    (f.cluster.refresh? now).map fun (cluster, snapshot) => ({ f with cluster }, .ok snapshot)
  else some (f, .error (.notFound f.cluster.kind.name "api-server"))

/-- Asks for another kind. -/
def setKind (f : Feed) (kind : String) : Except SourceError Feed :=
  if f.reachable then (f.cluster.setKind kind).map fun cluster => { f with cluster }
  else .error (.unknownKind kind)

/-- Asks for the resources that meet a selector, or for all of them. -/
def setSelector (f : Feed) (selector : Option String) : Except SourceError Feed :=
  (f.cluster.setSelector selector).map fun cluster => { f with cluster }

end Feed

end ResourceBrowser.Cluster
