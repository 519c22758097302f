import ResourceBrowser.Text.Blank

/-!
# Namespace scopes

A view shows one namespace, every namespace at once, or resources that belong to the whole
cluster. Paths name a resource as `namespace/name`, or by the name alone when it has no namespace.
-/

namespace ResourceBrowser.Scope

open Text

/-- The label of a view of every namespace. -/
def all : String := "all"

/-- The marker of resources that belong to the whole cluster. -/
def cluster : String := "-"

/-- True when `ns` designates every namespace. -/
def isAll (ns : String) : Bool := ns == "" || ns == all

/-- True when `ns` designates the whole cluster. -/
def isCluster (ns : String) : Bool := ns == cluster

/-- The path of a resource. -/
def path (ns name : String) : String :=
  if ns == "" || isCluster ns then name else ns ++ "/" ++ name

/-- The namespace and the name of a path; a path without a namespace belongs to the cluster. -/
def split (path : String) : String × String :=
  match splitFirst ['/'] path.toList with
  | some (ns, name) => (.ofList ns, .ofList name)
  | none => (cluster, path)

end ResourceBrowser.Scope
