import ResourceBrowser.Cluster.Simulation
import ResourceBrowser.View.Dialog

/-!
# Browsers

A browser shows the resources of one kind in a table and carries out the actions that its keys are
bound to. Browsers of pods also start tunnels.
-/

namespace ResourceBrowser.View

open Key Table Cluster

/-- A view of one kind of resource. -/
structure Browser where
  table : LiveTable
  keymap : Keymap Action
  /-- Tunnels can be started from here. -/
  forwards : Bool

/-- What follows from an action. -/
inductive Outcome where
  | done
  /-- A table to be written to a file. -/
  | save (path text : String)
  /-- Keys go to the filter prompt from now on. -/
  | startFilter
  | showTunnels
  | openDialog (dialog : Dialog)
  | goto (kind : String)
deriving DecidableEq, Repr

/-- The message about a written file. -/
def savedMessage (path : String) : String := "File " ++ path ++ " saved successfully!"

/-! ## Bindings -/

/-- A binding that sorts by a column; it is not listed in the menu. -/
def sortBinding (description column : String) (ascending : Bool) : Bound Action :=
  ⟨description, .sortBy column ascending, false⟩

/-- The bindings of every view. -/
def commonBindings : List (Binding × Bound Action) := [
  (.char '/', ⟨"Filter", .filter, true⟩),
  (.control 'w', ⟨"Toggle Wide", .toggleWide, true⟩),
  (.control 'z', ⟨"Toggle Faults", .toggleFaults, true⟩),
  (.char ' ', ⟨"Mark", .toggleMark, true⟩),
  (.control '\\', ⟨"Mark Clear", .clearMarks, false⟩),
  (.control 's', ⟨"Save", .dump, false⟩),
  (.char 'f', ⟨"Port-Forwards", .showTunnels, true⟩),
  (.shift 'i', ⟨"Sort Invert", .invertSort, false⟩),
  (.shift 'n', sortBinding "Sort Name" nameColumn true),
  (.shift 'a', sortBinding "Sort Age" ageColumn true)]

/-- The bindings of views of pods. -/
def podBindings : List (Binding × Bound Action) := [
  (.shift 'r', sortBinding "Sort Restarts" "RESTARTS" false),
  (.shift 's', sortBinding "Sort Status" "STATUS" true),
  (.shift 'c', sortBinding "Sort CPU" "CPU" false),
  (.shift 'm', sortBinding "Sort MEM" "MEM" false)]

/-- The key that sorts by namespace. -/
def namespaceKey : Binding := .shift 'p'

/-- The key that starts a tunnel. -/
def forwardKey : Binding := .shift 'f'

/-- Binds a list of keys. -/
def bindAll (m : Keymap Action) (bindings : List (Binding × Bound Action)) : Keymap Action :=
  bindings.foldl (fun m (key, bound) => m.insert key bound) m

namespace Browser

variable [Engine]

/-- Sorting by namespace is bound while rows of every namespace are shown. -/
def refreshKeys (b : Browser) : Browser :=
  { b with keymap :=
      if b.table.clusterWide then
        b.keymap.insert namespaceKey (sortBinding "Sort Namespace" namespaceColumn true)
      else b.keymap.erase namespaceKey }

/-- The browser of a kind without hotkeys. -/
def plain (kind : String) (c : Config) : Browser :=
  let colorer := ((Kind.ofName? kind).map Kind.colorer).getD colorByChange
  let table := ({ kind, colorer } : LiveTable).setViewColumns (c.columns kind)
  let common := bindAll .empty commonBindings
  let keymap := if kind == Kind.pods.name then bindAll common podBindings else common
  refreshKeys { table, keymap, forwards := false }

/-- The same browser, which also starts tunnels. -/
def withForward (b : Browser) : Browser :=
  { b with
    keymap := b.keymap.insert forwardKey ⟨"Port-Forward", .portForward, true⟩
    forwards := true }

/-- The browser of a kind. -/
def forKind (kind : String) (c : Config) : Browser :=
  let b := plain kind c
  let b := if kind == Kind.pods.name then b.withForward else b
  { b with keymap := addHotkeys b.keymap c }

/-- The kind of resource that is shown. -/
def kind (b : Browser) : String := b.table.kind

/-! ## Actions -/

/-- What actions use besides the view. -/
structure Context where
  source : Cluster
  config : Config
  /-- The time in nanoseconds since 1970. -/
  stamp : Nat

/-- A path in a directory, unless it starts at the root. -/
def joinPath (directory name : String) : String :=
  if name.toList.head? == some '/' then name
  else if directory == "" || directory.toList.getLast? == some '/' then directory ++ name
  else directory ++ "/" ++ name

/-- The dialog for the selected pod. -/
def openForward (b : Browser) (ctx : Context) : Except Fault Outcome :=
  match b.table.trackedId with
  | none => .ok .done
  | some path =>
    if b.kind != Kind.pods.name then .error (.notForwardable b.kind)
    else match ctx.source.get b.kind path none with
      | .error e => .error (.source e)
      | .ok (.node _) => .error (.notForwardable b.kind)
      | .ok (.pod p) =>
        match (Tunnel.candidates path p.containers).bind fun candidates =>
            Dialog.start path candidates ctx.config.forward.address with
        | .error e => .error (.tunnel e)
        | .ok d => .ok (.openDialog d)

/-- Has the table written to a file in the directory for dumps. -/
def dump (b : Browser) (ctx : Context) : Except Fault Outcome :=
  match b.table.dumpFile ctx.stamp with
  | .error e => .error (.dumpFailed e)
  | .ok _ => .ok (.save (joinPath ctx.config.dumpDir (b.table.dumpName ctx.stamp)) b.table.csv)

/-- Carries out an action. -/
def handle (b : Browser) (ctx : Context) : Action → Browser × Except Fault Outcome
  | .sortBy column ascending =>
    ({ b with table := b.table.sortBy column ascending }, .ok .done)
  | .invertSort => ({ b with table := b.table.invertSort }, .ok .done)
  | .toggleWide => ({ b with table := b.table.toggleWide }, .ok .done)
  | .toggleFaults => ({ b with table := b.table.toggleFaults }, .ok .done)
  | .toggleMark => ({ b with table := b.table.toggleMark.down 1 }, .ok .done)
  | .clearMarks => ({ b with table := b.table.clearMarks }, .ok .done)
  | .filter => ({ b with table := b.table.activateFilter }, .ok .startFilter)
  | .portForward =>
    (b, if b.forwards then b.openForward ctx else .error (.notForwardable b.kind))
  | .showTunnels => (b, .ok .showTunnels)
  | .dump => (b, b.dump ctx)
  | .goto kind => (b, .ok (.goto kind))

/-- Carries out the action that a key is bound to. -/
def dispatch (b : Browser) (ctx : Context) (key : Binding) :
    Option (Browser × Except Fault Outcome) :=
  (b.keymap.get? key).map fun bound => b.handle ctx bound.action

end Browser

end ResourceBrowser.View
