import ResourceBrowser.Cluster.Typical
import ResourceBrowser.Config

/-!
# Options

What the program can be told when it is started: which resources to show first, where the
configuration is, and what overrides it.
-/

namespace ResourceBrowser

open Number

/-- The options of the program. -/
structure Options where
  ns : String := "default"
  allNamespaces : Bool := false
  kind : String := "pods"
  /-- The path of the configuration. -/
  config : String := "kview.json"
  /-- The seconds between two listings, instead of those in the configuration. -/
  refresh : Option Nat := none
  /-- The directory for dumps, instead of the one in the configuration. -/
  dumpDir : Option String := none
  metrics : Bool := true
deriving DecidableEq, Repr

/-- Why options cannot be used. -/
inductive OptionFault where
  | unknown (option : String)
  | noValue (option : String)
  | invalidValue (option value : String)
deriving DecidableEq, Repr

/-- The text shown for options that cannot be used. -/
def OptionFault.message : OptionFault → String
  | .unknown option => "unexpected argument '" ++ option ++ "' found"
  | .noValue option => "a value is required for '" ++ option ++ "' but none was supplied"
  | .invalidValue option value => "invalid value '" ++ value ++ "' for '" ++ option ++ "'"

namespace Options

/-- Sets the option with a name to a value; `none` if it takes no value. -/
def set? (o : Options) (option value : String) : Option (Except OptionFault Options) :=
  if option == "-n" || option == "--namespace" then some (.ok { o with ns := value })
  else if option == "--kind" then some (.ok { o with kind := value })
  else if option == "--config" then some (.ok { o with config := value })
  else if option == "--dump-dir" then some (.ok { o with dumpDir := some value })
  else if option == "--refresh" then
    some (match readBelow? Config.secondsBound value.toList with
      | some n => .ok { o with refresh := some n }
      | none => .error (.invalidValue option value))
  else none

/-- Switches the option with a name on, if it takes no value. -/
def switch? (o : Options) (option : String) : Option Options :=
  if option == "-A" || option == "--all-namespaces" then some { o with allNamespaces := true }
  else if option == "--no-metrics" then some { o with metrics := false }
  else none

/-- Reads arguments. -/
def read (o : Options) : List String → Except OptionFault Options
  | [] => .ok o
  | option :: rest =>
    match o.switch? option with
    | some o => o.read rest
    | none =>
      if (o.set? option "").isNone then .error (.unknown option)
      else match rest with
        | [] => .error (.noValue option)
        | value :: rest =>
          match o.set? option value with
          | some (.ok o) => o.read rest
          | some (.error e) => .error e
          | none => .error (.unknown option)

/-- The configuration with what the options override. -/
def override (o : Options) (c : Config) : Config :=
  { c with
    refreshSeconds := o.refresh.getD c.refreshSeconds
    dumpDir := o.dumpDir.getD c.dumpDir }

/-- The cluster that the options ask for. -/
def cluster (o : Options) (now : Int) : Except Cluster.SourceError Cluster :=
  (((Cluster.typical now).withMetrics o.metrics |>.withChurn true).setKind o.kind).map fun c =>
    c.setNamespace (if o.allNamespaces then Scope.all else o.ns)

end Options

end ResourceBrowser
