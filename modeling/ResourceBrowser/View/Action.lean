import ResourceBrowser.Config
import ResourceBrowser.Key.Keymap
import ResourceBrowser.Table.Csv
import ResourceBrowser.Tunnel.Candidate

/-!
# Actions

What keys can be bound to in a view, what goes wrong with it, and the keys that the configuration
binds to other views.
-/

namespace ResourceBrowser.View

open Key Table Text

/-- What a bound key does. -/
inductive Action where
  | sortBy (column : String) (ascending : Bool)
  | invertSort
  | toggleWide
  | toggleFaults
  | toggleMark
  | clearMarks
  | filter
  | portForward
  | showTunnels
  | dump
  /-- Leads to the view of another kind. -/
  | goto (kind : String)
deriving DecidableEq, Repr

/-- The actions without arguments under their names. -/
def Action.named : List (String × Action) := [
  ("invert_sort", .invertSort), ("toggle_wide", .toggleWide), ("toggle_toast", .toggleFaults),
  ("toggle_mark", .toggleMark), ("clear_marks", .clearMarks), ("filter", .filter),
  ("port_forward", .portForward), ("show_tunnels", .showTunnels), ("dump", .dump)]

/-- Why an action was not carried out. -/
inductive Fault where
  | invalidKey (text : String)
  | notForwardable (kind : String)
  | invalidPort (text : String)
  | emptyAddress
  | dumpFailed (fault : DumpFault)
  | tunnel (fault : Tunnel.Fault)
  | source (error : Cluster.SourceError)
deriving DecidableEq, Repr

/-- The text shown for a fault. -/
def Fault.message : Fault → String
  | .invalidKey text => "invalid key binding " ++ quote text
  | .notForwardable kind => "port-forward is not supported on " ++ kind
  | .invalidPort text => "invalid local port " ++ quote text
  | .emptyAddress => "local address must not be empty"
  | .dumpFailed fault => "dump failed: " ++ fault.message
  | .tunnel fault => fault.message
  | .source error => error.message

/-- The name of the kind of a fault. -/
def Fault.name : Fault → String
  | .invalidKey _ => "InvalidKey"
  | .notForwardable _ => "NotForwardable"
  | .invalidPort _ => "InvalidPort"
  | .emptyAddress => "EmptyAddress"
  | .dumpFailed _ => "Export"
  | .tunnel fault => fault.name
  | .source error => error.name

/-- Reads the text of a key binding. -/
def readKey (text : String) : Except Fault Binding :=
  match Binding.read? text with
  | some key => .ok key
  | none => .error (.invalidKey text)

/-! ## Hotkeys -/

/-- Binds a hotkey, unless its shortcut is unreadable or bound already. A hotkey without a
description is listed under its name. -/
def addHotkey (m : Keymap Action) (name : String) (h : Hotkey) : Keymap Action :=
  match Binding.read? h.shortcut with
  | none => m
  | some key =>
    if m.contains key then m
    else
      let description := if h.description == "" then name else h.description
      m.insert key ⟨description, .goto h.command, true⟩

/-- Binds the hotkeys of a configuration in order of their names. -/
def addHotkeys (m : Keymap Action) (c : Config) : Keymap Action :=
  c.hotkeys.foldl (fun m (name, h) => addHotkey m name h) m

end ResourceBrowser.View
