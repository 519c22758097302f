import ResourceBrowser.Json.Printer
import ResourceBrowser.Json.Reader

/-!
# Configuration

What the user can set before the start: the columns of the views, keys that lead to other views,
the defaults of port forwarding, the interval between updates, and where dumps go. Everything that
a configuration leaves out has a default.
-/

namespace ResourceBrowser

/-- A key that leads to a view. -/
structure Hotkey where
  shortcut : String
  description : String
  /-- The kind of resource to show. -/
  command : String
deriving DecidableEq, Repr

/-- The defaults of port forwarding. -/
structure ForwardDefaults where
  /-- The local address that the dialog offers. -/
  address : String := "localhost"
  /-- The host that forwarded connections lead to. -/
  targetHost : String := "127.0.0.1"
deriving DecidableEq, Repr

/-- The configuration. Views and hotkeys are in order of their names. -/
structure Config where
  dumpDir : String := "/tmp/kview-dumps"
  refreshSeconds : Nat := 2
  /-- The columns of a view by kind of resource. -/
  views : KeyList (List String) := []
  hotkeys : KeyList Hotkey := []
  forward : ForwardDefaults := {}
deriving DecidableEq, Repr

instance : Inhabited Config := ⟨{}⟩

namespace Config

/-- The columns configured for a kind; none leave the choice to the table. -/
def columns (c : Config) (kind : String) : List String := (c.views.lookup kind).getD []

/-- The seconds between two updates, at least one. -/
def refreshInterval (c : Config) : Nat := max c.refreshSeconds 1

/-! ## Reading -/

/-- The bound on the refresh interval. -/
def secondsBound : Nat := UInt64.size

/-- Reads the columns of a view. -/
def columns? (value : Json) : Option (List String) := do
  match ← value.record? ["columns"] with
  | [some columns] => columns.list? Json.text?
  | _ => none

/-- Reads a hotkey. -/
def hotkey? (value : Json) : Option Hotkey := do
  match ← value.record? ["shortcut", "description", "command"] with
  | [some shortcut, description, some command] =>
    some ⟨← shortcut.text?, ← Json.optional "" Json.text? description, ← command.text?⟩
  | _ => none

/-- Reads the defaults of port forwarding. -/
def forward? (value : Json) : Option ForwardDefaults := do
  let d : ForwardDefaults := {}
  match ← value.record? ["address", "upstream_host"] with
  | [address, targetHost] =>
    some ⟨← Json.optional d.address Json.text? address,
      ← Json.optional d.targetHost Json.text? targetHost⟩
  | _ => none

/-- Reads a configuration from its value. -/
def ofJson? (value : Json) : Option Config := do
  let d : Config := {}
  match ← value.record? ["dump_dir", "refresh_secs", "views", "hotkeys", "forward"] with
  | [dumpDir, refreshSeconds, views, hotkeys, forward] =>
    some {
      dumpDir := ← Json.optional d.dumpDir Json.text? dumpDir
      refreshSeconds :=
        ← Json.optional d.refreshSeconds (Json.natBelow? secondsBound) refreshSeconds
      views := ← Json.optional d.views (Json.map? columns?) views
      hotkeys := ← Json.optional d.hotkeys (Json.map? hotkey?) hotkeys
      forward := ← Json.optional d.forward forward? forward }
  | _ => none

/-- Reads a configuration from the text of its file. -/
def read? (text : String) : Option Config := (Json.read? text).bind ofJson?

/-! ## Writing -/

/-- The value of a hotkey. -/
def hotkeyJson (h : Hotkey) : Json :=
  .ofFields [("shortcut", .ofText h.shortcut), ("description", .ofText h.description),
    ("command", .ofText h.command)]

/-- The value of a configuration. -/
def toJson (c : Config) : Json :=
  .ofFields [
    ("dump_dir", .ofText c.dumpDir),
    ("refresh_secs", .ofNat c.refreshSeconds),
    ("views", .ofKeyList (fun columns => .ofFields [("columns", .ofTexts columns)]) c.views),
    ("hotkeys", .ofKeyList hotkeyJson c.hotkeys),
    ("forward", .ofFields [("address", .ofText c.forward.address),
      ("upstream_host", .ofText c.forward.targetHost)])]

/-! ## Files -/

/-- What is found where the configuration is looked for. -/
inductive File where
  | missing
  | directory
  /-- Something that cannot be read, for the given reason. -/
  | unreadable (reason : String)
  | content (bytes : ByteArray)

/-- Why there is no configuration. -/
inductive Fault where
  /-- The file cannot be read, for the given reason. -/
  | unreadable (reason : String)
  /-- The file holds no configuration. -/
  | malformed
deriving DecidableEq, Repr

/-- The text shown for a configuration at `path` that cannot be used. -/
def Fault.message (path : String) : Fault → String
  | .unreadable reason => "failed to read config " ++ path ++ ": " ++ reason
  | .malformed => "invalid config " ++ path

/-- Loads the configuration; without a file, everything has its default. -/
def load : File → Except Fault Config
  | .missing => .ok {}
  | .directory => .error (.unreadable "Is a directory (os error 21)")
  | .unreadable reason => .error (.unreadable reason)
  | .content bytes =>
    match String.fromUTF8? bytes with
    | none => .error (.unreadable "stream did not contain valid UTF-8")
    | some text =>
      match read? text with
      | none => .error .malformed
      | some c => .ok c

end Config

end ResourceBrowser
