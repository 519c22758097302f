import ResourceBrowser.Cluster.Feed
import ResourceBrowser.Screen.Frame
import ResourceBrowser.Screen.Input

/-!
# The application

The application keeps the feed, the view and the tunnels together: keys change the view, the label
selector of the query goes to the feed, and what happens to tunnels is reported on the message
line. Where the simulation behind the feed stops, so does the application.
-/

namespace ResourceBrowser

open Cluster Screen Table View Tunnel

variable [Engine]

/-- A moment, as several clocks show it. -/
structure Moment where
  /-- Nanoseconds since 1970. -/
  nanos : Int
  /-- The local time of day. -/
  clock : ClockTime := default
deriving DecidableEq, Repr

/-- The state of the application. -/
structure App where
  feed : Feed
  config : Config
  browser : Browser
  tunnels : System := {}
  screen : Screen.State := {}
  /-- The selector that the feed was asked for last. -/
  applied : Option String := none
  /-- The files to be written, with their texts. -/
  files : List (String × String) := []
  /-- The application is to end. -/
  done : Bool := false

namespace App

/-- The browser of a kind over a feed. -/
def browserFor (kind : String) (feed : Feed) (c : Config) : Browser :=
  let b := Browser.forKind kind c
  { b with table := b.table.setMetrics feed.cluster.metrics }

/-- The application before its first listing. -/
def start (cluster : Cluster) (config : Config) : App :=
  let feed : Feed := { cluster }
  { feed, config, browser := browserFor cluster.kind.name feed config }

/-! ## Messages -/

/-- Shows a message. -/
def say (a : App) (level : Level) (message : String) (m : Moment) : App :=
  { a with screen := a.screen.say level message m.nanos }

/-- Shows what went wrong with the table. -/
def reportTable (a : App) (m : Moment) : App :=
  let (table, trouble) := a.browser.table.takeError
  let a := { a with browser := { a.browser with table } }
  match trouble with
  | some message => a.say .error message m
  | none => a

/-! ## Listings -/

/-- Shows what the feed has answered. -/
def receive (a : App) (feed : Feed) (listing : Except SourceError Snapshot) : App :=
  let table := match listing with
    | .ok snapshot => a.browser.table.update snapshot
    | .error e => a.browser.table.noteError e.message
  { a with feed, browser := { a.browser with table }.refreshKeys }

/-- Shows a new listing. -/
def reload? (a : App) (m : Moment) : Option App :=
  (a.feed.refresh? m.nanos).map fun (feed, listing) => (a.receive feed listing).reportTable m

/-- Hands a selector to the feed if it differs from the one asked for last; tells whether it did. -/
def apply (a : App) (selector : Option String) : Except SourceError (App × Bool) :=
  let selector := (selector.map Text.trim).filter (· != "")
  if a.applied == selector then .ok (a, false)
  else (a.feed.setSelector selector).map fun feed => ({ a with feed, applied := selector }, true)

/-- Hands the selector of the query to the feed. A selector that cannot be read is reported once
typing is over. -/
def applySelector? (a : App) (commit : Bool) (m : Moment) : Option App :=
  match a.apply a.browser.table.labelSelector? with
  | .ok (a, true) => a.reload? m
  | .ok (a, false) => some a
  | .error e => some (if commit then a.say .error e.message m else a)

/-- Shows another kind of resource. -/
def switchKind? (a : App) (name : String) (m : Moment) : Option App :=
  match Kind.ofAlias? name with
  | none => some (a.say .error (SourceError.unknownKind name).message m)
  | some kind =>
    match a.feed.setKind kind.name with
    | .error e => some (a.say .error e.message m)
    | .ok feed =>
      let a := { a with feed }
      let a := match a.apply none with
        | .ok (a, _) => a
        | .error _ => a
      { a with
        browser := browserFor kind.name a.feed a.config
        screen := { a.screen with mode := .normal } }.reload? m

/-! ## Tunnels -/

/-- What starting a tunnel meets with. -/
def surroundings (a : App) (m : Moment) (spec : Spec) : Surroundings :=
  { probe := a.tunnels.portTaken spec, startedAt := m.clock }

/-- Starts the tunnel of the open dialog, which closes. -/
def startForward (a : App) (m : Moment) : App :=
  match a.screen.popup with
  | .forward d =>
    let a := { a with screen := { a.screen with popup := .none } }
    match View.startForward a.tunnels (a.surroundings m) d with
    | (tunnels, .ok id) =>
      { a with tunnels }.say .info ("Starting port-forward on " ++ id.text) m
    | (tunnels, .error e) => { a with tunnels }.say .error e.message m
  | _ => a

/-- Asks the tunnel at a position in the list to stop. -/
def stopTunnel (a : App) (index : Nat) (m : Moment) : App :=
  match a.tunnels.registry.list[index]? with
  | none => a
  | some e =>
    match a.tunnels.stop e.id with
    | (tunnels, .ok ()) =>
      { a with tunnels }.say .info ("Stopping port-forward " ++ e.id.text) m
    | (tunnels, .error fault) => { a with tunnels }.say .error fault.message m

/-- Reports what happened to a tunnel; a regular end is not worth a message. -/
def onEvent (a : App) (e : Event) (m : Moment) : App :=
  match e with
  | .activated id spec =>
    a.say .info ("PortForward activated " ++ id.text ++ " on " ++ spec.localText) m
  | .stopped _ => a
  | .failed id message =>
    a.say .error ("PortForward failed for " ++ id.text ++ ": " ++ message) m

/-! ## Keys -/

/-- Follows up on an action of the view. -/
def follow? (a : App) (o : Outcome) (m : Moment) : Option App :=
  match o with
  | .done => some a
  | .save path text =>
    some ({ a with files := a.files ++ [(path, text)] }.say .info (savedMessage path) m)
  | .startFilter => some { a with screen := { a.screen with mode := .filter } }
  | .showTunnels => some { a with screen := { a.screen with popup := .tunnels 0 } }
  | .openDialog d => some { a with screen := { a.screen with popup := .forward d } }
  | .goto kind => a.switchKind? kind m

/-- What the view is told for an action. -/
def context (a : App) (m : Moment) : Browser.Context := ⟨a.feed.cluster, a.config, m.nanos.toNat⟩

/-- Has the view carry out what a key is bound to. -/
def dispatch? (a : App) (key : Key.Binding) (m : Moment) : Option App :=
  match a.browser.dispatch (a.context m) key with
  | none => some a
  | some (browser, .ok o) => { a with browser }.follow? o m
  | some (browser, .error e) => some ({ a with browser }.say .error e.message m)

/-- Follows up on a key. -/
def react? (a : App) (r : Reaction) (m : Moment) : Option App :=
  match r with
  | .none => some a
  | .quit => some { a with done := true }
  | .dispatch key => a.dispatch? key m
  | .filterChanged commit => a.applySelector? commit m
  | .startForward => some (a.startForward m)
  | .stopTunnel index => some (a.stopTunnel index m)

/-- The application after a key was handled, before it follows up on it. -/
def heard (a : App) (h : Handled) : App :=
  { a with screen := h.state, browser := { a.browser with table := h.table } }

/-- A key was pressed. -/
def onKey? (a : App) (key : Key.Press) (m : Moment) : Option App :=
  let h := handleKey a.screen a.browser.table key
  ((a.heard h).react? h.reaction m).map (·.reportTable m)

/-- Some time has passed. -/
def onTick? (a : App) (m : Moment) : Option App :=
  { a with screen := a.screen.expire m.nanos }.reload? m

/-- What the screen shows. -/
def scene (a : App) (clock : Option ClockTime) : Scene :=
  ⟨a.browser, a.feed.cluster.ns, a.tunnels.registry.list, clock⟩

/-- Handles the event of a tunnel that has waited longest. -/
def pump (a : App) (m : Moment) : App :=
  match a.tunnels.events with
  | [] => a
  | e :: rest => { a with tunnels := { a.tunnels with events := rest } }.onEvent e m

/-- Lets the tunnels go on as far as they can and reports what happened to them. -/
def settle (a : App) (m : Moment) : App :=
  let a := { a with tunnels := a.tunnels.settle }
  a.tunnels.events.length.repeat (fun a => a.pump m) a

end App

end ResourceBrowser
