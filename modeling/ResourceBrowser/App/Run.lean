import ResourceBrowser.App

/-!
# Runs of the application

What the application reacts to and what goes on around it, as data, so that a run is a list of
inputs. Between any two of them the tunnels may take steps of their own. A run ends early where the
simulation behind the application stops or a popup cannot be placed.
-/

namespace ResourceBrowser

open Screen Table Tunnel

variable [Engine]

/-- What comes in while the application runs. -/
inductive Input where
  | key (press : Key.Press) (m : Moment)
  /-- Some time has passed. -/
  | tick (m : Moment)
  /-- An event of a tunnel is handled. -/
  | event (e : Event) (m : Moment)
  /-- A frame is drawn. -/
  | draw (clock : Option ClockTime) (width height : UInt16)
  /-- A call or a session takes a step, or another client asks a tunnel to stop. -/
  | work (label : System.Step)

namespace App

/-- Draws a frame, which settles what depends on the size of the screen. -/
def draw? (a : App) (clock : Option ClockTime) (width height : UInt16) : Option App :=
  ((a.scene clock).draw? a.screen width height).map fun f => { a with screen := f.state }

/-- Lets the tunnels take a step, if it can be taken now. -/
def work (a : App) (label : System.Step) : App :=
  match a.tunnels.step? label with
  | some p => { a with tunnels := p.system }
  | none => a

/-- Handles an event, which no longer waits then. -/
def handleEvent (a : App) (e : Event) (m : Moment) : App :=
  { a with tunnels := { a.tunnels with events := a.tunnels.events.erase e } }.onEvent e m

/-- Takes in what comes. -/
def take? (a : App) : Input → Option App
  | .key press m => a.onKey? press m
  | .tick m => a.onTick? m
  | .event e m => some (a.handleEvent e m)
  | .draw clock width height => a.draw? clock width height
  | .work label => some (a.work label)

/-- Takes in one thing after the other. -/
def run? (a : App) (inputs : List Input) : Option App := inputs.foldlM take? a

end App

end ResourceBrowser
