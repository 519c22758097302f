import ResourceBrowser.View.Dialog

/-!
# The state of the screen

What the user sees besides the table: where keys go, the open popup, the message line, and how far
the table is scrolled.
-/

namespace ResourceBrowser.Screen

open View

/-- Where keys go. -/
inductive Mode where
  | normal
  /-- To the filter prompt. -/
  | filter
deriving DecidableEq, Repr, Inhabited

/-- The name of a mode. -/
def Mode.name : Mode → String
  | .normal => "normal"
  | .filter => "filter"

/-- The popup over the table. -/
inductive Popup where
  | none
  | help (scroll : Nat)
  | quit
  | forward (dialog : Dialog)
  | tunnels (selected : Nat)
deriving DecidableEq, Repr

/-- True when a popup is open. -/
def Popup.isOpen : Popup → Bool
  | .none => false
  | _ => true

/-- How serious a message is. -/
inductive Level where
  | info
  | warn
  | error
deriving DecidableEq, Repr

/-- The name of a level. -/
def Level.name : Level → String
  | .info => "info"
  | .warn => "warn"
  | .error => "error"

/-- The message line. -/
structure Flash where
  level : Level
  message : String
  /-- When it was set, in nanoseconds. -/
  since : Int
deriving DecidableEq, Repr

/-- How long a message stays, in nanoseconds. -/
def flashTime : Int := 5000000000

/-- The largest position that a popup counts to. -/
def positionMax : Nat := UInt64.size - 1

/-- The next position; the largest one stays. -/
def nextPosition (n : Nat) : Nat := min (n + 1) positionMax

/-- The state of the screen. -/
structure State where
  mode : Mode := .normal
  popup : Popup := .none
  flash : Option Flash := none
  /-- How many rows the table has room for. -/
  pageSize : Nat := 10
  /-- The first row on the screen. -/
  offset : Nat := 0
deriving DecidableEq, Repr

instance : Inhabited State := ⟨{}⟩

namespace State

/-- Shows a message. -/
def say (s : State) (level : Level) (message : String) (now : Int) : State :=
  { s with flash := some ⟨level, message, now⟩ }

/-- Takes the message away when its time is over. -/
def expire (s : State) (now : Int) : State :=
  { s with flash := s.flash.filter fun f => now - f.since < flashTime }

end State

end ResourceBrowser.Screen
