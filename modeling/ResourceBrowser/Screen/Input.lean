import ResourceBrowser.Screen.State

/-!
# Keys on the screen

Where a key goes: to the open popup, to the filter prompt, or to the table. Keys that mean nothing
here are handed to the view.
-/

namespace ResourceBrowser.Screen

open Key Table View

variable [Engine]

/-- What follows from a key. -/
inductive Reaction where
  | none
  | quit
  /-- The view has to carry out what the key is bound to. -/
  | dispatch (key : Binding)
  /-- The query changed; `commit` tells that typing is over. -/
  | filterChanged (commit : Bool)
  /-- Start the tunnel of the open dialog. -/
  | startForward
  /-- Stop the tunnel at a position in the list. -/
  | stopTunnel (index : Nat)
deriving DecidableEq, Repr

/-- The screen and the table after a key, and what follows. -/
structure Handled where
  state : State
  table : LiveTable
  reaction : Reaction := .none

/-- A key while the program asks whether to quit. -/
def quitKey (s : State) (t : LiveTable) (code : Code) : Handled :=
  match code with
  | .enter | .char 'q' | .char 'y' => ⟨{ s with popup := .none }, t, .quit⟩
  | .esc | .char 'n' => ⟨{ s with popup := .none }, t, .none⟩
  | _ => ⟨s, t, .none⟩

/-- A key while the help is open. -/
def helpKey (s : State) (t : LiveTable) (scroll : Nat) (code : Code) : Handled :=
  match code with
  | .esc | .char '?' => ⟨{ s with popup := .none }, t, .none⟩
  | .up | .char 'k' => ⟨{ s with popup := .help (scroll - 1) }, t, .none⟩
  | .down | .char 'j' => ⟨{ s with popup := .help (nextPosition scroll) }, t, .none⟩
  | _ => ⟨s, t, .none⟩

/-- A key while the port-forward dialog is open. -/
def forwardKey (s : State) (t : LiveTable) (d : Dialog) (code : Code) : Handled :=
  let edit (d : Dialog) : Handled := ⟨{ s with popup := .forward d }, t, .none⟩
  match code with
  | .esc => ⟨{ s with popup := .none }, t, .none⟩
  | .enter => ⟨s, t, .startForward⟩
  | .tab => edit d.nextField
  | .up => edit d.up
  | .down => edit d.down
  | .backspace => edit d.erase
  | .char c => edit (d.type c)
  | _ => ⟨s, t, .none⟩

/-- A key while the list of tunnels is open. -/
def tunnelsKey (s : State) (t : LiveTable) (selected : Nat) (code : Code) : Handled :=
  match code with
  | .esc | .char 'f' => ⟨{ s with popup := .none }, t, .none⟩
  | .up | .char 'k' => ⟨{ s with popup := .tunnels (selected - 1) }, t, .none⟩
  | .down | .char 'j' => ⟨{ s with popup := .tunnels (nextPosition selected) }, t, .none⟩
  | .char 'd' => ⟨s, t, .stopTunnel selected⟩
  | _ => ⟨s, t, .none⟩

/-- A key that goes to the table. -/
def normalKey (s : State) (t : LiveTable) (key : Press) : Handled :=
  let page := max s.pageSize 1
  let moved (t : LiveTable) : Handled := ⟨s, t, .none⟩
  let other : Handled := ⟨s, t, .dispatch (.ofPress key)⟩
  match key.code with
  | .char 'q' => ⟨{ s with popup := .quit }, t, .none⟩
  | .char '?' => ⟨{ s with popup := .help 0 }, t, .none⟩
  | .up | .char 'k' => moved (t.up 1)
  | .down | .char 'j' => moved (t.down 1)
  | .pageUp => moved (t.up page)
  | .pageDown => moved (t.down page)
  | .char 'b' => if key.modifiers.control then moved (t.up page) else other
  | .char 'f' => if key.modifiers.control then moved (t.down page) else other
  | .home | .char 'g' => moved t.home
  | .last | .char 'G' => moved t.last
  | .esc => if t.query == "" then moved t else ⟨s, t.clearFilter, .filterChanged true⟩
  | _ => other

/-- A key that goes to the filter prompt. Queries that are refused are reported by the table. -/
def filterKey (s : State) (t : LiveTable) (code : Code) : Handled :=
  match code with
  | .esc => ⟨{ s with mode := .normal }, t.clearFilter, .filterChanged true⟩
  | .enter => ⟨{ s with mode := .normal }, t.deactivateFilter, .filterChanged true⟩
  | .backspace => ⟨s, t.eraseFilter.1, .filterChanged false⟩
  | .char c => ⟨s, (t.typeFilter c).1, .filterChanged false⟩
  | _ => ⟨s, t, .none⟩

/-- True for the key that quits at once. -/
def isQuit (key : Press) : Bool := key.code = .char 'c' && key.modifiers.control

/-- Handles a key. -/
def handleKey (s : State) (t : LiveTable) (key : Press) : Handled :=
  if isQuit key then ⟨s, t, .quit⟩
  else match s.popup with
    | .quit => quitKey s t key.code
    | .help scroll => helpKey s t scroll key.code
    | .forward d => forwardKey s t d key.code
    | .tunnels selected => tunnelsKey s t selected key.code
    | .none =>
      match s.mode with
      | .normal => normalKey s t key
      | .filter => filterKey s t key.code

end ResourceBrowser.Screen
