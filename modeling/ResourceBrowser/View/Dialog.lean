import ResourceBrowser.Tunnel.Start
import ResourceBrowser.View.Action

/-!
# The port-forward dialog

The dialog offers the TCP ports of a pod and asks for the local address and port of the tunnel.
-/

namespace ResourceBrowser.View

open Tunnel Text Number

/-- The inputs of the dialog. -/
inductive Field where
  | containerPort
  | address
  | localPort
deriving DecidableEq, Repr

/-- The name of an input. -/
def Field.name : Field → String
  | .containerPort => "container_port"
  | .address => "address"
  | .localPort => "local_port"

/-- The dialog. One of the candidates is always selected. -/
structure Dialog where
  /-- The pod. -/
  path : String
  candidates : List Candidate
  selected : Nat
  address : String
  /-- The digits of the local port as typed. -/
  localPort : String
  /-- The input that keys go to. -/
  field : Field
  selected_lt : selected < candidates.length
deriving DecidableEq, Repr

namespace Dialog

/-- The text of a port. -/
def portText (c : Candidate) : String := toString c.port.toNat

/-- The dialog for a pod, with the first candidate selected and its port as the local port. -/
def start (path : String) (candidates : List Candidate) (address : String) :
    Except Tunnel.Fault Dialog :=
  match candidates with
  | [] => .error (.noTcpPorts path)
  | first :: rest =>
    .ok ⟨path, first :: rest, 0, address, portText first, .containerPort, by simp⟩

/-- The selected candidate. -/
def candidate (d : Dialog) : Candidate := d.candidates.get ⟨d.selected, d.selected_lt⟩

/-- Goes on to the next input. -/
def nextField (d : Dialog) : Dialog :=
  { d with field := match d.field with
    | .containerPort => .address
    | .address => .localPort
    | .localPort => .containerPort }

/-- Selects the candidate at a position, if there is one, and offers its port as the local port. -/
def choose (d : Dialog) (i : Nat) : Dialog :=
  if h : i < d.candidates.length then
    { d with
      selected := i
      localPort := portText d.candidates[i]
      selected_lt := h }
  else d

/-- Moves the selection up. -/
def up (d : Dialog) : Dialog :=
  if d.field = .containerPort && 0 < d.selected then d.choose (d.selected - 1) else d

/-- Moves the selection down. -/
def down (d : Dialog) : Dialog :=
  if d.field = .containerPort then d.choose (d.selected + 1) else d

/-- The most digits that a local port has. -/
def portDigits : Nat := 5

/-- Types a character. Addresses take everything but blanks, and ports take digits. -/
def type (d : Dialog) (c : Char) : Dialog :=
  match d.field with
  | .containerPort => d
  | .address => if isBlank c then d else { d with address := d.address.push c }
  | .localPort =>
    if c.isDigit && d.localPort.length < portDigits then
      { d with localPort := d.localPort.push c }
    else d

/-- Removes the last character. -/
def erase (d : Dialog) : Dialog :=
  let cut (s : String) : String := .ofList s.toList.dropLast
  match d.field with
  | .containerPort => d
  | .address => { d with address := cut d.address }
  | .localPort => { d with localPort := cut d.localPort }

/-- What a key does to the dialog. -/
inductive Edit where
  | nextField
  | up
  | down
  | type (c : Char)
  | erase
deriving DecidableEq, Repr

/-- Carries out what a key does. -/
def edit (d : Dialog) : Edit → Dialog
  | .nextField => d.nextField
  | .up => d.up
  | .down => d.down
  | .type c => d.type c
  | .erase => d.erase

/-- Carries out what keys do, one after the other. -/
def run (d : Dialog) (edits : List Edit) : Dialog := edits.foldl edit d

/-- The bound on port numbers. -/
def portBound : Nat := 65536

/-- The local port as a number; zero is none. -/
def localPort? (d : Dialog) : Option UInt16 :=
  ((readBelow? portBound d.localPort.toList).filter (· ≠ 0)).map .ofNat

/-- The tunnel that the dialog describes. -/
def request (d : Dialog) : Except Fault (Id × Spec) :=
  match d.localPort? with
  | none => .error (.invalidPort d.localPort)
  | some localPort =>
    if d.address == "" then .error .emptyAddress
    else
      let c := d.candidate
      .ok (⟨d.path, c.container⟩, ⟨d.address, localPort, c.port⟩)

end Dialog

/-- Starts the tunnel that a dialog describes. -/
def startForward (s : System) (w : Spec → Surroundings) (d : Dialog) : System × Except Fault Id :=
  match d.request with
  | .error e => (s, .error e)
  | .ok (id, spec) =>
    match s.start (w spec) id spec with
    | (s, .ok ()) => (s, .ok id)
    | (s, .error e) => (s, .error (.tunnel e))

end ResourceBrowser.View
