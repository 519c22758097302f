import ResourceBrowser.Screen.Panel
import ResourceBrowser.Tunnel.Registry

/-!
# Popups on the screen

Popups are drawn over the table: each one clears its area and draws a panel with what it shows.
The help and the list of tunnels keep their position within what there is to see.
-/

namespace ResourceBrowser.Screen

open Text View

/-- Clears an area for a popup and draws its panel. -/
def Canvas.openPanel (c : Canvas) (a : Area) (title : String) : Canvas :=
  (c.clear a).drawPanel a (.ofText title)

/-! ## The help -/

/-- The keys that are the same in every view. -/
def globalKeys : List (String × String) := [
  ("↑/k ↓/j", "move selection"),
  ("PgUp/PgDn", "page up/down"),
  ("g/G", "first/last row"),
  ("Esc", "clear filter, close popup"),
  ("?", "toggle help"),
  ("q", "quit")]

/-- The kinds of filter queries. -/
def filterForms : List (String × String) := [
  ("<text>", "case-insensitive regex over all columns"),
  ("-l k=v", "label selector"),
  ("-f text", "fuzzy match on names")]

/-- The number of characters that the keys of the help are filled up to. -/
def keyWidth : Nat := 14

/-- A line of the help: a key and what it does. -/
def helpEntry (e : String × String) : Line :=
  [⟨Table.fillRight e.1 keyWidth, .ink .cyan⟩, ⟨e.2, {}⟩]

/-- A part of the help. -/
def helpSection (title : String) (entries : List (String × String)) : List Line :=
  [⟨title, .key⟩] :: entries.map helpEntry

/-- The lines of the help for the keys of a view. -/
def helpLines (keys : List (String × String)) : List Line :=
  helpSection "General" globalKeys ++ [[]] ++ helpSection "View" keys ++ [[]] ++
    helpSection "Filter" filterForms

/-- The largest position of the help: its lines but for those that there is room for. -/
def helpEnd (lines : List Line) (area : Area) : Nat := lines.length - area.height.toNat

/-- The part of the help popup that shows its lines, and the line below it. -/
def helpParts (popup : Area) : Area × Area :=
  let inner := popup.inner
  inner.splitTop (max (Area.less inner.height 1) (min inner.height 1))

/-- The rows of a text that an area shows from a position on. -/
def Area.window {α : Type} (a : Area) (scroll : Nat) (rows : List α) : List α :=
  let scroll : UInt16 := .ofNat scroll
  (rows.take (a.height + scroll).toNat).drop scroll.toNat

/-- The rows of the help in an area: lines are broken to its width, and rows are skipped up to the
position. -/
def helpRows (lines : List Line) (area : Area) (scroll : Nat) : List Run :=
  area.window scroll (lines.flatMap (Line.breakAt area.width.toNat))

/-- The line at the foot of the help. -/
def helpFoot (scroll last : Nat) : Line :=
  let position :=
    if 0 < last then " [" ++ toString (scroll + 1) ++ "/" ++ toString (last + 1) ++ "]" else ""
  [⟨"Press ", .dim⟩, ⟨"?", .key⟩, ⟨" to close, ", .dim⟩, ⟨"↑↓", .key⟩, ⟨" to scroll", .dim⟩,
    ⟨position, .dim⟩]

/-- Draws the help and tells its position, which ends at the last one. -/
def Canvas.drawHelp (c : Canvas) (popup : Area) (keys : List (String × String)) (scroll : Nat) :
    Canvas × Nat :=
  let lines := helpLines keys
  let (body, foot) := helpParts popup
  let last := helpEnd lines body
  let scroll := min scroll last
  let c := (c.openPanel popup " Help ").restyle body (.ink .white)
  let c := c.drawRows body (helpRows lines body scroll) false
  (c.drawLines foot [helpFoot scroll last] false, scroll)

/-! ## Other popups -/

/-- Draws the question whether to quit. -/
def Canvas.drawQuit (c : Canvas) (popup : Area) : Canvas :=
  (c.openPanel popup " Confirm ").drawLines popup.inner [
    [⟨"Quit kview?", {}⟩],
    [⟨"Enter", .key⟩, ⟨" yes  ", {}⟩, ⟨"Esc", .key⟩, ⟨" no", {}⟩]] true

/-- The lines of the port-forward dialog. -/
def forwardLines (d : Dialog) : List Line :=
  let label (field : Field) (text : String) : Span :=
    ⟨text, if d.field = field then { Style.key with bold := true } else .dim⟩
  let candidates : List Line := d.candidates.mapIdx fun i c =>
    if i = d.selected then [⟨"> " ++ c.text, .selected⟩] else [⟨"  " ++ c.text, .plain⟩]
  [[label .containerPort "Container Port:"]] ++ candidates ++ [
    [],
    [label .address "Address:    ", ⟨d.address, {}⟩],
    [label .localPort "Local Port: ", ⟨d.localPort, {}⟩],
    [],
    [⟨"Tab", .key⟩, ⟨" next field  ", .dim⟩, ⟨"Enter", .key⟩, ⟨" OK  ", .dim⟩, ⟨"Esc", .key⟩,
      ⟨" cancel", .dim⟩]]

/-- Draws the port-forward dialog. -/
def Canvas.drawForward (c : Canvas) (popup : Area) (d : Dialog) : Canvas :=
  let c := c.openPanel popup (" PortForward: " ++ d.path ++ " ")
  c.drawLines popup.inner (forwardLines d) false

/-- A number with at least two digits. -/
def twoDigits (n : Nat) : String := if n < 10 then "0" ++ toString n else toString n

/-- The text of a time of day. -/
def clockText (t : Tunnel.ClockTime) : String :=
  twoDigits t.hours ++ ":" ++ twoDigits t.minutes ++ ":" ++ twoDigits t.seconds

/-- The widths of the columns of the list of tunnels. The first column takes what the others
leave. -/
def tunnelWidths (room : Nat) : List Nat :=
  let others := [14, 12, 12, 9, 9]
  max 20 (others.foldl (fun left w => left - (w + 1)) room) :: others

/-- The list of tunnels as a sheet. -/
def tunnelSheet (tunnels : List Tunnel.Entry) (room : Nat) : Sheet :=
  let entries (texts : List String) : List Entry := texts.map fun t => ⟨.ofText t, .left⟩
  { widths := tunnelWidths room
    spacing := 1
    head := entries ["NAME", "CONTAINER", "ADDRESS", "PORTS", "STATE", "STARTED"]
    rows := tunnels.map fun t => ({}, entries [
      t.id.path, t.id.container, t.spec.address,
      toString t.spec.localPort.toNat ++ ":" ++ toString t.spec.remotePort.toNat,
      t.state.text, clockText t.startedAt]) }

/-- Draws the list of tunnels and tells the selected one, which is one of the list. -/
def Canvas.drawTunnels (c : Canvas) (popup : Area) (tunnels : List Tunnel.Entry)
    (selected : Nat) : Canvas × Nat :=
  let c := c.openPanel popup
    (" PortForwards[" ++ toString tunnels.length ++ "]  <d> stop  <esc> close ")
  if tunnels.isEmpty then
    let c := c.restyle popup.inner .dim
    (c.drawLines popup.inner [[⟨"No active port-forwards", {}⟩]] false, 0)
  else
    let selected := min selected (tunnels.length - 1)
    let sheet := tunnelSheet tunnels popup.inner.width.toNat
    ((sheet.draw c popup.inner 0 (some selected)).1, selected)

end ResourceBrowser.Screen
