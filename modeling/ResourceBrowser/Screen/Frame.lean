import ResourceBrowser.Screen.Popup
import ResourceBrowser.View.Browser

/-!
# Frames

A frame is the whole screen: a line about what is shown, the hints, the table, the prompt or the
last message, and the open popup over them. Drawing settles what depends on the size of the screen:
the length of a page, how far the table is scrolled, and the position in a popup.
-/

namespace ResourceBrowser.Screen

open Table View

/-- What a frame shows besides the state of the screen. -/
structure Scene where
  browser : Browser
  /-- The namespaces that are listed. -/
  scope : String
  tunnels : List Tunnel.Entry
  /-- The time of day, where it is known. -/
  clock : Option Tunnel.ClockTime := none

/-- A frame and the state of the screen after drawing it. -/
structure Frame where
  canvas : Canvas
  state : State

/-! ## Lines -/

/-- The line about what is shown. -/
def headerLine (s : Scene) : Line :=
  let clock := (s.clock.map clockText).getD "--:--:--"
  [⟨" kview ", .banner⟩, ⟨" ns: " ++ s.scope ++ " ", {}⟩,
    ⟨" view: " ++ s.browser.kind ++ " ", {}⟩,
    ⟨" port-forwards: " ++ toString s.tunnels.length ++ " ", {}⟩,
    ⟨" " ++ clock ++ " ", .dim⟩]

/-- The line of hints. -/
def hintsLine (hints : List (String × String)) : Line :=
  hints.flatMap fun (key, description) => [⟨key, .key⟩, ⟨" " ++ description ++ "  ", .dim⟩]

/-- The last line: the query while it is typed, and the message otherwise. -/
def promptLine (s : State) (query : String) : Line :=
  match s.mode, s.flash with
  | .filter, _ => [⟨"/", .key⟩, ⟨query, {}⟩, ⟨"_", .dim⟩]
  | .normal, some flash => [⟨flash.message, .ofLevel flash.level⟩]
  | .normal, none => []

/-! ## The table -/

/-- The widths of the columns: room for the texts in the header and in the rows, without the blanks
at their ends. -/
def tableWidths (head : List Cell) (grid : List (List Cell)) : List Nat :=
  grid.foldl (fun widths cells =>
    widths.mapIdx fun i w =>
      match cells[i]? with
      | some cell => max w (Text.trimEnd cell.text).length
      | none => w) (head.map (·.text.length))

/-- A cell of the table as an entry of a sheet. -/
def tableEntry (cell : Table.Cell) : Entry := ⟨.ofText cell.text, cell.align⟩

/-- The table as a sheet. -/
def tableSheet (t : LiveTable) : Sheet where
  widths := (tableWidths t.head t.grid).map fun w => (UInt16.ofNat w).toNat
  spacing := 2
  head := t.head.map tableEntry
  rows := t.grid.map fun cells =>
    ((cells.head?.map fun cell => Style.ofColor cell.color).getD .plain, cells.map tableEntry)

/-- The row that the screen shows as selected. -/
def selectedRow? (t : LiveTable) : Option Nat := if t.grid.isEmpty then none else some t.selected

/-- Draws the table and tells its first row on the screen. -/
def Canvas.drawTable (c : Canvas) (a : Area) (t : LiveTable) (offset : Nat) : Canvas × Nat :=
  let c := c.drawPanel a (.ofText (" " ++ t.title ++ " "))
  (tableSheet t).draw c a.inner offset (selectedRow? t)

/-! ## The whole screen -/

/-- Draws the open popup, if it can be placed, and tells it with its position settled. -/
def Canvas.drawPopup? (c : Canvas) (screen : Area) (s : Scene) : Popup → Option (Canvas × Popup)
  | .none => some (c, .none)
  | .help scroll => screen.helpPopup?.map fun popup =>
    let (c, scroll) := c.drawHelp popup s.browser.keymap.help scroll
    (c, .help scroll)
  | .quit => screen.quitPopup?.map fun popup => (c.drawQuit popup, .quit)
  | .forward d => (screen.forwardPopup? d.candidates.length).map fun popup =>
    (c.drawForward popup d, .forward d)
  | .tunnels selected => (screen.tunnelsPopup? s.tunnels.length).map fun popup =>
    let (c, selected) := c.drawTunnels popup s.tunnels selected
    (c, .tunnels selected)

/-- Draws a frame of a given size, if the open popup can be placed on it. -/
def Scene.draw? (s : Scene) (state : State) (width height : UInt16) : Option Frame :=
  let screen : Area := ⟨0, 0, width, height⟩
  let panes := screen.panes
  let table := s.browser.table
  let c := Canvas.blank width.toNat height.toNat
  let c := c.drawLines panes.header [headerLine s] false
  let c := c.drawLines panes.hints [hintsLine s.browser.keymap.hints] false
  let drawn := c.drawTable panes.table table state.offset
  let c := drawn.1.drawLines panes.prompt [promptLine state table.query] false
  (c.drawPopup? screen s state.popup).map fun (c, popup) =>
    ⟨c, { state with pageSize := panes.table.pageSize, offset := drawn.2, popup }⟩

/-! ## Reading a frame -/

namespace Canvas

/-- The text of a row, without the blanks at its end. -/
def rowText (c : Canvas) (y : Nat) : String :=
  Text.trimEnd (String.join ((c.row y).map (·.symbol)))

/-- A stretch of cells in one style. -/
structure Stretch where
  start : Nat
  length : Nat
  fore : Ink
  back : Ink
  bold : Bool
deriving DecidableEq, Repr

/-- The stretches of a row of cells from column `x` on, the cells in plain style left out. -/
def stretchesFrom (x : Nat) : List Spot → List Stretch
  | [] => []
  | cell :: rest =>
    let later := stretchesFrom (x + 1) rest
    if cell.fore = .reset && cell.back = .reset && !cell.bold then later
    else match later with
      | s :: more =>
        if s.start = x + 1 && s.fore = cell.fore && s.back = cell.back && s.bold = cell.bold then
          { s with start := x, length := s.length + 1 } :: more
        else ⟨x, 1, cell.fore, cell.back, cell.bold⟩ :: later
      | [] => [⟨x, 1, cell.fore, cell.back, cell.bold⟩]

/-- The stretches of a row. -/
def stretches (c : Canvas) (y : Nat) : List Stretch := stretchesFrom 0 (c.row y)

end Canvas

end ResourceBrowser.Screen
