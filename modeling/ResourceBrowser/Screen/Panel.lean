import ResourceBrowser.Screen.Line

/-!
# Panels and sheets

A panel is a border with a title around an area. A sheet is a table of text in an area: a header,
and below it as many rows as there is room for, one of which may be selected.
-/

namespace ResourceBrowser.Screen

open Table

namespace Canvas

/-- Draws a border around an area and a title on it. -/
def drawPanel (c : Canvas) (a : Area) (title : Line) : Canvas :=
  if a.isEmpty then c
  else
    let left := a.x.toNat
    let right := a.right - 1
    let top := a.y.toNat
    let bottom := a.bottom - 1
    let edge (symbol : String) (c : Canvas) (x y : Nat) : Canvas := c.put x y symbol .border
    let columns := (List.range a.width.toNat).map (left + ·)
    let rows := (List.range a.height.toNat).map (top + ·)
    let c := rows.foldl (fun c y => edge "│" c left y) c
    let c := columns.foldl (fun c x => edge "─" c x top) c
    let c := rows.foldl (fun c y => edge "│" c right y) c
    let c := columns.foldl (fun c x => edge "─" c x bottom) c
    let c := edge "┘" c right bottom
    let c := edge "┐" c right top
    let c := edge "└" c left bottom
    let c := edge "┌" c left top
    c.drawLine ⟨a.x + 1, a.y, Area.less a.width 2, 1⟩ title .left

end Canvas

/-! ## Sheets -/

/-- Text with its place in a column. -/
structure Entry where
  line : Line
  align : Align := .left

/-- A table of text. -/
structure Sheet where
  /-- The number of cells of each column. -/
  widths : List Nat
  /-- The blank cells between columns. -/
  spacing : Nat
  head : List Entry
  rows : List (Style × List Entry)

namespace Sheet

/-- The columns from cell `x` on, each as its first cell and its width. Columns end where there is
no more room. -/
def places (spacing room : Nat) : Nat → List Nat → List (Nat × Nat)
  | _, [] => []
  | x, w :: rest => (x, min w (room - x)) :: places spacing room (x + w + spacing) rest

/-- The first row on the screen, so that the selected one is on it and the screen scrolls no
further than it has to. -/
def firstRow (count offset selected height : Nat) : Nat :=
  min (max (min offset (count - 1)) (selected + 1 - height)) selected

/-- Draws the cells of a row. -/
def drawEntries (s : Sheet) (c : Canvas) (a : Area) (entries : List Entry) : Canvas :=
  ((places s.spacing a.width.toNat 0 s.widths).zip entries).foldl (fun c ((x, w), e) =>
    c.drawLine ⟨a.x + .ofNat x, a.y, .ofNat w, a.height⟩ e.line e.align) c

/-- Draws a sheet in an area, and tells which row is the first on the screen. -/
def draw (s : Sheet) (c : Canvas) (a : Area) (offset : Nat) (selected : Option Nat) :
    Canvas × Nat :=
  if a.isEmpty then (c, offset)
  else
    let (head, body) := a.splitTop 1
    let c := s.drawEntries (c.restyle head .columns) head s.head
    match selected with
    | none => (c, offset)
    | some selected =>
      let height := body.height.toNat
      let first := firstRow s.rows.length offset selected height
      let shown := ((s.rows.zipIdx).drop first).take height
      let c := shown.foldl (fun c ((style, entries), i) =>
        let row : Area := ⟨body.x, body.y + .ofNat (i - first), body.width, 1⟩
        let c := s.drawEntries (c.restyle row style) row entries
        if i = selected then c.restyle row .selected else c) c
      (c, first)

end Sheet

end ResourceBrowser.Screen
