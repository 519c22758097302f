import ResourceBrowser.Number.Word
import ResourceBrowser.Screen.State

/-!
# Areas of the screen

A terminal counts its columns and rows in words of 16 bits, and so do the areas here. The module
also places the popups: one for the help, which grows with the screen, and one for popups that ask
for a size of their own. Where a word cannot hold what a popup is computed from, there is none.
-/

namespace ResourceBrowser.Screen

open Number

/-- A rectangle of cells. -/
structure Area where
  x : UInt16
  y : UInt16
  width : UInt16
  height : UInt16
deriving DecidableEq, Repr, Inhabited

namespace Area

/-- True for an area without cells. -/
def isEmpty (a : Area) : Bool := a.width == 0 || a.height == 0

/-- The first column on the right of the area. -/
def right (a : Area) : Nat := a.x.toNat + a.width.toNat

/-- The first row below the area. -/
def bottom (a : Area) : Nat := a.y.toNat + a.height.toNat

/-- True for the cells of the area. -/
def has (a : Area) (x y : Nat) : Bool :=
  a.x.toNat ≤ x && x < a.right && a.y.toNat ≤ y && y < a.bottom

/-- The difference of two sizes, zero if there is none left. -/
def less (size taken : UInt16) : UInt16 := size - min size taken

/-- The area without a border of one cell. -/
def inner (a : Area) : Area :=
  ⟨a.x + min a.width 1, a.y + min a.height 1, less a.width 2, less a.height 2⟩

/-- Cuts the first rows off: the cut part, and the rest. -/
def splitTop (a : Area) (rows : UInt16) : Area × Area :=
  let rows := min rows a.height
  ({ a with height := rows }, { a with y := a.y + rows, height := a.height - rows })

/-- The area of a given size in the middle. The size does not exceed that of the area. -/
def center? (a : Area) (width height : UInt16) : Option Area := do
  let x ← sum16? a.x (less a.width width / 2)
  let y ← sum16? a.y (less a.height height / 2)
  some ⟨x, y, width, height⟩

/-! ## Popups -/

/-- A value between bounds. -/
def clamp (n low high : UInt16) : UInt16 := min (max n low) high

/-- So many hundredths of a size, within bounds. -/
def share? (size percent low high : UInt16) : Option UInt16 :=
  (product16? size percent).map fun n => clamp (n / 100) low high

/-- The help: three fifths of the width and four fifths of the height, within bounds. -/
def helpPopup? (a : Area) : Option Area := do
  let width ← share? a.width 60 40 80
  let height ← share? a.height 80 10 30
  a.center? (min width a.width) (min height a.height)

/-- A popup of a given size, with two cells left free on every side. -/
def popup? (a : Area) (width height : UInt16) : Option Area :=
  a.center? (min width (less a.width 4)) (min height (less a.height 4))

/-- The question whether to quit. -/
def quitPopup? (a : Area) : Option Area := a.popup? 36 5

/-- The popup of a given width for a list of so many lines and some more. -/
def listPopup? (a : Area) (width : UInt16) (lines : Nat) (more : UInt16) : Option Area :=
  (sum16? (.ofNat lines) more).bind (a.popup? width)

/-- The list of so many tunnels. -/
def tunnelsPopup? (a : Area) (tunnels : Nat) : Option Area := a.listPopup? 96 tunnels 5

/-- The dialog with so many candidates. -/
def forwardPopup? (a : Area) (candidates : Nat) : Option Area := a.listPopup? 64 candidates 9

end Area

/-- The parts of the screen, from top to bottom. -/
structure Panes where
  header : Area
  hints : Area
  table : Area
  prompt : Area
deriving DecidableEq, Repr

/-- The parts of a screen. The table takes what the three lines around it leave, but at least three
rows if there are as many. -/
def Area.panes (a : Area) : Panes :=
  let table := max (less a.height 3) (min a.height 3)
  let (top, rest) := a.splitTop (min (a.height - table) 2)
  let (header, hints) := top.splitTop 1
  let (table, prompt) := rest.splitTop table
  ⟨header, hints, table, prompt⟩

/-- How many rows a table in an area shows: its border and its header take three. -/
def Area.pageSize (a : Area) : Nat := max (less a.height 3).toNat 1

end ResourceBrowser.Screen
