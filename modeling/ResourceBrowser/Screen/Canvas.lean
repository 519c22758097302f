import ResourceBrowser.Screen.Area
import ResourceBrowser.Screen.Style
import ResourceBrowser.Text.Width

/-!
# The canvas

The cells of a screen while it is drawn. What is drawn later covers what was drawn before, and
nothing is drawn outside the canvas.
-/

namespace ResourceBrowser.Screen

open Text

/-- What a cell of the screen shows. -/
structure Spot where
  symbol : String := " "
  fore : Ink := .reset
  back : Ink := .reset
  bold : Bool := false
deriving DecidableEq, Repr, Inhabited

/-- The same in another style. -/
def Spot.restyle (spot : Spot) (s : Style) : Spot :=
  { spot with
    fore := s.fore.getD spot.fore
    back := s.back.getD spot.back
    bold := spot.bold || s.bold }

/-- The cells of a screen, row by row. -/
structure Canvas where
  width : Nat
  height : Nat
  cells : Array Spot
  size_eq : cells.size = width * height

namespace Canvas

/-- A canvas of blank cells. -/
def blank (width height : Nat) : Canvas :=
  ⟨width, height, .replicate (width * height) {}, by simp⟩

instance : Inhabited Canvas := ⟨blank 0 0⟩

/-- The cell in a column and a row. -/
def cell? (c : Canvas) (x y : Nat) : Option Spot :=
  if x < c.width then c.cells[y * c.width + x]? else none

/-- The cells of a row. -/
def row (c : Canvas) (y : Nat) : List Spot := (List.range c.width).filterMap fun x => c.cell? x y

/-- Changes a cell. -/
def modify (c : Canvas) (x y : Nat) (f : Spot → Spot) : Canvas :=
  if x < c.width then
    { c with
      cells := c.cells.modify (y * c.width + x) f
      size_eq := by simp [c.size_eq] }
  else c

/-- Changes every cell of an area. -/
def modifyArea (c : Canvas) (a : Area) (f : Spot → Spot) : Canvas :=
  { c with
    cells := c.cells.mapIdx fun i cell => if a.has (i % c.width) (i / c.width) then f cell else cell
    size_eq := by simp [c.size_eq] }

/-- Gives an area another style. -/
def restyle (c : Canvas) (a : Area) (s : Style) : Canvas := c.modifyArea a (·.restyle s)

/-- Makes an area blank. -/
def clear (c : Canvas) (a : Area) : Canvas := c.modifyArea a fun _ => {}

/-- Puts a glyph into a cell. -/
def put (c : Canvas) (x y : Nat) (symbol : String) (s : Style) : Canvas :=
  c.modify x y fun cell => { cell with symbol }.restyle s

/-- Makes the cells blank that a glyph at a column fills besides its first one. -/
def hide (c : Canvas) (x y width : Nat) : Canvas :=
  (List.range (width - 1)).foldl (fun c i => c.modify (x + 1 + i) y fun _ => {}) c

/-- Writes glyphs from a column on, as long as they end before column `stop`. -/
def write (c : Canvas) (x y stop : Nat) : List (Glyph × Style) → Canvas
  | [] => c
  | (g, s) :: rest =>
    if g.width = 0 then c.write x y stop rest
    else if x + g.width ≤ stop then
      ((c.put x y g.symbol s).hide x y g.width).write (x + g.width) y stop rest
    else c

end Canvas

end ResourceBrowser.Screen
