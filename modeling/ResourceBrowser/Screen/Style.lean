import ResourceBrowser.Screen.State
import ResourceBrowser.Table.Grid

/-!
# Styles

The colors of the screen. A style changes some properties of a cell and leaves the others as they
are, so the last of several styles wins property by property.
-/

namespace ResourceBrowser.Screen

/-- A color of the terminal. -/
inductive Ink where
  | reset
  | red
  | green
  | yellow
  | blue
  | cyan
  | gray
  | darkGray
  | lightBlue
  | lightCyan
  | white
deriving DecidableEq, Repr, Inhabited

/-- The name of a color. -/
def Ink.name : Ink → String
  | .reset => "Reset"
  | .red => "Red"
  | .green => "Green"
  | .yellow => "Yellow"
  | .blue => "Blue"
  | .cyan => "Cyan"
  | .gray => "Gray"
  | .darkGray => "DarkGray"
  | .lightBlue => "LightBlue"
  | .lightCyan => "LightCyan"
  | .white => "White"

/-- A change of the properties of cells. -/
structure Style where
  fore : Option Ink := none
  back : Option Ink := none
  bold : Bool := false
deriving DecidableEq, Repr, Inhabited

namespace Style

/-- A color of the text. -/
def ink (color : Ink) : Style := { fore := some color }

/-- Plain text of the table. -/
def plain : Style := { fore := some .white, back := some .reset }

/-- The name of the program. -/
def banner : Style := { fore := some .white, back := some .blue, bold := true }

/-- The selected row. -/
def selected : Style := { back := some .darkGray, bold := true }

/-- The names of the columns. -/
def columns : Style := { fore := some .white, bold := true }

/-- Text of less weight. -/
def dim : Style := ink .darkGray

/-- Names of keys. -/
def key : Style := ink .yellow

/-- Borders. -/
def border : Style := ink .cyan

/-- A row of the table. -/
def ofColor : Table.Color → Style
  | .std => plain
  | .added => ink .lightBlue
  | .modified => ink .yellow
  | .pending => ink .darkGray
  | .completed => ink .gray
  | .error => ink .red
  | .marked => { fore := some .lightCyan, bold := true }

/-- A message. -/
def ofLevel : Level → Style
  | .info => { fore := some .green, bold := true }
  | .warn => { fore := some .yellow, bold := true }
  | .error => { fore := some .red, bold := true }

end Style

end ResourceBrowser.Screen
