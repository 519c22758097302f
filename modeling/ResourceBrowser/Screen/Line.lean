import ResourceBrowser.Screen.Canvas

/-!
# Lines of styled text

Lines are made of spans, each in one style. A line that is too long for its place is cut, or broken
into rows between words.
-/

namespace ResourceBrowser.Screen

open Text Table

/-- A piece of text in one style. -/
structure Span where
  text : String
  style : Style := {}
deriving DecidableEq, Repr, Inhabited

/-- A line of text. -/
abbrev Line := List Span

/-- Glyphs in their styles. -/
abbrev Run := List (Glyph × Style)

/-- The number of cells that a run fills. -/
def Run.width (r : Run) : Nat := r.foldr (fun p n => p.1.width + n) 0

namespace Line

/-- The glyphs of a line. -/
def glyphs (l : Line) : Run :=
  l.flatMap fun span => (Text.glyphs span.text).map fun g => (g, span.style)

/-- The number of cells that a line asks for. -/
def width (l : Line) : Nat := l.foldr (fun span n => Text.width span.text + n) 0

/-- A text as one line in the style of its place; its line breaks are left out. -/
def ofText (text : String) : Line := (splitAll '\n' text.toList).map fun part => ⟨.ofList part, {}⟩

end Line

/-! ## Cutting -/

/-- The glyphs from a column on, and by how much the first of them starts later than there. -/
def Run.after : Run → Nat → Run × Nat
  | [], _ => ([], 0)
  | (g, s) :: rest, skip =>
    if skip = 0 then ((g, s) :: rest, 0)
    else if g.width ≤ skip then Run.after rest (skip - g.width)
    else (rest, g.width - skip)

/-- The glyphs that fit into so many cells. -/
def Run.fitting (cells : Nat) : Run → Run
  | [] => []
  | (g, s) :: rest =>
    if g.width ≤ cells then (g, s) :: Run.fitting (cells - g.width) rest else []

/-- Draws a line in the row of an area. A line that is too long shows the part that its alignment
asks for. -/
def Canvas.drawLine (c : Canvas) (a : Area) (l : Line) (align : Align) : Canvas :=
  let room := a.width.toNat
  let spare := room - l.width
  let excess := l.width - room
  let (indent, skip) := match align with
    | .left => (0, 0)
    | .center => (spare / 2, excess / 2)
    | .right => (spare, excess)
  let (run, late) := Run.after l.glyphs skip
  if a.isEmpty then c
  else c.write (a.x.toNat + indent + late) a.y.toNat a.right run

/-! ## Paragraphs -/

/-- Draws rows of glyphs from the top of an area. -/
def Canvas.drawRows (c : Canvas) (a : Area) (rows : List Run) (centered : Bool) : Canvas :=
  let room := a.width.toNat
  (rows.take a.height.toNat).zipIdx.foldl (fun c (run, i) =>
    let run := Run.fitting room run
    let indent := if centered then room / 2 - Run.width run / 2 else 0
    c.write (a.x.toNat + indent) (a.y.toNat + i) a.right run) c

/-- Draws lines from the top of an area; what is too long is cut. -/
def Canvas.drawLines (c : Canvas) (a : Area) (lines : List Line) (centered : Bool) : Canvas :=
  c.drawRows a (lines.map Line.glyphs) centered

/-! ## Breaking -/

/-- How far a line is broken into rows. -/
structure Breaking where
  /-- The finished rows, the last one first. -/
  rows : List Run := []
  /-- The row that is being filled. -/
  row : Run := []
  /-- The blanks after the row. -/
  blanks : Run := []
  /-- The word after the blanks. -/
  word : Run := []
  /-- The last glyph was part of a word. -/
  inWord : Bool := false

namespace Breaking

/-- Moves the blanks and the word into the row. -/
def join (b : Breaking) : Breaking :=
  { b with row := b.row ++ b.blanks ++ b.word, blanks := [], word := [] }

/-- Drops the blanks that fit into the rest of a row. -/
def dropBlanks (room : Nat) : Run → Run
  | [] => []
  | (g, s) :: rest => if g.width ≤ room then dropBlanks (room - g.width) rest else (g, s) :: rest

/-- Finishes the row, which takes the blanks after it as far as they fit. -/
def finishRow (b : Breaking) (room : Nat) : Breaking :=
  { b with
    rows := b.row :: b.rows
    row := []
    blanks := dropBlanks (room - Run.width b.row) b.blanks }

/-- Adds a glyph to the blanks or to the word. -/
def add (b : Breaking) (g : Glyph) (s : Style) : Breaking :=
  if g.isBreak then { b with blanks := b.blanks ++ [(g, s)], inWord := false }
  else { b with word := b.word ++ [(g, s)], inWord := true }

/-- Takes the next glyph of a line into rows of `room` cells. The blank that a row ends at is left
out, and a word that no row has room for is cut. -/
def step (room : Nat) (b : Breaking) : Glyph × Style → Breaking
  | (g, s) =>
    if room < g.width then b
    else
      let long := b.row.isEmpty && room < Run.width b.word + Run.width b.blanks + g.width
      let b := if (b.inWord && g.isBreak) || long then b.join else b
      let used := Run.width b.row
      let full := 0 < g.width && room ≤ used + Run.width b.blanks + Run.width b.word
      if room ≤ used || full then
        let b := b.finishRow room
        if g.isBreak && b.blanks.isEmpty then b else b.add g s
      else b.add g s

/-- The rows of a line after its last glyph. -/
def finish (b : Breaking) : List Run :=
  let rows := if b.row.isEmpty && b.word.isEmpty && !b.blanks.isEmpty then [] :: b.rows else b.rows
  let last := b.join.row
  let rows := if last.isEmpty then rows else last :: rows
  if rows.isEmpty then [[]] else rows.reverse

end Breaking

/-- The rows of a line that is broken at `room` cells. -/
def Line.breakAt (room : Nat) (l : Line) : List Run :=
  if room = 0 then [] else (l.glyphs.foldl (Breaking.step room) {}).finish

end ResourceBrowser.Screen
