import ResourceBrowser.Number.Decimal

/-!
# Quantities

Cell values that count as numbers: plain numbers, percentages, and amounts with a unit suffix
such as `250m` or `512Mi`.
-/

namespace ResourceBrowser.Number

open Text

/-- A unit suffix: the number before it is multiplied, then divided. -/
structure Unit where
  suffix : String
  factor : Float
  divisor : Float

/-- The unit suffixes, in the order in which they are tried. -/
def units : List Unit := [
  ⟨"Ki", 1024, 1⟩,
  ⟨"Mi", 1048576, 1⟩,
  ⟨"Gi", 1073741824, 1⟩,
  ⟨"Ti", 1099511627776, 1⟩,
  ⟨"%", 1, 1⟩,
  ⟨"m", 1, 1000⟩,
  ⟨"k", 1000, 1⟩,
  ⟨"M", 1000000, 1⟩,
  ⟨"G", 1000000000, 1⟩,
  ⟨"T", 1000000000000, 1⟩]

/-- Reads a number with the given unit behind it. The number itself has to be finite. -/
def readWithUnit? (cs : List Char) (u : Unit) : Option Float := do
  let number ← dropTail? u.suffix.toList cs
  let v ← readFloat? number
  if v.isFinite then some (v * u.factor / u.divisor) else none

/-- Reads a cell value as a quantity. -/
def readQuantity? (value : String) : Option Float :=
  let cs := trimChars value.toList
  match readFloat? cs with
  | some v => if v.isFinite then some v else none
  | none => units.findSome? (readWithUnit? cs)

/-- The order of cell values: quantities by size and before everything else, the rest by code
points. -/
def compareValues (a b : String) : Ordering :=
  match readQuantity? a, readQuantity? b with
  | some x, some y => compare (totalKey x) (totalKey y)
  | some _, none => .lt
  | none, some _ => .gt
  | none, none => compareOfLessAndEq a b

end ResourceBrowser.Number
