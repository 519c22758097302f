import ResourceBrowser.Text.Blank

/-!
# Decimal numbers

Reading decimal text: whole numbers, and fractions with an exponent as double-precision numbers.
-/

namespace ResourceBrowser.Number

/-- The value of a decimal digit. -/
def digitValue (c : Char) : Nat := c.toNat - '0'.toNat

/-- The number written by decimal digits. -/
def ofDigits (digits : List Char) : Nat :=
  digits.foldl (fun n c => n * 10 + digitValue c) 0

/-- Reads a whole number without a sign. -/
def readNat? (digits : List Char) : Option Nat :=
  if digits.isEmpty || !digits.all Char.isDigit then none else some (ofDigits digits)

/-- Takes a sign off the front; true stands for minus. -/
def takeSign : List Char → Bool × List Char
  | '-' :: cs => (true, cs)
  | '+' :: cs => (false, cs)
  | cs => (false, cs)

/-- Reads a whole number below `bound`, which may carry a plus sign. -/
def readBelow? (bound : Nat) (cs : List Char) : Option Nat :=
  let digits := match cs with
    | '+' :: rest => rest
    | _ => cs
  (readNat? digits).filter (· < bound)

/-- The exponent at the end of a number: nothing, or `e` and a whole number. -/
def readExponent? : List Char → Option Int
  | [] => some 0
  | c :: cs =>
    if c == 'e' || c == 'E' then
      let (negative, digits) := takeSign cs
      (readNat? digits).map fun n => if negative then -(n : Int) else n
    else none

/-- A decimal number: `digits` times ten to the power `exponent`. -/
structure Decimal where
  digits : Nat
  exponent : Int
deriving DecidableEq, Repr

/-- Reads digits, at most one point among them, and an exponent. -/
def readDecimal? (cs : List Char) : Option Decimal :=
  let whole := cs.takeWhile Char.isDigit
  let rest := cs.dropWhile Char.isDigit
  let (fraction, rest) := match rest with
    | '.' :: more => (more.takeWhile Char.isDigit, more.dropWhile Char.isDigit)
    | _ => ([], rest)
  if whole.isEmpty && fraction.isEmpty then none
  else (readExponent? rest).map fun e => ⟨ofDigits (whole ++ fraction), e - fraction.length⟩

/-- The double-precision number nearest to a decimal number. Magnitudes far out of range are
settled without computing the power of ten. -/
def Decimal.toFloat (d : Decimal) : Float :=
  let magnitude : Int := (Nat.toDigits 10 d.digits).length + d.exponent
  if d.digits = 0 || magnitude < -400 then 0
  else if 400 < magnitude then 1 / 0
  else Float.ofScientific d.digits (d.exponent < 0) d.exponent.natAbs

/-- Reads a double-precision number: a decimal number with a sign, or the name of infinity or of
the undefined value. -/
def readFloat? (cs : List Char) : Option Float :=
  let (negative, rest) := takeSign cs
  let size :=
    match readDecimal? rest with
    | some d => some d.toFloat
    | none =>
      let name := rest.map Char.toLower
      if name == "inf".toList || name == "infinity".toList then some (1 / 0)
      else if name == "nan".toList then some (0 / 0)
      else none
  size.map fun x => if negative then -x else x

/-- The bit of a double-precision number that holds its sign. -/
def signBit : Nat := 0x8000000000000000

/-- The place of a double-precision number in the order in which negative zero comes before zero
and no two different bit patterns are equal. -/
def totalKey (x : Float) : Int :=
  let bits := x.toBits.toNat
  if bits < signBit then bits else -((bits - signBit : Nat) : Int) - 1

end ResourceBrowser.Number
