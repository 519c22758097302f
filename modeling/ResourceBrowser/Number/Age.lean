import ResourceBrowser.Number.Decimal

/-!
# Ages

Ages as people read them, with less precision the longer they are: `95s`, `3m20s`, `5h`, `2d3h`,
`40d`. Such texts are read back to put rows in order of age.
-/

namespace ResourceBrowser.Number

open Text

def minute : Nat := 60
def hour : Nat := 60 * minute
def day : Nat := 24 * hour
def year : Nat := 365 * day

/-- Stands for the age of something without a creation time. -/
def unknownAge : String := "<unknown>"

/-- A number of units, followed by a number of smaller ones unless that is zero. -/
def twoUnits (n : Nat) (unit : String) (m : Nat) (smaller : String) : String :=
  if m = 0 then toString n ++ unit else toString n ++ unit ++ toString m ++ smaller

/-- The text of a duration in seconds. -/
def durationText (secs : Nat) : String :=
  if secs < 2 * minute then toString secs ++ "s"
  else if secs < 10 * minute then twoUnits (secs / minute) "m" (secs % minute) "s"
  else if secs < 3 * hour then toString (secs / minute) ++ "m"
  else if secs < 8 * hour then twoUnits (secs / hour) "h" (secs % hour / minute) "m"
  else if secs < 48 * hour then toString (secs / hour) ++ "h"
  else if secs < 8 * day then twoUnits (secs / day) "d" (secs % day / hour) "h"
  else if secs < 2 * year then toString (secs / day) ++ "d"
  else if secs < 8 * year then twoUnits (secs / year) "y" (secs % year / day) "d"
  else toString (secs / year) ++ "y"

/-- The nanoseconds of a second. -/
def secondNanos : Nat := 1000000000

/-- The text of the time from `created` to `now`, both in nanoseconds. What lies in the future
has the age zero. -/
def ageText (created : Option Int) (now : Int) : String :=
  match created with
  | none => unknownAge
  | some t =>
    let secs := (now - t).tdiv secondNanos
    if secs < 0 then "0s" else durationText secs.toNat

/-- The seconds in a unit. -/
def unitSeconds? (c : Char) : Option Nat :=
  match c with
  | 'y' => some year
  | 'd' => some day
  | 'h' => some hour
  | 'm' => some minute
  | 's' => some 1
  | _ => none

/-- The bound on the numbers in an age and on their total. -/
def ageBound : Nat := UInt64.size

/-- Reads pairs of a number and a unit; `digits` are the digits of the number being read, the
latest first, and `total` is the sum of the pairs before it. -/
def readPairs? (digits : List Char) (total : Nat) : List Char → Option Nat
  | [] => if digits.isEmpty then some total else none
  | c :: cs =>
    if c.isDigit then readPairs? (c :: digits) total cs
    else if digits.isEmpty then none
    else
      let n := ofDigits digits.reverse
      match unitSeconds? c with
      | none => none
      | some unit =>
        if n < ageBound && n * unit < ageBound && total + n * unit < ageBound then
          readPairs? [] (total + n * unit) cs
        else none

/-- Reads an age as a number of seconds. -/
def readAge? (text : String) : Option Nat :=
  match trimChars text.toList with
  | [] => none
  | cs => readPairs? [] 0 cs

end ResourceBrowser.Number
