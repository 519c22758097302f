/-!
# Hexadecimal digits

The values of hexadecimal digits and of runs of them.
-/

namespace ResourceBrowser.Text

/-- The value of a hexadecimal digit in lower case; other characters count as zero. -/
def hexDigit (c : Char) : Nat :=
  if '0' ≤ c && c ≤ '9' then c.toNat - '0'.toNat
  else if 'a' ≤ c && c ≤ 'f' then c.toNat - 'a'.toNat + 10
  else 0

/-- The number written by hexadecimal digits in lower case. -/
def hexNumber (s : String) : Nat :=
  s.toList.foldl (fun n c => n * 16 + hexDigit c) 0

/-- True for a hexadecimal digit of either case. -/
def isHexDigit (c : Char) : Bool :=
  c.isDigit || ('a' ≤ c && c ≤ 'f') || ('A' ≤ c && c ≤ 'F')

/-- The number written by hexadecimal digits of either case. -/
def hexValue (digits : List Char) : Nat :=
  digits.foldl (fun n c => n * 16 + hexDigit c.toLower) 0

/-- The last two hexadecimal digits of a number. -/
def hexPair (n : Nat) : List Char := [Nat.digitChar (n / 16 % 16), Nat.digitChar (n % 16)]

/-- The last sixteen hexadecimal digits of a number. -/
def hexWord (n : Nat) : String :=
  .ofList ((List.range 16).reverse.map fun i => Nat.digitChar ((n >>> (4 * i)) % 16))

end ResourceBrowser.Text
