/-!
# Checked words

Sums, differences and products of machine words that are there only if a word can hold them. Where
one is not, the program stops.
-/

namespace ResourceBrowser.Number

/-- The word with the value `n`, if words go as far as that. -/
def ifFits {α : Type} (size : Nat) (ofNat : Nat → α) (n : Nat) : Option α :=
  if n < size then some (ofNat n) else none

def sum16? (a b : UInt16) : Option UInt16 := ifFits UInt16.size .ofNat (a.toNat + b.toNat)

def product16? (a b : UInt16) : Option UInt16 := ifFits UInt16.size .ofNat (a.toNat * b.toNat)

def sum32? (a b : UInt32) : Option UInt32 := ifFits UInt32.size .ofNat (a.toNat + b.toNat)

def difference32? (a b : UInt32) : Option UInt32 := if b ≤ a then some (a - b) else none

def sum64? (a b : UInt64) : Option UInt64 := ifFits UInt64.size .ofNat (a.toNat + b.toNat)

def product64? (a b : UInt64) : Option UInt64 := ifFits UInt64.size .ofNat (a.toNat * b.toNat)

end ResourceBrowser.Number
