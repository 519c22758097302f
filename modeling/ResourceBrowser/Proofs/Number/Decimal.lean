import Mathlib.Logic.Function.Defs
import ResourceBrowser.Number.Decimal

/-!
# Decimal texts

Reading decimal digits undoes writing them, and the order of the numbers that are read is one of
their bits.

* `ofDigits_toDigits`, `isDigit_of_mem_toDigits`: the digits of a number, read back.
* `toString_injective`: different numbers have different texts.
* `readBelow?_of_digits`: whole numbers with a bound, read from any digits.
* `TotallyBefore`: the total order of double-precision numbers, `totalKey_lt_iff`.
-/

namespace ResourceBrowser.Number

/-! ## Digits -/

theorem ofDigits_eq_ofDigitChars (digits : List Char) :
    ofDigits digits = Nat.ofDigitChars 10 digits 0 := by
  unfold ofDigits Nat.ofDigitChars digitValue
  simp only [Nat.mul_comm]

/-- The digits of a number are read as that number. -/
theorem ofDigits_toDigits (n : Nat) : ofDigits (Nat.toDigits 10 n) = n := by
  rw [ofDigits_eq_ofDigitChars, Nat.ofDigitChars_toDigits (by decide) (by decide)]

theorem isDigit_of_mem_toDigits {n : Nat} {c : Char} (h : c ∈ Nat.toDigits 10 n) :
    c.isDigit = true :=
  Nat.isDigit_of_mem_toDigits (by decide) (by decide) h

/-- Different numbers have different texts. -/
theorem toString_injective : Function.Injective (toString : Nat → String) := by
  intro m n h
  have hread := congrArg (fun text => ofDigits text.toList) h
  simpa [Nat.toString_eq_repr, ofDigits_toDigits] using hread

/-- A text of digits that is not empty reads as its number, if that is below the bound. -/
theorem readBelow?_of_digits {bound : Nat} {digits : List Char} (hne : digits ≠ [])
    (hdigits : ∀ c ∈ digits, c.isDigit = true) : readBelow? bound digits =
      (some (Nat.ofDigitChars 10 digits 0)).filter (· < bound) := by
  have hread : readNat? digits = some (Nat.ofDigitChars 10 digits 0) := by
    have hall : digits.all Char.isDigit = true := List.all_eq_true.2 hdigits
    unfold readNat?
    rw [hall, ← ofDigits_eq_ofDigitChars]
    simp [hne]
  unfold readBelow?
  split
  · -- a sign is no digit
    exact absurd (hdigits '+' List.mem_cons_self) (by decide)
  · dsimp only
    rw [hread]

/-! ## The order of double-precision numbers -/

/-- The number has a minus sign, as negative zero does. -/
def HasMinus (x : Float) : Prop := signBit ≤ x.toBits.toNat

/-- `x` is before `y` in the total order of double-precision numbers. What has a minus sign comes
first, and the bits count up without a minus sign and down with one. -/
def TotallyBefore (x y : Float) : Prop :=
  HasMinus x ∧ ¬HasMinus y ∨
    ¬HasMinus x ∧ ¬HasMinus y ∧ x.toBits < y.toBits ∨
    HasMinus x ∧ HasMinus y ∧ y.toBits < x.toBits

theorem totalKey_lt_iff {x y : Float} : totalKey x < totalKey y ↔ TotallyBefore x y := by
  unfold totalKey TotallyBefore HasMinus
  rw [UInt64.lt_iff_toNat_lt, UInt64.lt_iff_toNat_lt]
  dsimp only
  split
  · split <;> omega
  · split <;> omega

theorem totalKey_eq_iff {x y : Float} : totalKey x = totalKey y ↔ x.toBits = y.toBits := by
  unfold totalKey
  rw [← UInt64.toNat_inj]
  dsimp only
  split
  · split <;> omega
  · split <;> omega

end ResourceBrowser.Number
