import Mathlib.Data.List.Basic
import ResourceBrowser.Proofs.Number.Age

/-!
# Texts that are ages

A text is read as an age exactly if it consists of numbers, at least one, that are each followed by
the letter of a unit, and if nothing that is counted while it is read leaves 64 bits. Blanks around
the text do not matter. The age is the sum of the numbers, each taken in its unit.

The digits that the reader keeps are the beginning of the number in the text that comes next, so
what is still to be read together with them is a text of the same form. This carries the induction
over the text; the other direction is an induction over the numbers.

* `AgePart`: a number and its unit, `ageChars`: the text of several, `ageChars_injective`.
* `InBounds`: nothing that is counted on the way is too large, `inBounds_cons_iff`.
* `readPairs?_eq_some_iff`: what is read from the characters, and with which total.
* `SpellsAge`: the texts that are ages, `readAge?_eq_some_iff`.
-/

namespace ResourceBrowser.Number

open Text

/-! ## Numbers with units -/

/-- The units that ages are counted in. -/
inductive AgeUnit where
  | year
  | day
  | hour
  | minute
  | second
deriving DecidableEq, Repr

namespace AgeUnit

/-- The letter that stands for a unit. -/
def letter : AgeUnit → Char
  | year => 'y'
  | day => 'd'
  | hour => 'h'
  | minute => 'm'
  | second => 's'

/-- The seconds in a unit; a year has 365 days. -/
def seconds : AgeUnit → Nat
  | year => 365 * 24 * 60 * 60
  | day => 24 * 60 * 60
  | hour => 60 * 60
  | minute => 60
  | second => 1

theorem letter_injective : Function.Injective letter := by
  intro u v h
  cases u <;> cases v <;> simp_all [letter]

end AgeUnit

theorem unitSeconds?_letter (u : AgeUnit) : unitSeconds? u.letter = some u.seconds := by
  cases u <;> rfl

/-- The letters of the units are the only ones that stand for a number of seconds. -/
theorem exists_unit {c : Char} {n : Nat} (h : unitSeconds? c = some n) :
    ∃ u : AgeUnit, u.letter = c ∧ u.seconds = n := by
  unfold unitSeconds? at h
  split at h
  · exact ⟨.year, rfl, Option.some.inj h⟩
  · exact ⟨.day, rfl, Option.some.inj h⟩
  · exact ⟨.hour, rfl, Option.some.inj h⟩
  · exact ⟨.minute, rfl, Option.some.inj h⟩
  · exact ⟨.second, rfl, Option.some.inj h⟩
  · cases h

/-- A number of units as a text has it, by its digits. There may be zeros in front. -/
@[ext]
structure AgePart where
  digits : List Char
  unit : AgeUnit
  digits_ne_nil : digits ≠ []
  isDigit_of_mem : ∀ c ∈ digits, c.isDigit = true

namespace AgePart

def number (p : AgePart) : Nat := ofDigits p.digits

def seconds (p : AgePart) : Nat := p.number * p.unit.seconds

/-- The number and the letter of its unit. -/
def chars (p : AgePart) : List Char := p.digits ++ [p.unit.letter]

end AgePart

/-- The text of some numbers with units. -/
def ageChars (parts : List AgePart) : List Char := parts.flatMap AgePart.chars

/-- The sum of some numbers, each taken in its unit. -/
def totalSeconds (parts : List AgePart) : Nat := parts.foldr (fun p n => p.seconds + n) 0

theorem ageChars_cons (p : AgePart) (parts : List AgePart) :
    ageChars (p :: parts) = p.digits ++ p.unit.letter :: ageChars parts := by
  rw [ageChars, List.flatMap_cons, AgePart.chars, List.append_assoc]
  rfl

theorem totalSeconds_cons (p : AgePart) (parts : List AgePart) :
    totalSeconds (p :: parts) = p.seconds + totalSeconds parts := rfl

theorem ageChars_eq_nil_iff {parts : List AgePart} : ageChars parts = [] ↔ parts = [] := by
  cases parts with
  | nil => exact iff_of_true rfl rfl
  | cons p parts => simp [ageChars_cons]

/-- A number ends where the letter of its unit stands. -/
theorem takeWhile_chars (p : AgePart) (rest : List Char) :
    (p.digits ++ p.unit.letter :: rest).takeWhile Char.isDigit = p.digits := by
  have hletter := (unit_letter (unitSeconds?_letter p.unit)).1
  rw [List.takeWhile_append_of_pos p.isDigit_of_mem,
    List.takeWhile_cons_of_neg (Bool.eq_false_iff.1 hletter), List.append_nil]

/-- A text is made of numbers with units in one way only. -/
theorem ageChars_injective : Function.Injective ageChars := by
  intro parts
  induction parts with
  | nil => exact fun parts' h => (ageChars_eq_nil_iff.1 h.symm).symm
  | cons p parts ih =>
    intro parts' h
    cases parts' with
    | nil => exact ageChars_eq_nil_iff.1 h
    | cons q parts' =>
      rw [ageChars_cons, ageChars_cons] at h
      have hdigits : p.digits = q.digits := by
        rw [← takeWhile_chars p (ageChars parts), h, takeWhile_chars]
      rw [hdigits] at h
      obtain ⟨hletter, hrest⟩ := List.cons.inj (List.append_cancel_left h)
      rw [AgePart.ext hdigits (AgeUnit.letter_injective hletter), ih hrest]

/-! ## What is counted on the way -/

/-- Nothing is too large of what is counted while the numbers are added to a total. -/
structure InBounds (start : Nat) (parts : List AgePart) : Prop where
  numbers : ∀ p ∈ parts, p.number < ageBound
  products : ∀ p ∈ parts, p.number * p.unit.seconds < ageBound
  totals : ∀ front, front <+: parts → start + totalSeconds front < ageBound

theorem inBounds_nil_iff {start : Nat} : InBounds start [] ↔ start < ageBound := by
  constructor
  · exact fun h => h.totals [] List.prefix_rfl
  · intro h
    refine ⟨fun p hp => absurd hp List.not_mem_nil, fun p hp => absurd hp List.not_mem_nil, ?_⟩
    intro front hfront
    rw [List.prefix_nil.1 hfront]
    exact h

/-- One number is checked and added before those behind it. -/
theorem inBounds_cons_iff {start : Nat} {p : AgePart} {parts : List AgePart} :
    InBounds start (p :: parts) ↔ start < ageBound ∧ p.number < ageBound ∧
      p.seconds < ageBound ∧ InBounds (start + p.seconds) parts := by
  constructor
  · rintro ⟨hnumbers, hproducts, htotals⟩
    refine ⟨htotals [] List.nil_prefix, hnumbers p List.mem_cons_self,
      hproducts p List.mem_cons_self, fun q hq => hnumbers q (List.mem_cons_of_mem p hq),
      fun q hq => hproducts q (List.mem_cons_of_mem p hq), ?_⟩
    intro front hfront
    rw [Nat.add_assoc, ← totalSeconds_cons]
    exact htotals (p :: front) ((List.prefix_cons_inj p).2 hfront)
  · rintro ⟨hstart, hnumber, hproduct, hnumbers, hproducts, htotals⟩
    refine ⟨List.forall_mem_cons.2 ⟨hnumber, hnumbers⟩,
      List.forall_mem_cons.2 ⟨hproduct, hproducts⟩, ?_⟩
    intro front hfront
    rcases List.prefix_cons_iff.1 hfront with rfl | ⟨front, rfl, hrest⟩
    · exact hstart
    · rw [totalSeconds_cons, ← Nat.add_assoc]
      exact htotals front hrest

/-! ## Reading -/

/-- Numbers with units that can be counted are read. -/
theorem readPairs?_ageChars {total : Nat} {parts : List AgePart} (h : InBounds total parts) :
    readPairs? [] total (ageChars parts) = some (total + totalSeconds parts) := by
  induction parts generalizing total with
  | nil => rfl
  | cons p parts ih =>
    obtain ⟨-, -, -, hrest⟩ := inBounds_cons_iff.1 h
    have htotal : total + p.seconds < ageBound := hrest.totals [] List.nil_prefix
    calc readPairs? [] total (ageChars (p :: parts))
      _ = readPairs? [] (total + p.seconds) (ageChars parts) := by
        rw [ageChars_cons]
        exact readPairs?_number p.digits_ne_nil p.isDigit_of_mem (unitSeconds?_letter p.unit)
          htotal _
      _ = some (total + totalSeconds (p :: parts)) := by
        rw [ih hrest, totalSeconds_cons, Nat.add_assoc]

/-- Whatever is read are numbers with units that can be counted. The first of them begins with the
digits that were read before. -/
theorem exists_parts {digits cs : List Char} {total secs : Nat}
    (h : readPairs? digits total cs = some secs) (hdigits : ∀ c ∈ digits, c.isDigit = true)
    (htotal : total < ageBound) : ∃ parts, digits.reverse ++ cs = ageChars parts ∧
      InBounds total parts ∧ total + totalSeconds parts = secs := by
  induction cs generalizing digits total with
  | nil =>
    rw [readPairs?] at h
    split at h
    · rename_i hnone
      rw [List.isEmpty_iff.1 hnone]
      exact ⟨[], rfl, inBounds_nil_iff.2 htotal, Option.some.inj h⟩
    · cases h
  | cons c cs ih =>
    rw [readPairs?] at h
    split at h
    · -- the digit goes to those that were read before
      rename_i hdigit
      obtain ⟨parts, hchars, hparts⟩ := ih h (List.forall_mem_cons.2 ⟨hdigit, hdigits⟩) htotal
      rw [List.reverse_cons, List.append_assoc] at hchars
      exact ⟨parts, hchars, hparts⟩
    split at h
    · cases h
    rename_i hsome
    dsimp only at h
    split at h
    · cases h
    rename_i seconds hunit
    split at h
    · -- the letter ends the number, and the next one begins without digits
      rename_i hbounds
      simp only [Bool.and_eq_true, decide_eq_true_eq] at hbounds
      obtain ⟨⟨hnumber, hproduct⟩, hnext⟩ := hbounds
      obtain ⟨u, rfl, rfl⟩ := exists_unit hunit
      obtain ⟨parts, hchars, hin, hsum⟩ :=
        ih h (fun d hd => absurd hd List.not_mem_nil) hnext
      have hne : digits.reverse ≠ [] := by simpa using hsome
      let p : AgePart := ⟨digits.reverse, u, hne, fun d hd => hdigits d (List.mem_reverse.1 hd)⟩
      refine ⟨p :: parts, ?_, ?_, ?_⟩
      · rw [ageChars_cons, ← hchars]
        rfl
      · exact inBounds_cons_iff.2 ⟨htotal, hnumber, hproduct, hin⟩
      · rw [totalSeconds_cons, ← Nat.add_assoc]
        exact hsum
    · cases h

/-- What is read from characters on top of a total. -/
theorem readPairs?_eq_some_iff {total secs : Nat} (h : total < ageBound) (cs : List Char) :
    readPairs? [] total cs = some secs ↔
      ∃ parts, cs = ageChars parts ∧ InBounds total parts ∧ total + totalSeconds parts = secs := by
  constructor
  · exact fun hread => exists_parts hread (fun d hd => absurd hd List.not_mem_nil) h
  · rintro ⟨parts, rfl, hin, rfl⟩
    exact readPairs?_ageChars hin

theorem readAge?_eq_some_iff_readPairs? {text : String} {secs : Nat} :
    readAge? text = some secs ↔
      trimChars text.toList ≠ [] ∧ readPairs? [] 0 (trimChars text.toList) = some secs := by
  unfold readAge?
  cases trimChars text.toList with
  | nil => simp
  | cons c cs => simp

/-- A text is an age that is given by some numbers with units. -/
structure SpellsAge (text : String) (parts : List AgePart) : Prop where
  /-- There is at least one number. -/
  ne_nil : parts ≠ []
  /-- Without the blanks around it, the text has the numbers and units one after the other. -/
  chars : trimChars text.toList = ageChars parts
  /-- Each number, each number in its unit and each total on the way can be counted. -/
  inBounds : InBounds 0 parts

/-- There are no two ways to take a text as an age. -/
theorem SpellsAge.unique {text : String} {parts parts' : List AgePart}
    (h : SpellsAge text parts) (h' : SpellsAge text parts') : parts = parts' :=
  ageChars_injective (h.chars.symm.trans h'.chars)

/-- A text is read as a number of seconds exactly if it is an age of so many seconds. -/
theorem readAge?_eq_some_iff (text : String) (secs : Nat) :
    readAge? text = some secs ↔ ∃ parts, SpellsAge text parts ∧ totalSeconds parts = secs := by
  rw [readAge?_eq_some_iff_readPairs?, readPairs?_eq_some_iff (by decide)]
  constructor
  · rintro ⟨hne, parts, hchars, hin, hsum⟩
    rw [Nat.zero_add] at hsum
    rw [hchars] at hne
    exact ⟨parts, ⟨fun hnil => hne (ageChars_eq_nil_iff.2 hnil), hchars, hin⟩, hsum⟩
  · rintro ⟨parts, ⟨hne, hchars, hin⟩, hsum⟩
    rw [← Nat.zero_add (totalSeconds parts)] at hsum
    refine ⟨?_, parts, hchars, hin, hsum⟩
    rw [hchars]
    exact fun hnil => hne (ageChars_eq_nil_iff.1 hnil)

/-- The largest total is read, and a second more is not, although both numbers can be counted. -/
example : readAge? " 18446744073709551615s " = some (ageBound - 1) ∧
    readAge? "18446744073709551615s1s" = none := by decide

end ResourceBrowser.Number
