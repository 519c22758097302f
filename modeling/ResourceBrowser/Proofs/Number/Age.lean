import Mathlib.Data.List.Basic
import Mathlib.Tactic.SplitIfs
import ResourceBrowser.Number.Age
import ResourceBrowser.Proofs.Number.Decimal
import ResourceBrowser.Proofs.Text.Blank

/-!
# Ages read back

The text of a duration names it down to a unit that grows with the duration, and leaves out what is
below that unit. Reading the text gives the duration without what was left out, which has the same
text. So texts can stand for durations where only their order matters.

* `rounded`: a duration without what its text leaves out, `rounded_mono`, `durationText_rounded`.
* `readAge?_durationText`: what the text of a duration is read as.
* `ReadsBack`: what the texts of durations keep, `readsBack_of_lt`.
* `ageText_some`, `ageSeconds_anti`: the age of what was created later is not greater.
-/

namespace ResourceBrowser.Number

open Text

/-! ## What the text of a duration leaves out -/

/-- The smallest unit that the text of a duration names. -/
def precision (secs : Nat) : Nat :=
  if secs < 10 * minute then 1
  else if secs < 8 * hour then minute
  else if secs < 8 * day then hour
  else if secs < 8 * year then day
  else year

/-- A duration without what its text leaves out. -/
def rounded (secs : Nat) : Nat := secs / precision secs * precision secs

theorem precision_cases (secs : Nat) :
    secs < 10 * minute ∧ precision secs = 1 ∨
    10 * minute ≤ secs ∧ secs < 8 * hour ∧ precision secs = minute ∨
    8 * hour ≤ secs ∧ secs < 8 * day ∧ precision secs = hour ∨
    8 * day ≤ secs ∧ secs < 8 * year ∧ precision secs = day ∨
    8 * year ≤ secs ∧ precision secs = year := by
  unfold precision
  by_cases h10m : secs < 10 * minute
  · exact .inl ⟨h10m, if_pos h10m⟩
  · rw [if_neg h10m]
    by_cases h8h : secs < 8 * hour
    · exact .inr (.inl ⟨Nat.le_of_not_lt h10m, h8h, if_pos h8h⟩)
    · rw [if_neg h8h]
      by_cases h8d : secs < 8 * day
      · exact .inr (.inr (.inl ⟨Nat.le_of_not_lt h8h, h8d, if_pos h8d⟩))
      · rw [if_neg h8d]
        by_cases h8y : secs < 8 * year
        · exact .inr (.inr (.inr (.inl ⟨Nat.le_of_not_lt h8d, h8y, if_pos h8y⟩)))
        · exact .inr (.inr (.inr (.inr ⟨Nat.le_of_not_lt h8y, if_neg h8y⟩)))

theorem precision_pos (secs : Nat) : 0 < precision secs := by
  rcases precision_cases secs with ⟨-, h⟩ | ⟨-, -, h⟩ | ⟨-, -, h⟩ | ⟨-, -, h⟩ | ⟨-, h⟩ <;>
    rw [h] <;> decide

/-- The smaller unit of a text is named exactly, wherever the text names it. -/
theorem precision_dvd (secs : Nat) : (secs < 8 * hour → precision secs ∣ minute) ∧
    (secs < 8 * day → precision secs ∣ hour) ∧ (secs < 8 * year → precision secs ∣ day) ∧
    precision secs ∣ year := by
  rcases precision_cases secs with ⟨hlt, h⟩ | ⟨hle, hlt, h⟩ | ⟨hle, hlt, h⟩ | ⟨hle, hlt, h⟩ |
    ⟨hle, h⟩
  all_goals
    rw [h]
    unfold year day hour minute at *
    omega

/-- The durations from which on a text has another form. -/
def textLimits : List Nat :=
  [2 * minute, 10 * minute, 3 * hour, 8 * hour, 48 * hour, 8 * day, 2 * year, 8 * year]

/-- Durations that no limit lies between have the same precision. -/
theorem precision_congr {a b : Nat} (h : ∀ limit ∈ textLimits, a < limit ↔ b < limit) :
    precision a = precision b := by
  unfold precision
  refine ite_congr (propext (h _ (by simp [textLimits]))) (fun _ => rfl) fun _ => ?_
  refine ite_congr (propext (h _ (by simp [textLimits]))) (fun _ => rfl) fun _ => ?_
  refine ite_congr (propext (h _ (by simp [textLimits]))) (fun _ => rfl) fun _ => ?_
  exact ite_congr (propext (h _ (by simp [textLimits]))) (fun _ => rfl) fun _ => rfl

theorem rounded_le (secs : Nat) : rounded secs ≤ secs := Nat.div_mul_le_self secs (precision secs)

/-- Rounding respects the limits: each is a whole number of the units that are named next to it. -/
theorem rounded_lt_iff {secs limit : Nat} (hlimit : limit ∈ textLimits) :
    rounded secs < limit ↔ secs < limit := by
  constructor
  · intro hlt
    simp only [textLimits, List.mem_cons, List.not_mem_nil, or_false] at hlimit
    unfold rounded at hlt
    rcases precision_cases secs with ⟨-, h⟩ | ⟨hle, -, h⟩ | ⟨hle, -, h⟩ | ⟨hle, -, h⟩ | ⟨hle, h⟩
    all_goals
      rw [h] at hlt
      unfold year day hour minute at *
      omega
  · exact Nat.lt_of_le_of_lt (rounded_le secs)

/-- Longer durations are not rounded to shorter ones. -/
theorem rounded_mono {a b : Nat} (h : a ≤ b) : rounded a ≤ rounded b := by
  by_cases hlimit : ∃ limit ∈ textLimits, a < limit ∧ limit ≤ b
  · -- a limit between the durations lies between what they are rounded to
    obtain ⟨limit, hmem, ha, hb⟩ := hlimit
    have hrounded : ¬rounded b < limit := by
      rw [rounded_lt_iff hmem]
      exact Nat.not_lt.2 hb
    have hle := rounded_le a
    omega
  · -- without a limit between them, both are rounded to multiples of one unit
    have hsame : precision a = precision b := by
      apply precision_congr
      intro limit hmem
      constructor
      · intro ha
        by_contra hb
        exact hlimit ⟨limit, hmem, ha, Nat.le_of_not_lt hb⟩
      · exact Nat.lt_of_le_of_lt h
    unfold rounded
    rw [hsame]
    exact Nat.mul_le_mul_right _ (Nat.div_le_div_right h)

/-- Rounding does not change how many of a unit there are in a duration that is named down to parts
of that unit. -/
theorem rounded_div {secs unit : Nat} (h : precision secs ∣ unit) :
    rounded secs / unit = secs / unit := by
  obtain ⟨n, rfl⟩ := h
  unfold rounded
  rw [← Nat.div_div_eq_div_mul, ← Nat.div_div_eq_div_mul,
    Nat.mul_div_cancel _ (precision_pos secs)]

theorem rounded_mod_div {secs n smaller : Nat} (h : precision secs ∣ smaller) :
    rounded secs % (n * smaller) / smaller = secs % (n * smaller) / smaller := by
  rw [Nat.mod_mul_left_div_self, Nat.mod_mul_left_div_self, rounded_div h]

/-- What the text of a duration leaves out does not show in the text. -/
theorem durationText_rounded (secs : Nat) : durationText (rounded secs) = durationText secs := by
  have hexact : secs < 10 * minute → rounded secs = secs := by
    intro h
    rw [rounded, precision, if_pos h, Nat.div_one, Nat.mul_one]
  obtain ⟨hminute, hhour, hday, hyear⟩ := precision_dvd secs
  -- the texts have one form, and the numbers in them do not tell the durations apart
  unfold durationText
  refine ite_congr (propext (rounded_lt_iff (by simp [textLimits]))) (fun h => ?_) fun _ => ?_
  · rw [hexact (Nat.lt_trans h (by decide))]
  refine ite_congr (propext (rounded_lt_iff (by simp [textLimits]))) (fun h => ?_) fun _ => ?_
  · rw [hexact h]
  refine ite_congr (propext (rounded_lt_iff (by simp [textLimits]))) (fun h => ?_) fun _ => ?_
  · rw [rounded_div (hminute (Nat.lt_trans h (by decide)))]
  refine ite_congr (propext (rounded_lt_iff (by simp [textLimits]))) (fun h => ?_) fun _ => ?_
  · rw [rounded_div (hhour (Nat.lt_trans h (by decide))), hour, rounded_mod_div (hminute h)]
  refine ite_congr (propext (rounded_lt_iff (by simp [textLimits]))) (fun h => ?_) fun _ => ?_
  · rw [rounded_div (hhour (Nat.lt_trans h (by decide)))]
  refine ite_congr (propext (rounded_lt_iff (by simp [textLimits]))) (fun h => ?_) fun _ => ?_
  · rw [rounded_div (hday (Nat.lt_trans h (by decide))), day, rounded_mod_div (hhour h)]
  refine ite_congr (propext (rounded_lt_iff (by simp [textLimits]))) (fun h => ?_) fun _ => ?_
  · rw [rounded_div (hday (Nat.lt_trans h (by decide)))]
  refine ite_congr (propext (rounded_lt_iff (by simp [textLimits]))) (fun h => ?_) fun _ => ?_
  · rw [rounded_div hyear, year, rounded_mod_div (hday h)]
  · rw [rounded_div hyear]

/-! ## Reading what was written -/

/-- The letters of units are neither digits nor blanks, and no unit is empty. -/
theorem unit_letter {c : Char} {unit : Nat} (h : unitSeconds? c = some unit) :
    c.isDigit = false ∧ isBlank c = false ∧ 0 < unit := by
  unfold unitSeconds? at h
  split at h <;> cases h <;> decide

theorem readPairs?_digits {digits : List Char} (h : ∀ c ∈ digits, c.isDigit = true)
    (read : List Char) (total : Nat) (rest : List Char) :
    readPairs? read total (digits ++ rest) = readPairs? (digits.reverse ++ read) total rest := by
  induction digits generalizing read with
  | nil => rfl
  | cons c digits ih =>
    have hc : c.isDigit = true := h c List.mem_cons_self
    rw [List.cons_append, readPairs?, if_pos hc, ih fun d hd => h d (List.mem_cons_of_mem c hd),
      List.reverse_cons, List.append_assoc, List.singleton_append]

/-- A number with a unit is added to the total, as long as that stays below the bound. -/
theorem readPairs?_number {digits : List Char} {unit total : Nat} {c : Char} (hne : digits ≠ [])
    (hdigits : ∀ d ∈ digits, d.isDigit = true) (hc : unitSeconds? c = some unit)
    (h : total + ofDigits digits * unit < ageBound) (rest : List Char) :
    readPairs? [] total (digits ++ c :: rest) =
      readPairs? [] (total + ofDigits digits * unit) rest := by
  obtain ⟨hdigit, -, hpos⟩ := unit_letter hc
  have hn : ofDigits digits ≤ ofDigits digits * unit := Nat.le_mul_of_pos_right _ hpos
  have hbounds : ofDigits digits < ageBound ∧ ofDigits digits * unit < ageBound ∧
      total + ofDigits digits * unit < ageBound := by omega
  rw [readPairs?_digits hdigits, List.append_nil, readPairs?]
  simp [hdigit, hc, hne, hbounds]

theorem readPairs?_pair {n unit total : Nat} {c : Char} (hc : unitSeconds? c = some unit)
    (h : total + n * unit < ageBound) (rest : List Char) :
    readPairs? [] total (Nat.toDigits 10 n ++ c :: rest) =
      readPairs? [] (total + n * unit) rest := by
  have hread := ofDigits_toDigits n
  rw [readPairs?_number Nat.toDigits_ne_nil (fun _ => isDigit_of_mem_toDigits) hc
    (hread.symm ▸ h), hread]

/-- A text of digits and letters of units is read as it stands. -/
theorem readAge?_eq {text : String} {cs : List Char} (htext : text.toList = cs) (hne : cs ≠ [])
    (h : ∀ c ∈ cs, c.isDigit = true ∨ ∃ unit, unitSeconds? c = some unit) :
    readAge? text = readPairs? [] 0 cs := by
  have htrim : trimChars cs = cs := by
    apply trimChars_of_not_isBlank
    intro c hc
    rcases h c hc with hdigit | ⟨unit, hunit⟩
    · exact isBlank_of_isDigit hdigit
    · exact (unit_letter hunit).2.1
  unfold readAge?
  rw [htext, htrim]
  cases cs with
  | nil => exact absurd rfl hne
  | cons c cs => rfl

theorem readAge?_oneUnit {n k : Nat} {unit : String} {c : Char} (hunit : unit.toList = [c])
    (hc : unitSeconds? c = some k) (h : n * k < ageBound) :
    readAge? (toString n ++ unit) = some (n * k) := by
  have htext : (toString n ++ unit).toList = Nat.toDigits 10 n ++ [c] := by
    rw [String.toList_append, hunit, Nat.toString_eq_repr, Nat.toList_repr]
  rw [readAge?_eq htext (by simp), readPairs?_pair hc (by omega)]
  · simp [readPairs?]
  · intro d hd
    rcases List.mem_append.1 hd with hd | hd
    · exact .inl (isDigit_of_mem_toDigits hd)
    · exact .inr ⟨k, List.mem_singleton.1 hd ▸ hc⟩

theorem readAge?_twoUnits {n m k l : Nat} {unit smaller : String} {c d : Char}
    (hunit : unit.toList = [c]) (hsmaller : smaller.toList = [d]) (hc : unitSeconds? c = some k)
    (hd : unitSeconds? d = some l) (h : n * k + m * l < ageBound) :
    readAge? (twoUnits n unit m smaller) = some (n * k + m * l) := by
  unfold twoUnits
  split
  · -- the smaller unit is left out where there is none of it
    rename_i hm
    subst hm
    rw [readAge?_oneUnit hunit hc (by omega), Nat.zero_mul, Nat.add_zero]
  · have htext : (toString n ++ unit ++ toString m ++ smaller).toList =
        Nat.toDigits 10 n ++ c :: (Nat.toDigits 10 m ++ [d]) := by
      simp [hunit, hsmaller, Nat.toString_eq_repr]
    rw [readAge?_eq htext (by simp), readPairs?_pair hc (by omega), readPairs?_pair hd (by omega)]
    · simp [readPairs?]
    · intro e he
      simp only [List.mem_append, List.mem_cons, List.not_mem_nil, or_false] at he
      rcases he with he | rfl | he | rfl
      · exact .inl (isDigit_of_mem_toDigits he)
      · exact .inr ⟨k, hc⟩
      · exact .inl (isDigit_of_mem_toDigits he)
      · exact .inr ⟨l, hd⟩

/-- A number of units and the number of smaller ones in the rest are the smaller ones in all. -/
theorem div_mul_add_mod_div (secs n smaller : Nat) :
    secs / (n * smaller) * (n * smaller) + secs % (n * smaller) / smaller * smaller =
      secs / smaller * smaller := by
  rw [Nat.mod_mul_left_div_self, Nat.mul_comm n smaller, ← Nat.div_div_eq_div_mul]
  calc secs / smaller / n * (smaller * n) + secs / smaller % n * smaller
    _ = (secs / smaller / n * n + secs / smaller % n) * smaller := by
      rw [Nat.add_mul, Nat.mul_assoc, Nat.mul_comm smaller n]
    _ = secs / smaller * smaller := by rw [Nat.div_add_mod']

/-- The text of a duration is read as the duration without what the text leaves out. -/
theorem readAge?_durationText {secs : Nat} (h : secs < ageBound) :
    readAge? (durationText secs) = some (rounded secs) := by
  have hbound : rounded secs < ageBound := Nat.lt_of_le_of_lt (rounded_le secs) h
  unfold rounded at hbound ⊢
  unfold durationText
  -- each form names the unit that the duration is rounded to, alone or after a larger one
  split
  · rename_i h2m
    have hp : precision secs = 1 := by rw [precision, if_pos (Nat.lt_trans h2m (by decide))]
    rw [hp, Nat.div_one] at hbound ⊢
    exact readAge?_oneUnit rfl rfl hbound
  split
  · rename_i h10m
    have hp : precision secs = 1 := by rw [precision, if_pos h10m]
    have hsum : secs / 1 * 1 = secs / minute * minute + secs % minute * 1 := by
      rw [Nat.div_one, Nat.mul_one, Nat.mul_one, Nat.div_add_mod']
    rw [hp, hsum] at hbound ⊢
    exact readAge?_twoUnits rfl rfl rfl rfl hbound
  rename_i h10m
  split
  · rename_i h3h
    have hp : precision secs = minute := by
      rw [precision, if_neg h10m, if_pos (Nat.lt_trans h3h (by decide))]
    rw [hp] at hbound ⊢
    exact readAge?_oneUnit rfl rfl hbound
  split
  · rename_i h8h
    have hp : precision secs = minute := by rw [precision, if_neg h10m, if_pos h8h]
    rw [hp, ← div_mul_add_mod_div secs 60 minute] at hbound ⊢
    exact readAge?_twoUnits rfl rfl rfl rfl hbound
  rename_i h8h
  split
  · rename_i h48h
    have hp : precision secs = hour := by
      rw [precision, if_neg h10m, if_neg h8h, if_pos (Nat.lt_trans h48h (by decide))]
    rw [hp] at hbound ⊢
    exact readAge?_oneUnit rfl rfl hbound
  split
  · rename_i h8d
    have hp : precision secs = hour := by rw [precision, if_neg h10m, if_neg h8h, if_pos h8d]
    rw [hp, ← div_mul_add_mod_div secs 24 hour] at hbound ⊢
    exact readAge?_twoUnits rfl rfl rfl rfl hbound
  rename_i h8d
  split
  · rename_i h2y
    have hp : precision secs = day := by
      rw [precision, if_neg h10m, if_neg h8h, if_neg h8d, if_pos (Nat.lt_trans h2y (by decide))]
    rw [hp] at hbound ⊢
    exact readAge?_oneUnit rfl rfl hbound
  split
  · rename_i h8y
    have hp : precision secs = day := by
      rw [precision, if_neg h10m, if_neg h8h, if_neg h8d, if_pos h8y]
    rw [hp, ← div_mul_add_mod_div secs 365 day] at hbound ⊢
    exact readAge?_twoUnits rfl rfl rfl rfl hbound
  · rename_i h8y
    have hp : precision secs = year := by
      rw [precision, if_neg h10m, if_neg h8h, if_neg h8d, if_neg h8y]
    rw [hp] at hbound ⊢
    exact readAge?_oneUnit rfl rfl hbound

/-- What is read back from the text of a duration. -/
structure ReadsBack (secs : Nat) : Prop where
  /-- The text is read, as a duration that is not longer and has the same text. -/
  read : ∃ t, readAge? (durationText secs) = some t ∧ t ≤ secs ∧
    durationText t = durationText secs
  /-- The text of a longer duration is read too, and not as a shorter one. -/
  ordered : ∀ longer, secs ≤ longer → longer < ageBound → ∃ t u,
    readAge? (durationText secs) = some t ∧ readAge? (durationText longer) = some u ∧ t ≤ u

/-- The texts of durations stand for them where only their order matters. -/
theorem readsBack_of_lt {secs : Nat} (h : secs < ageBound) : ReadsBack secs where
  read := ⟨rounded secs, readAge?_durationText h, rounded_le secs, durationText_rounded secs⟩
  ordered := fun longer hle hlonger => ⟨rounded secs, rounded longer, readAge?_durationText h,
    readAge?_durationText hlonger, rounded_mono hle⟩

/-- A second before the limit of eight years, the text leaves out almost a day. -/
theorem readsBack_eightYears : 8 * year - 1 < ageBound ∧ durationText (8 * year - 1) = "7y364d" ∧
    readAge? "7y364d" = some (8 * year - day) ∧ ReadsBack (8 * year - 1) :=
  ⟨by decide, by decide, by decide, readsBack_of_lt (by decide)⟩

/-- Durations of one text are read as one number, and those of one number have one text. -/
theorem durationText_eq_iff {a b : Nat} (ha : a < ageBound) (hb : b < ageBound) :
    durationText a = durationText b ↔ rounded a = rounded b := by
  constructor
  · intro htext
    have hread := congrArg readAge? htext
    rw [readAge?_durationText ha, readAge?_durationText hb] at hread
    exact Option.some.inj hread
  · intro hrounded
    rw [← durationText_rounded a, hrounded, durationText_rounded]

/-! ## Ages -/

/-- The age in seconds at the time `now` of what was created at `t`, zero in the future. -/
def ageSeconds (t now : Int) : Nat := ((now - t).tdiv secondNanos).toNat

theorem ageText_some (t now : Int) : ageText (some t) now = durationText (ageSeconds t now) := by
  unfold ageText ageSeconds
  dsimp only
  split
  · rename_i hneg
    rw [Int.toNat_of_nonpos (Int.le_of_lt hneg)]
    rfl
  · rfl

/-- What was created later is not older. -/
theorem ageSeconds_anti {s t : Int} (h : s ≤ t) (now : Int) :
    ageSeconds t now ≤ ageSeconds s now := by
  unfold ageSeconds
  apply Int.toNat_le_toNat
  exact Int.tdiv_le_tdiv (by decide) (by omega)

/-- What will be created has the age zero. -/
theorem ageSeconds_of_le {t now : Int} (h : now ≤ t) : ageSeconds t now = 0 := by
  have hself : ageSeconds now now = 0 := by
    rw [ageSeconds, Int.sub_self]
    rfl
  exact Nat.le_zero.1 (hself ▸ ageSeconds_anti h now)

theorem readAge?_unknownAge : readAge? unknownAge = none := by decide

/-- The nanoseconds of a millisecond. -/
def milliNanos : Nat := 1000000

/-- The times that are at most as many milliseconds before or after 1970 as a 64-bit word can tell,
which are some hundred million years. -/
def IsTime (t : Int) : Prop :=
  Int64.minValue.toInt * milliNanos ≤ t ∧ t ≤ Int64.maxValue.toInt * milliNanos

instance (t : Int) : Decidable (IsTime t) := inferInstanceAs (Decidable (_ ∧ _))

/-- No time is so long ago that its age could not be read. -/
theorem ageSeconds_lt {t now : Int} (ht : IsTime t) (hnow : IsTime now) :
    ageSeconds t now < ageBound := by
  have hspan : now - 2 ^ 64 * milliNanos ≤ t := by
    unfold IsTime at ht hnow
    rw [Int64.toInt_minValue, Int64.toInt_maxValue] at ht hnow
    omega
  have hlong : ageSeconds t now ≤ ageSeconds (now - 2 ^ 64 * milliNanos) now :=
    ageSeconds_anti hspan now
  have hbound : ageSeconds (now - 2 ^ 64 * milliNanos) now < ageBound := by
    rw [ageSeconds, Int.sub_sub_self]
    decide
  exact Nat.lt_of_le_of_lt hlong hbound

/-- Whatever has an age is read as that age, down to what its text leaves out. -/
theorem readAge?_ageText {t now : Int} (ht : IsTime t) (hnow : IsTime now) :
    readAge? (ageText (some t) now) = some (rounded (ageSeconds t now)) := by
  rw [ageText_some]
  exact readAge?_durationText (ageSeconds_lt ht hnow)

/-- Two ages have one text exactly if they are read as one number. -/
theorem ageText_eq_iff {s t now : Int} (hs : IsTime s) (ht : IsTime t) (hnow : IsTime now) :
    ageText (some s) now = ageText (some t) now ↔
      rounded (ageSeconds s now) = rounded (ageSeconds t now) := by
  rw [ageText_some, ageText_some]
  exact durationText_eq_iff (ageSeconds_lt hs hnow) (ageSeconds_lt ht hnow)

end ResourceBrowser.Number
