import ResourceBrowser.Number.Word

/-!
# When checked words are there

A checked sum, product or difference is the word with the exact value, and it is there whenever
there is such a word.

* `ifFits_eq_some_iff`, `exists_ifFits`: for any width of words, and from there
  `sum64?_eq_some_iff`, `exists_sum64?` and so on.
-/

namespace ResourceBrowser.Number

section Fits

variable {α : Type} {size : Nat} {ofNat : Nat → α} {toNat : α → Nat} {n : Nat}

/-- The word with a value is any word that has it. -/
theorem ifFits_eq_some_iff (hvalue : ∀ n < size, toNat (ofNat n) = n)
    (hword : ∀ a, toNat a < size ∧ ofNat (toNat a) = a) {a : α} :
    ifFits size ofNat n = some a ↔ toNat a = n := by
  unfold ifFits
  constructor
  · intro h
    split at h
    · rename_i hlt
      rw [← Option.some.inj h, hvalue n hlt]
    · cases h
  · rintro rfl
    rw [if_pos (hword a).1, (hword a).2]

theorem exists_ifFits (hvalue : ∀ n < size, toNat (ofNat n) = n) (h : n < size) :
    ∃ a, ifFits size ofNat n = some a ∧ toNat a = n :=
  ⟨ofNat n, if_pos h, hvalue n h⟩

theorem ifFits_eq_none_iff : ifFits size ofNat n = none ↔ size ≤ n := by
  unfold ifFits
  split
  · rename_i h
    exact iff_of_false nofun (Nat.not_le.2 h)
  · rename_i h
    exact iff_of_true rfl (Nat.not_lt.1 h)

end Fits

/-! ## 16 bits -/

theorem toNat_ofNat16 (n : Nat) (h : n < UInt16.size) : (UInt16.ofNat n).toNat = n :=
  UInt16.toNat_ofNat_of_lt' h

theorem ofNat16_toNat (a : UInt16) : a.toNat < UInt16.size ∧ UInt16.ofNat a.toNat = a :=
  ⟨a.toNat_lt_size, UInt16.ofNat_toNat⟩

theorem sum16?_eq_some_iff {a b c : UInt16} :
    sum16? a b = some c ↔ c.toNat = a.toNat + b.toNat :=
  ifFits_eq_some_iff toNat_ofNat16 ofNat16_toNat

theorem sum16?_eq_none_iff {a b : UInt16} :
    sum16? a b = none ↔ UInt16.size ≤ a.toNat + b.toNat :=
  ifFits_eq_none_iff

theorem exists_sum16? {a b : UInt16} (h : a.toNat + b.toNat < UInt16.size) :
    ∃ c, sum16? a b = some c ∧ c.toNat = a.toNat + b.toNat :=
  exists_ifFits toNat_ofNat16 h

theorem product16?_eq_some_iff {a b c : UInt16} :
    product16? a b = some c ↔ c.toNat = a.toNat * b.toNat :=
  ifFits_eq_some_iff toNat_ofNat16 ofNat16_toNat

theorem product16?_eq_none_iff {a b : UInt16} :
    product16? a b = none ↔ UInt16.size ≤ a.toNat * b.toNat :=
  ifFits_eq_none_iff

/-! ## 32 bits -/

theorem sum32?_eq_some_iff {a b c : UInt32} :
    sum32? a b = some c ↔ c.toNat = a.toNat + b.toNat :=
  ifFits_eq_some_iff (fun _ h => UInt32.toNat_ofNat_of_lt' h)
    fun a => ⟨a.toNat_lt_size, UInt32.ofNat_toNat⟩

theorem exists_sum32? {a b : UInt32} (h : a.toNat + b.toNat < UInt32.size) :
    ∃ c, sum32? a b = some c ∧ c.toNat = a.toNat + b.toNat :=
  exists_ifFits (fun _ h => UInt32.toNat_ofNat_of_lt' h) h

theorem difference32?_eq_some_iff {a b c : UInt32} :
    difference32? a b = some c ↔ c.toNat + b.toNat = a.toNat := by
  unfold difference32?
  constructor
  · intro h
    split at h
    · rename_i hle
      rw [← Option.some.inj h, UInt32.toNat_sub_of_le _ _ hle]
      exact Nat.sub_add_cancel (UInt32.le_iff_toNat_le.1 hle)
    · cases h
  · intro h
    have hle : b ≤ a := UInt32.le_iff_toNat_le.2 (h ▸ Nat.le_add_left _ _)
    rw [if_pos hle, Option.some.injEq, ← UInt32.toNat_inj, UInt32.toNat_sub_of_le _ _ hle, ← h]
    exact Nat.add_sub_cancel _ _

theorem difference32?_eq_none_iff {a b : UInt32} : difference32? a b = none ↔ a < b := by
  unfold difference32?
  split
  · rename_i h
    exact iff_of_false nofun (UInt32.not_lt.2 h)
  · rename_i h
    exact iff_of_true rfl (UInt32.not_le.1 h)

/-! ## 64 bits -/

theorem toNat_ofNat64 (n : Nat) (h : n < UInt64.size) : (UInt64.ofNat n).toNat = n :=
  UInt64.toNat_ofNat_of_lt' h

theorem ofNat64_toNat (a : UInt64) : a.toNat < UInt64.size ∧ UInt64.ofNat a.toNat = a :=
  ⟨a.toNat_lt_size, UInt64.ofNat_toNat⟩

theorem sum64?_eq_some_iff {a b c : UInt64} :
    sum64? a b = some c ↔ c.toNat = a.toNat + b.toNat :=
  ifFits_eq_some_iff toNat_ofNat64 ofNat64_toNat

theorem exists_sum64? {a b : UInt64} (h : a.toNat + b.toNat < UInt64.size) :
    ∃ c, sum64? a b = some c ∧ c.toNat = a.toNat + b.toNat :=
  exists_ifFits toNat_ofNat64 h

theorem product64?_eq_some_iff {a b c : UInt64} :
    product64? a b = some c ↔ c.toNat = a.toNat * b.toNat :=
  ifFits_eq_some_iff toNat_ofNat64 ofNat64_toNat

theorem exists_product64? {a b : UInt64} (h : a.toNat * b.toNat < UInt64.size) :
    ∃ c, product64? a b = some c ∧ c.toNat = a.toNat * b.toNat :=
  exists_ifFits toNat_ofNat64 h

end ResourceBrowser.Number
