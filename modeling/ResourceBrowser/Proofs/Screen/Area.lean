import ResourceBrowser.Proofs.Number.Word
import ResourceBrowser.Screen.Area

/-!
# Areas within areas

An area that is centered in another one, the area within a border and the parts of an area that is
cut lie in the area that they come from, and no 16-bit word overflows on the way if the edges of
that area can be counted at all.

* `Area.Fits`: the edges of an area can be counted.
* `Area.Within`: one area lies in another, `within_center?`, `within_inner`, `within_splitTop`.
* `exists_center?`: where an area in the middle is.
-/

namespace ResourceBrowser.Screen

open Number

namespace Area

/-! ## Sizes -/

theorem toNat_min (m n : UInt16) : (min m n).toNat = min m.toNat n.toNat := by
  show (if m ≤ n then m else n).toNat = min m.toNat n.toNat
  rw [Nat.min_def]
  simp only [UInt16.le_iff_toNat_le]
  split <;> rfl

theorem toNat_max (m n : UInt16) : (max m n).toNat = max m.toNat n.toNat := by
  show (if m ≤ n then n else m).toNat = max m.toNat n.toNat
  rw [Nat.max_def]
  simp only [UInt16.le_iff_toNat_le]
  split <;> rfl

theorem toNat_less (size taken : UInt16) : (less size taken).toNat = size.toNat - taken.toNat := by
  have hle : min size taken ≤ size := by
    rw [UInt16.le_iff_toNat_le, toNat_min]
    exact Nat.min_le_left _ _
  rw [less, UInt16.toNat_sub_of_le _ _ hle, toNat_min]
  omega

theorem toNat_add_of_lt {m n : UInt16} (h : m.toNat + n.toNat < UInt16.size) :
    (m + n).toNat = m.toNat + n.toNat := by
  rw [UInt16.toNat_add]
  exact Nat.mod_eq_of_lt h

theorem pos_of_isEmpty_eq_false {a : Area} (h : a.isEmpty = false) :
    0 < a.width.toNat ∧ 0 < a.height.toNat := by
  obtain ⟨hwidth, hheight⟩ : a.width ≠ 0 ∧ a.height ≠ 0 := by simpa [isEmpty] using h
  exact ⟨Nat.pos_of_ne_zero fun hzero => hwidth (UInt16.toNat_inj.1 hzero),
    Nat.pos_of_ne_zero fun hzero => hheight (UInt16.toNat_inj.1 hzero)⟩

/-! ## Areas within areas -/

/-- The edges of an area can be counted in words of 16 bits. -/
structure Fits (a : Area) : Prop where
  right : a.right < UInt16.size
  bottom : a.bottom < UInt16.size

/-- The cells of `a` are cells of `b`. -/
structure Within (a b : Area) : Prop where
  left : b.x.toNat ≤ a.x.toNat
  right : a.right ≤ b.right
  top : b.y.toNat ≤ a.y.toNat
  bottom : a.bottom ≤ b.bottom

variable {a b c : Area}

theorem has_iff {x y : Nat} : a.has x y = true ↔
    a.x.toNat ≤ x ∧ x < a.right ∧ a.y.toNat ≤ y ∧ y < a.bottom := by
  simp [has, and_assoc]

theorem Within.has (h : a.Within b) {x y : Nat} (hcell : a.has x y = true) :
    b.has x y = true := by
  obtain ⟨hleft, hright, htop, hbottom⟩ := has_iff.1 hcell
  exact has_iff.2 ⟨Nat.le_trans h.left hleft, Nat.lt_of_lt_of_le hright h.right,
    Nat.le_trans h.top htop, Nat.lt_of_lt_of_le hbottom h.bottom⟩

theorem Within.trans (h : a.Within b) (h' : b.Within c) : a.Within c :=
  ⟨Nat.le_trans h'.left h.left, Nat.le_trans h.right h'.right, Nat.le_trans h'.top h.top,
    Nat.le_trans h.bottom h'.bottom⟩

theorem Fits.of_within (h : b.Fits) (hwithin : a.Within b) : a.Fits :=
  ⟨Nat.lt_of_le_of_lt hwithin.right h.right, Nat.lt_of_le_of_lt hwithin.bottom h.bottom⟩

/-- A screen can be counted, since its first column and row have the number zero. -/
theorem fits_screen (width height : UInt16) : Fits ⟨0, 0, width, height⟩ := by
  constructor
  · simpa [Area.right] using width.toNat_lt_size
  · simpa [Area.bottom] using height.toNat_lt_size

/-- An area in the middle starts after half of what it leaves free. -/
theorem exists_center? (h : a.Fits) (width height : UInt16) :
    ∃ p, a.center? width height = some p ∧ p.width = width ∧ p.height = height ∧
      p.x.toNat = a.x.toNat + (a.width.toNat - width.toNat) / 2 ∧
      p.y.toNat = a.y.toNat + (a.height.toNat - height.toNat) / 2 := by
  obtain ⟨hright, hbottom⟩ := h
  unfold Area.right at hright
  unfold Area.bottom at hbottom
  have hfree (size taken : UInt16) :
      (less size taken / 2).toNat = (size.toNat - taken.toNat) / 2 := by
    rw [UInt16.toNat_div, toNat_less]
    rfl
  have hwidth := hfree a.width width
  have hheight := hfree a.height height
  obtain ⟨x, hx, hleft⟩ := exists_sum16? (a := a.x) (b := less a.width width / 2) (by omega)
  obtain ⟨y, hy, htop⟩ := exists_sum16? (a := a.y) (b := less a.height height / 2) (by omega)
  refine ⟨⟨x, y, width, height⟩, ?_, rfl, rfl, by rw [hleft, hwidth], by rw [htop, hheight]⟩
  rw [center?, hx, hy]
  rfl

theorem within_center? (h : a.Fits) {p : Area} {width height : UInt16} (hwidth : width ≤ a.width)
    (hheight : height ≤ a.height) (hp : p ∈ a.center? width height) : p.Within a := by
  obtain ⟨q, hq, hqwidth, hqheight, hx, hy⟩ := exists_center? h width height
  obtain rfl := Option.some.inj (hp.symm.trans hq)
  rw [UInt16.le_iff_toNat_le] at hwidth hheight
  constructor <;> simp only [Area.right, Area.bottom, hx, hy, hqwidth, hqheight] <;> omega

theorem within_inner (h : a.Fits) : a.inner.Within a := by
  obtain ⟨hright, hbottom⟩ := h
  unfold Area.right at hright
  unfold Area.bottom at hbottom
  have hx : (min a.width 1).toNat = min a.width.toNat 1 := toNat_min _ _
  have hy : (min a.height 1).toNat = min a.height.toNat 1 := toNat_min _ _
  have hleft := toNat_add_of_lt (m := a.x) (n := min a.width 1) (by omega)
  have htop := toNat_add_of_lt (m := a.y) (n := min a.height 1) (by omega)
  have hwidth : (less a.width 2).toNat = a.width.toNat - 2 := toNat_less _ _
  have hheight : (less a.height 2).toNat = a.height.toNat - 2 := toNat_less _ _
  constructor <;> simp only [inner, Area.right, Area.bottom] <;> omega

/-- The parts of an area that is cut lie in it, one right below the other. -/
theorem within_splitTop (h : a.Fits) (rows : UInt16) :
    (a.splitTop rows).1.Within a ∧ (a.splitTop rows).2.Within a ∧
      (a.splitTop rows).2.y.toNat = (a.splitTop rows).1.bottom := by
  obtain ⟨-, hbottom⟩ := h
  unfold Area.bottom at hbottom
  have hrows : (min rows a.height).toNat = min rows.toNat a.height.toNat := toNat_min _ _
  have hle : min rows a.height ≤ a.height := by
    rw [UInt16.le_iff_toNat_le, hrows]
    exact Nat.min_le_right _ _
  have hrest := UInt16.toNat_sub_of_le _ _ hle
  have htop := toNat_add_of_lt (m := a.y) (n := min rows a.height) (by omega)
  refine ⟨?_, ?_, ?_⟩
  · constructor <;> simp only [splitTop, Area.right, Area.bottom] <;> omega
  · constructor <;> simp only [splitTop, Area.right, Area.bottom] <;> omega
  · simp only [splitTop, Area.bottom]
    omega

/-- The row of an area that is so many rows below its top. -/
theorem within_row (h : a.Fits) {i : Nat} (hi : i < a.height.toNat) :
    Within ⟨a.x, a.y + .ofNat i, a.width, 1⟩ a := by
  have hfits := h.bottom
  have hbottom : a.bottom = a.y.toNat + a.height.toNat := rfl
  have hcount : (UInt16.ofNat i).toNat = i := by
    have hlt := a.height.toNat_lt_size
    exact UInt16.toNat_ofNat_of_lt (by omega)
  have htop := toNat_add_of_lt (m := a.y) (n := .ofNat i) (by omega)
  have hone : (1 : UInt16).toNat = 1 := rfl
  constructor <;> simp only [Area.right, Area.bottom] <;> omega

end Area

end ResourceBrowser.Screen
