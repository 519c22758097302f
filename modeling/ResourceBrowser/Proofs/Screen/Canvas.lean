import Mathlib.Data.List.Basic
import ResourceBrowser.Screen.Popup

/-!
# What is drawn shows

Cells of a canvas change where something is drawn and nowhere else, and a canvas keeps its size. So
rows of glyphs that are drawn into an area on the canvas show there until something else is drawn
over them.

* `cell?_modify`, `cell?_write`: which cells drawing changes.
* `SameSize`: drawing keeps the size.
* `Shows`: a run of glyphs shows at a place, `shows_write`, `shows_drawRows`.
-/

namespace ResourceBrowser.Screen

open Text

namespace Canvas

/-! ## Single cells -/

/-- Cells are at one place of the canvas only if they are in one column and one row. -/
theorem place_inj {width x y u v : Nat} (hx : x < width) (hu : u < width) :
    y * width + x = v * width + u ↔ x = u ∧ y = v := by
  constructor
  · intro h
    have hcolumn : x = u := by
      have hmod := congrArg (· % width) h
      simpa [Nat.mul_add_mod', Nat.mod_eq_of_lt hx, Nat.mod_eq_of_lt hu] using hmod
    subst hcolumn
    exact ⟨rfl, Nat.eq_of_mul_eq_mul_right (Nat.zero_lt_of_lt hx) (Nat.add_right_cancel h)⟩
  · rintro ⟨rfl, rfl⟩
    rfl

theorem cell?_modify (c : Canvas) (x y : Nat) (f : Spot → Spot) (u v : Nat) :
    (c.modify x y f).cell? u v =
      if x = u ∧ y = v then (c.cell? u v).map f else c.cell? u v := by
  unfold modify
  by_cases hx : x < c.width
  · rw [if_pos hx]
    unfold cell?
    by_cases hu : u < c.width
    · simp only [hu, if_true, Array.getElem?_modify, place_inj hx hu]
    · simp [hu]
  · rw [if_neg hx]
    split
    · rename_i hplace
      obtain ⟨rfl, rfl⟩ := hplace
      simp [cell?, hx]
    · rfl

theorem cell?_put (c : Canvas) (x y : Nat) (symbol : String) (s : Style) (u v : Nat) :
    (c.put x y symbol s).cell? u v = if x = u ∧ y = v then
      (c.cell? u v).map fun cell => { cell with symbol }.restyle s else c.cell? u v :=
  cell?_modify c x y _ u v

/-- The cells that a glyph hides are in its row and on the right of its first one. -/
theorem cell?_hide (c : Canvas) {x y u v : Nat} (h : y = v → u ≤ x) (width : Nat) :
    (c.hide x y width).cell? u v = c.cell? u v := by
  unfold hide
  refine List.foldlRecOn (motive := fun d : Canvas => d.cell? u v = c.cell? u v) _ _ rfl ?_
  intro d hd i _
  rw [cell?_modify, if_neg, hd]
  rintro ⟨hcolumn, hrow⟩
  have hle := h hrow
  omega

/-- What is written changes its row only, and that only from its first column on. -/
theorem cell?_write (run : Run) (c : Canvas) {x y u v : Nat} (h : y = v → u < x) (stop : Nat) :
    (c.write x y stop run).cell? u v = c.cell? u v := by
  induction run generalizing c x with
  | nil => rfl
  | cons p rest ih =>
    obtain ⟨g, s⟩ := p
    rw [write]
    split
    · exact ih c h
    split
    · have hput : ((c.put x y g.symbol s).hide x y g.width).cell? u v = c.cell? u v := by
        rw [cell?_hide _ fun hrow => Nat.le_of_lt (h hrow), cell?_put, if_neg]
        rintro ⟨hcolumn, hrow⟩
        exact Nat.lt_irrefl _ (hcolumn ▸ h hrow)
      rw [ih _ fun hrow => Nat.lt_add_right _ (h hrow), hput]
    · rfl

/-! ## The size -/

/-- Canvases of one size. -/
structure SameSize (c d : Canvas) : Prop where
  width : d.width = c.width
  height : d.height = c.height

theorem SameSize.refl (c : Canvas) : SameSize c c := ⟨rfl, rfl⟩

theorem SameSize.trans {c d e : Canvas} (h : SameSize c d) (h' : SameSize d e) : SameSize c e :=
  ⟨h'.width.trans h.width, h'.height.trans h.height⟩

/-- Drawing one thing after the other keeps the size if each of them does. -/
theorem sameSize_foldl {α : Type} {draw : Canvas → α → Canvas}
    (h : ∀ d a, SameSize d (draw d a)) (c : Canvas) (items : List α) :
    SameSize c (items.foldl draw c) :=
  List.foldlRecOn (motive := SameSize c) items draw (SameSize.refl c)
    fun d hd a _ => hd.trans (h d a)

theorem sameSize_modify (c : Canvas) (x y : Nat) (f : Spot → Spot) :
    SameSize c (c.modify x y f) := by
  unfold modify
  split <;> exact ⟨rfl, rfl⟩

theorem sameSize_hide (c : Canvas) (x y width : Nat) : SameSize c (c.hide x y width) :=
  sameSize_foldl (fun d _ => sameSize_modify d _ _ _) c _

theorem sameSize_write (run : Run) (c : Canvas) (x y stop : Nat) :
    SameSize c (c.write x y stop run) := by
  induction run generalizing c x with
  | nil => exact SameSize.refl c
  | cons p rest ih =>
    obtain ⟨g, s⟩ := p
    rw [write]
    split
    · exact ih c x
    split
    · exact ((sameSize_modify c _ _ _).trans (sameSize_hide _ _ _ _)).trans (ih _ _)
    · exact SameSize.refl c

theorem sameSize_drawLine (c : Canvas) (a : Area) (l : Line) (align : Table.Align) :
    SameSize c (c.drawLine a l align) := by
  unfold drawLine
  dsimp only
  split
  · exact SameSize.refl c
  · exact sameSize_write _ _ _ _ _

theorem sameSize_drawRows (c : Canvas) (a : Area) (rows : List Run) (centered : Bool) :
    SameSize c (c.drawRows a rows centered) :=
  sameSize_foldl (fun d _ => sameSize_write _ d _ _ _) c _

theorem sameSize_drawPanel (c : Canvas) (a : Area) (title : Line) :
    SameSize c (c.drawPanel a title) := by
  have hedge : ∀ (d : Canvas) (x y : Nat) (symbol : String),
      SameSize d (d.put x y symbol .border) := fun d x y _ => sameSize_modify d x y _
  unfold drawPanel
  split
  · exact SameSize.refl c
  · refine SameSize.trans ?_ (sameSize_drawLine _ _ _ _)
    refine ((SameSize.trans ?_ (hedge _ _ _ _)).trans (hedge _ _ _ _)).trans
      (hedge _ _ _ _) |>.trans (hedge _ _ _ _)
    exact ((sameSize_foldl (fun d y => hedge d _ y _) c _).trans
      (sameSize_foldl (fun d x => hedge d x _ _) _ _)).trans
        ((sameSize_foldl (fun d y => hedge d _ y _) _ _).trans
          (sameSize_foldl (fun d x => hedge d x _ _) _ _))

theorem sameSize_modifyArea (c : Canvas) (a : Area) (f : Spot → Spot) :
    SameSize c (c.modifyArea a f) := ⟨rfl, rfl⟩

theorem sameSize_drawEntries (sheet : Sheet) (c : Canvas) (a : Area) (entries : List Entry) :
    SameSize c (sheet.drawEntries c a entries) :=
  sameSize_foldl (fun d _ => sameSize_drawLine d _ _ _) c _

theorem sameSize_drawSheet (sheet : Sheet) (c : Canvas) (a : Area) (offset : Nat)
    (selected : Option Nat) : SameSize c (sheet.draw c a offset selected).1 := by
  have hrow : ∀ (d : Canvas) (row : Area) (style : Style) (entries : List Entry),
      SameSize d (sheet.drawEntries (d.restyle row style) row entries) :=
    fun d row style entries =>
      (sameSize_modifyArea d row _).trans (sameSize_drawEntries sheet _ row entries)
  unfold Sheet.draw
  split
  · exact SameSize.refl c
  · cases selected with
    | none => exact hrow c _ _ _
    | some selected =>
      refine (hrow c _ _ _).trans (sameSize_foldl (fun d p => ?_) _ _)
      dsimp only
      split
      · exact (hrow d _ _ _).trans (sameSize_modifyArea _ _ _)
      · exact hrow d _ _ _

/-! ## Runs that show -/

/-- The glyphs of a run show in row `y` from column `x` on, those that fill no cell left out. -/
def Shows (c : Canvas) (x y : Nat) (run : Run) : Prop :=
  ∀ before g s after, run = before ++ (g, s) :: after → 0 < g.width →
    (c.cell? (x + Run.width before) y).map (·.symbol) = some g.symbol

theorem Shows.congr {c d : Canvas} {x y : Nat} {run : Run} (h : c.Shows x y run)
    (hrow : ∀ u, d.cell? u y = c.cell? u y) : d.Shows x y run := by
  intro before g s after hrun hg
  rw [hrow]
  exact h before g s after hrun hg

theorem exists_cell? {c : Canvas} {x y : Nat} (hx : x < c.width) (hy : y < c.height) :
    ∃ spot, c.cell? x y = some spot := by
  have hlt : y * c.width + x < c.cells.size := by
    rw [c.size_eq]
    calc y * c.width + x < y * c.width + c.width := Nat.add_lt_add_left hx _
      _ = (y + 1) * c.width := (Nat.succ_mul y c.width).symm
      _ ≤ c.height * c.width := Nat.mul_le_mul_right _ hy
      _ = c.width * c.height := Nat.mul_comm _ _
  exact ⟨c.cells[y * c.width + x], by rw [cell?, if_pos hx, Array.getElem?_eq_getElem hlt]⟩

/-- What is written where there is room for it shows. -/
theorem shows_write {run : Run} {c : Canvas} {x y stop : Nat} (h : x + Run.width run ≤ stop)
    (hstop : stop ≤ c.width) (hy : y < c.height) : (c.write x y stop run).Shows x y run := by
  induction run generalizing c x with
  | nil =>
    intro before g s after hrun
    simp at hrun
  | cons p rest ih =>
    obtain ⟨g, s⟩ := p
    have hwidth : x + g.width + Run.width rest ≤ stop := by
      rw [Nat.add_assoc]
      exact h
    intro before g' s' after hrun hg'
    rw [write]
    split
    · -- a glyph without cells is passed over
      rename_i hnone
      cases before with
      | nil =>
        obtain ⟨rfl, rfl⟩ := Prod.mk.inj (List.cons.inj hrun).1
        exact absurd hnone (Nat.ne_of_gt hg')
      | cons q before =>
        obtain ⟨rfl, hrest⟩ := List.cons.inj hrun
        rw [hnone, Nat.add_zero] at hwidth
        have hshows := ih hwidth hstop hy before g' s' after hrest hg'
        have hsame : Run.width ((g, s) :: before) = Run.width before := by
          show g.width + Run.width before = Run.width before
          rw [hnone, Nat.zero_add]
        rwa [hsame]
    · rename_i hsome
      rw [if_pos (Nat.le_trans (Nat.le_add_right _ _) hwidth)]
      have hsize := (sameSize_modify c x y _).trans
        (sameSize_hide (c.put x y g.symbol s) x y g.width)
      cases before with
      | nil =>
        obtain ⟨rfl, rfl⟩ := Prod.mk.inj (List.cons.inj hrun).1
        obtain ⟨spot, hspot⟩ := exists_cell? (c := c) (x := x) (y := y) (by omega) hy
        show Option.map _ (cell? _ x y) = _
        rw [cell?_write _ _ fun _ => Nat.lt_add_of_pos_right hg',
          cell?_hide _ fun _ => Nat.le_refl x, cell?_put, if_pos ⟨rfl, rfl⟩, hspot]
        rfl
      | cons q before =>
        obtain ⟨rfl, hrest⟩ := List.cons.inj hrun
        have hshows := ih (c := (c.put x y g.symbol s).hide x y g.width) hwidth
          (hsize.width ▸ hstop) (hsize.height ▸ hy) before g' s' after hrest hg'
        rw [Nat.add_assoc] at hshows
        exact hshows

/-- What is cut to a number of cells fits into them. -/
theorem width_fitting (cells : Nat) (run : Run) : Run.width (Run.fitting cells run) ≤ cells := by
  induction run generalizing cells with
  | nil => exact Nat.zero_le _
  | cons p rest ih =>
    obtain ⟨g, s⟩ := p
    rw [Run.fitting]
    split
    · rename_i hle
      have hrest := ih (cells - g.width)
      show g.width + Run.width (Run.fitting (cells - g.width) rest) ≤ cells
      omega
    · exact Nat.zero_le _

/-- What fits is not cut. -/
theorem fitting_eq_self {cells : Nat} {run : Run} (h : Run.width run ≤ cells) :
    Run.fitting cells run = run := by
  induction run generalizing cells with
  | nil => rfl
  | cons p rest ih =>
    obtain ⟨g, s⟩ := p
    have hsum : g.width + Run.width rest ≤ cells := h
    rw [Run.fitting, if_pos (by omega), ih (by omega)]

/-- Writing numbered rows changes those of the area that are numbered. -/
theorem cell?_foldl_write {rows : List (Run × Nat)} (c : Canvas) (x : Run × Nat → Nat)
    (y stop : Nat) (cut : Run × Nat → Run) {u v : Nat} (h : ∀ p ∈ rows, y + p.2 ≠ v) :
    (rows.foldl (fun c p => c.write (x p) (y + p.2) stop (cut p)) c).cell? u v =
      c.cell? u v := by
  refine List.foldlRecOn (motive := fun d : Canvas => d.cell? u v = c.cell? u v) _ _ rfl ?_
  intro d hd p hp
  rw [cell?_write _ _ fun hrow => absurd hrow (h p hp), hd]

/-- Each of the rows that an area has room for shows where it is drawn, as far as it fits. -/
theorem shows_drawRows {c : Canvas} {a : Area} {rows : List Run} {i : Nat} {run : Run}
    (h : rows[i]? = some run) (hi : i < a.height.toNat) (hright : a.right ≤ c.width)
    (hbottom : a.bottom ≤ c.height) : (c.drawRows a rows false).Shows a.x.toNat (a.y.toNat + i)
      (Run.fitting a.width.toNat run) := by
  -- the rows above are drawn before, and those below do not cover it
  obtain ⟨front, back, hrows, rfl⟩ : ∃ front back, rows.take a.height.toNat =
      front ++ run :: back ∧ front.length = i := by
    rw [← List.getElem?_take_of_lt hi] at h
    obtain ⟨hlt, rfl⟩ := List.getElem?_eq_some_iff.1 h
    refine ⟨(rows.take a.height.toNat).take i, (rows.take a.height.toNat).drop (i + 1), ?_, ?_⟩
    · rw [List.getElem_cons_drop, List.take_append_drop]
    · exact List.length_take_of_le (Nat.le_of_lt hlt)
  unfold drawRows
  dsimp only
  rw [hrows, List.zipIdx_append, List.foldl_append, List.zipIdx_cons, List.foldl_cons]
  refine Shows.congr ?_ fun u => cell?_foldl_write _ _ a.y.toNat a.right _ ?_
  · have hsize := sameSize_foldl (fun d (p : Run × Nat) => sameSize_write
      (Run.fitting a.width.toNat p.1) d (a.x.toNat + 0) (a.y.toNat + p.2) a.right) c
        (front.zipIdx 0)
    have hfits := width_fitting a.width.toNat run
    rw [Nat.zero_add]
    refine shows_write ?_ (hsize.width ▸ hright) (hsize.height ▸ ?_)
    · exact Nat.add_le_add_left hfits _
    · exact Nat.lt_of_lt_of_le (Nat.add_lt_add_left hi _) hbottom
  · rintro ⟨below, j⟩ hmem
    have hj := (List.mem_zipIdx hmem).1
    dsimp only
    omega

end Canvas

end ResourceBrowser.Screen
