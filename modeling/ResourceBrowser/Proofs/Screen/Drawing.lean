import ResourceBrowser.Proofs.Screen.Area
import ResourceBrowser.Proofs.Screen.Canvas

/-!
# Drawing within an area

What is drawn into an area of the canvas changes the cells of that area only, whatever is drawn
there: glyphs that do not fit are cut, an empty area is passed over, and columns and rows of a sheet
end where the area does.

* `ChangesOnly`: canvases that differ in the cells of an area only.
* `changesOnly_write`, `changesOnly_drawLine`, `changesOnly_drawRows`: text.
* `changesOnly_drawPanel`, `changesOnly_drawSheet`: borders and tables.
-/

namespace ResourceBrowser.Screen

namespace Canvas

/-- The canvases are the same outside the area. -/
def ChangesOnly (a : Area) (c d : Canvas) : Prop :=
  ∀ x y, a.has x y = false → d.cell? x y = c.cell? x y

variable {a b : Area} {c d e : Canvas}

theorem ChangesOnly.refl (a : Area) (c : Canvas) : ChangesOnly a c c := fun _ _ _ => rfl

theorem ChangesOnly.trans (h : ChangesOnly a c d) (h' : ChangesOnly a d e) :
    ChangesOnly a c e :=
  fun x y hout => (h' x y hout).trans (h x y hout)

theorem ChangesOnly.mono (h : ChangesOnly a c d) (hwithin : a.Within b) : ChangesOnly b c d := by
  intro x y hout
  refine h x y (Bool.eq_false_iff.2 fun hcell => ?_)
  rw [hwithin.has hcell] at hout
  cases hout

/-- Drawing one thing after the other changes cells of the area only if each of them does. -/
theorem changesOnly_foldl {α : Type} {draw : Canvas → α → Canvas} {items : List α}
    (h : ∀ item ∈ items, ∀ d, ChangesOnly a d (draw d item)) (c : Canvas) :
    ChangesOnly a c (items.foldl draw c) :=
  List.foldlRecOn (motive := ChangesOnly a c) items draw (ChangesOnly.refl a c)
    fun d hd item hitem => hd.trans (h item hitem d)

/-! ## Cells -/

theorem changesOnly_modify (c : Canvas) {x y : Nat} (h : a.has x y = true) (f : Spot → Spot) :
    ChangesOnly a c (c.modify x y f) := by
  intro u v hout
  rw [cell?_modify, if_neg]
  rintro ⟨rfl, rfl⟩
  rw [h] at hout
  cases hout

theorem changesOnly_put (c : Canvas) {x y : Nat} (h : a.has x y = true) (symbol : String)
    (s : Style) : ChangesOnly a c (c.put x y symbol s) :=
  changesOnly_modify c h _

theorem changesOnly_modifyArea (c : Canvas) (a : Area) (f : Spot → Spot) :
    ChangesOnly a c (c.modifyArea a f) := by
  intro x y hout
  unfold cell? modifyArea
  dsimp only
  by_cases hx : x < c.width
  · have hcolumn : (y * c.width + x) % c.width = x := by
      rw [Nat.mul_add_mod', Nat.mod_eq_of_lt hx]
    have hrow : (y * c.width + x) / c.width = y := by
      rw [Nat.mul_comm, Nat.mul_add_div (Nat.zero_lt_of_lt hx), Nat.div_eq_of_lt hx, Nat.add_zero]
    rw [if_pos hx, if_pos hx, Array.getElem?_mapIdx, hcolumn, hrow, hout]
    simp
  · rw [if_neg hx, if_neg hx]

/-- Glyphs are written from their column up to the one where they have to stop. -/
theorem changesOnly_write (run : Run) (c : Canvas) {x y stop : Nat} (hleft : a.x.toNat ≤ x)
    (hright : stop ≤ a.right) (htop : a.y.toNat ≤ y) (hbottom : y < a.bottom) :
    ChangesOnly a c (c.write x y stop run) := by
  induction run generalizing c x with
  | nil => exact ChangesOnly.refl a c
  | cons p rest ih =>
    obtain ⟨g, s⟩ := p
    rw [write]
    split
    · exact ih c hleft
    split
    · have hcell : ∀ u, x ≤ u → u < x + g.width → a.has u y = true := by
        intro u hxu hu
        exact Area.has_iff.2 ⟨by omega, by omega, htop, hbottom⟩
      refine ChangesOnly.trans ?_ (ih _ (Nat.le_add_right_of_le hleft))
      refine (changesOnly_put c (hcell x (by omega) (by omega)) g.symbol s).trans ?_
      unfold hide
      refine changesOnly_foldl (fun i hi d => changesOnly_modify d (hcell _ ?_ ?_) _) _
      · omega
      · have hlt := List.mem_range.1 hi
        omega
    · exact ChangesOnly.refl a c

/-! ## Text -/

/-- A line changes its area, and nothing if that is empty. -/
theorem changesOnly_drawLine (c : Canvas) {row : Area} (h : row.isEmpty = false → row.Within a)
    (l : Line) (align : Table.Align) : ChangesOnly a c (c.drawLine row l align) := by
  unfold drawLine
  dsimp only
  split
  · exact ChangesOnly.refl a c
  · rename_i hsome
    have hsome := Bool.eq_false_iff.2 hsome
    have hbottom : row.y.toNat < row.bottom :=
      Nat.lt_add_of_pos_right (Area.pos_of_isEmpty_eq_false hsome).2
    refine ChangesOnly.mono ?_ (h hsome)
    refine changesOnly_write _ c ?_ (Nat.le_refl _) (Nat.le_refl _) hbottom
    rw [Nat.add_assoc]
    exact Nat.le_add_right _ _

theorem changesOnly_drawRows (c : Canvas) (a : Area) (rows : List Run) (centered : Bool) :
    ChangesOnly a c (c.drawRows a rows centered) := by
  unfold drawRows
  dsimp only
  refine changesOnly_foldl ?_ c
  rintro ⟨run, i⟩ hmem d
  obtain ⟨-, hi, -⟩ := List.mem_zipIdx hmem
  rw [List.length_take] at hi
  refine changesOnly_write _ d (Nat.le_add_right _ _) (Nat.le_refl _) (Nat.le_add_right _ _) ?_
  unfold Area.bottom
  omega

/-- Text in an area that was given a style before. -/
theorem changesOnly_drawRows_restyle (c : Canvas) (h : b.Within a) (s : Style) (rows : List Run)
    (centered : Bool) : ChangesOnly a c ((c.restyle b s).drawRows b rows centered) :=
  ((changesOnly_modifyArea c b _).trans (changesOnly_drawRows _ b rows centered)).mono h

/-! ## Panels -/

theorem changesOnly_drawPanel (c : Canvas) (h : a.Fits) (title : Line) :
    ChangesOnly a c (c.drawPanel a title) := by
  unfold drawPanel
  split
  · exact ChangesOnly.refl a c
  · rename_i hsome
    obtain ⟨hwidth, hheight⟩ := Area.pos_of_isEmpty_eq_false (Bool.eq_false_iff.2 hsome)
    have hright : a.right = a.x.toNat + a.width.toNat := rfl
    have hbottom : a.bottom = a.y.toNat + a.height.toNat := rfl
    have hrows : ∀ (d : Canvas) (symbol : String) {x : Nat}, a.x.toNat ≤ x → x < a.right →
        ChangesOnly a d (((List.range a.height.toNat).map (a.y.toNat + ·)).foldl
          (fun c y => c.put x y symbol .border) d) := by
      intro d symbol x hleft hx
      refine changesOnly_foldl (fun y hy d => changesOnly_put d (Area.has_iff.2 ?_) _ _) d
      obtain ⟨i, hi, rfl⟩ := List.mem_map.1 hy
      have hlt := List.mem_range.1 hi
      omega
    have hcolumns : ∀ (d : Canvas) (symbol : String) {y : Nat}, a.y.toNat ≤ y → y < a.bottom →
        ChangesOnly a d (((List.range a.width.toNat).map (a.x.toNat + ·)).foldl
          (fun c x => c.put x y symbol .border) d) := by
      intro d symbol y htop hy
      refine changesOnly_foldl (fun x hx d => changesOnly_put d (Area.has_iff.2 ?_) _ _) d
      obtain ⟨i, hi, rfl⟩ := List.mem_map.1 hx
      have hlt := List.mem_range.1 hi
      omega
    -- the four sides, then the corners, then the title between two of them
    refine ChangesOnly.trans ?_ (changesOnly_drawLine _ (fun htitle => ?_) _ _)
    · refine ChangesOnly.trans ?_ (changesOnly_put _ (Area.has_iff.2 (by omega)) _ _)
      refine ChangesOnly.trans ?_ (changesOnly_put _ (Area.has_iff.2 (by omega)) _ _)
      refine ChangesOnly.trans ?_ (changesOnly_put _ (Area.has_iff.2 (by omega)) _ _)
      refine ChangesOnly.trans ?_ (changesOnly_put _ (Area.has_iff.2 (by omega)) _ _)
      refine ChangesOnly.trans ?_ (hcolumns _ _ (by omega) (by omega))
      refine ChangesOnly.trans ?_ (hrows _ _ (by omega) (by omega))
      exact (hrows c _ (by omega) (by omega)).trans (hcolumns _ _ (by omega) (by omega))
    · have hroom := (Area.pos_of_isEmpty_eq_false htitle).1
      dsimp only at hroom
      have hsize : (Area.less a.width 2).toNat = a.width.toNat - 2 := Area.toNat_less _ _
      have hfits := h.right
      have hx := Area.toNat_add_of_lt (m := a.x) (n := 1) (by
        show a.x.toNat + 1 < UInt16.size
        omega)
      have hone : (1 : UInt16).toNat = 1 := rfl
      constructor <;> simp only [Area.right, Area.bottom] <;> omega

theorem changesOnly_openPanel (c : Canvas) (h : a.Fits) (title : String) :
    ChangesOnly a c (c.openPanel a title) :=
  (changesOnly_modifyArea c a _).trans (changesOnly_drawPanel _ h _)

/-! ## Sheets -/

/-- A column ends where there is no more room, and has no cells behind that. -/
theorem add_le_of_mem_places {spacing room x w : Nat} {widths : List Nat} {start : Nat}
    (h : (x, w) ∈ Sheet.places spacing room start widths) (hw : 0 < w) : x + w ≤ room := by
  induction widths generalizing start with
  | nil => cases h
  | cons width widths ih =>
    rcases List.mem_cons.1 h with hplace | hrest
    · obtain ⟨rfl, rfl⟩ := Prod.mk.inj hplace
      omega
    · exact ih hrest

theorem changesOnly_drawEntries (sheet : Sheet) (c : Canvas) (h : a.Fits) (entries : List Entry) :
    ChangesOnly a c (sheet.drawEntries c a entries) := by
  unfold Sheet.drawEntries
  refine changesOnly_foldl ?_ c
  rintro ⟨⟨x, w⟩, e⟩ hmem d
  have hplace := (List.of_mem_zip hmem).1
  refine changesOnly_drawLine d (fun hsome => ?_) _ _
  -- a column that has cells ends in the area, so its place can be counted
  have hcells : 0 < (UInt16.ofNat w).toNat := (Area.pos_of_isEmpty_eq_false hsome).1
  have hw : (UInt16.ofNat w).toNat = w % UInt16.size := UInt16.toNat_ofNat
  have hle : w % UInt16.size ≤ w := Nat.mod_le _ _
  have hroom := add_le_of_mem_places hplace (by omega)
  have hx : (UInt16.ofNat x).toNat = x := by
    have hlt := a.width.toNat_lt_size
    exact UInt16.toNat_ofNat_of_lt (by omega)
  have hfits := h.right
  have hright : a.right = a.x.toNat + a.width.toNat := rfl
  have hleft := Area.toNat_add_of_lt (m := a.x) (n := .ofNat x) (by omega)
  constructor <;> simp only [Area.right, Area.bottom] <;> omega

/-- The rows of a page are numbered from its first one on. -/
theorem lt_of_mem_page {α : Type} {rows : List α} {first height i : Nat} {row : α}
    (h : (row, i) ∈ (rows.zipIdx.drop first).take height) : i - first < height := by
  obtain ⟨j, hj, hrow⟩ := List.mem_iff_getElem.1 h
  rw [List.getElem_take, List.getElem_drop, List.getElem_zipIdx] at hrow
  rw [List.length_take] at hj
  have hi : 0 + (first + j) = i := (Prod.mk.inj hrow).2
  omega

theorem changesOnly_drawSheet (sheet : Sheet) (c : Canvas) (h : a.Fits) (offset : Nat)
    (selected : Option Nat) : ChangesOnly a c (sheet.draw c a offset selected).1 := by
  obtain ⟨hhead, hbody, -⟩ := Area.within_splitTop h 1
  have hrow : ∀ (d : Canvas) {row : Area}, row.Within a → ∀ (style : Style)
      (entries : List Entry), ChangesOnly a d
        (sheet.drawEntries (d.restyle row style) row entries) :=
    fun d row hwithin style entries => ((changesOnly_modifyArea d row _).trans
      (changesOnly_drawEntries sheet _ (h.of_within hwithin) entries)).mono hwithin
  unfold Sheet.draw
  split
  · exact ChangesOnly.refl a c
  · cases selected with
    | none => exact hrow c hhead _ _
    | some selected =>
      refine (hrow c hhead _ _).trans (changesOnly_foldl ?_ _)
      rintro ⟨⟨style, entries⟩, i⟩ hmem d
      have hplace := (Area.within_row (h.of_within hbody) (lt_of_mem_page hmem)).trans hbody
      dsimp only
      split
      · exact (hrow d hplace _ _).trans ((changesOnly_modifyArea _ _ _).mono hplace)
      · exact hrow d hplace _ _

end Canvas

end ResourceBrowser.Screen
