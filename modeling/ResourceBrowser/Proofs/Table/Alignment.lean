import Mathlib.Data.List.Forall2
import Mathlib.Order.Bounds.Basic
import ResourceBrowser.Proofs.Table.Columns

/-!
# Columns that line up

The width of a shown column is found by a pass over all rows, and the cells are made by another pass,
row by row. The columns line up because both passes come to the same text for every cell: nothing
where a row has no such field, and the change note where there is one.

* `length_fillRight`: filling makes a text as long as asked for, and never shorter.
* `isGreatest_width`: the width of a column is the length of the longest of its texts, or of its name
  with a mark behind it.
* `LinesUp`: what holds of the shown columns and their cells, `linesUp_draw` after a drawing and
  `linesUp_run` after every history.
-/

namespace ResourceBrowser.Table

/-! ## Texts and their lengths -/

theorem length_fillRight (text : String) (width : Nat) :
    (fillRight text width).length = max text.length width := by
  unfold fillRight
  rw [String.length_append, String.length_ofList, List.length_replicate]
  omega

/-- The lengths of texts, and one that is asked for at least. -/
def lengths (least : Nat) (texts : List String) : Set Nat :=
  {n | n = least ∨ ∃ text ∈ texts, n = text.length}

theorem isGreatest_foldl_max (least : Nat) (texts : List String) :
    IsGreatest (lengths least texts)
      (texts.foldl (fun width text => max width text.length) least) := by
  induction texts generalizing least with
  | nil =>
    constructor
    · exact .inl rfl
    · rintro n (rfl | ⟨text, htext, -⟩)
      · exact Nat.le_refl _
      · cases htext
  | cons text texts ih =>
    rw [List.foldl_cons]
    obtain ⟨hmem, hbound⟩ := ih (max least text.length)
    constructor
    · -- the greatest is the length of a later text, or that of this one, or the least
      rcases hmem with hfirst | ⟨later, hlater, hlength⟩
      · rw [hfirst]
        rcases Nat.le_total text.length least with hle | hle
        · exact .inl (Nat.max_eq_left hle)
        · exact .inr ⟨text, List.mem_cons_self, Nat.max_eq_right hle⟩
      · exact .inr ⟨later, List.mem_cons_of_mem text hlater, hlength⟩
    · have hfirst := hbound (.inl rfl)
      rintro n (rfl | ⟨other, hother, rfl⟩)
      · omega
      · rcases List.mem_cons.1 hother with rfl | hlater
        · omega
        · exact hbound (.inr ⟨other, hlater, rfl⟩)

/-- The texts in column `c`, which is about field `i`, one for each row. -/
def Column.texts (c : Column) (i : Nat) (rows : List RowEvent) : List String :=
  rows.map fun e => (e.cellText? c i).getD ""

theorem says_texts (c : Column) (i : Nat) (rows : List RowEvent) :
    List.Forall₂ (fun e text => c.Says e i text) rows (c.texts i rows) := by
  unfold Column.texts
  rw [List.forall₂_map_right_iff, List.forall₂_same]
  intro e _
  exact says_cellText? c e i

/-! ## The two passes -/

section

variable {p : Plan} {j i : Nat} {c : Column}

/-- The width of a column is that of the longest text in it, or of its name with a mark. -/
theorem Plan.isGreatest_width (hi : p.indices[j]? = some i) (hc : p.header[j]? = some c)
    (rows : List RowEvent) : ∃ width, (p.widths rows)[j]? = some width ∧
      IsGreatest (lengths (c.name.length + 1) (c.texts i rows)) width := by
  have hcolumn : p.columns[j]? = some (i, c) := List.getElem?_zip_eq_some.2 ⟨hi, hc⟩
  have hwidth : (p.widths rows)[j]? =
      some ((c.texts i rows).foldl (fun width text => max width text.length)
        (c.name.length + 1)) := by
    unfold widths Column.texts
    rw [List.getElem?_map, hcolumn, Option.map_some, List.foldl_map]
    refine congrArg some (List.foldl_ext _ _ _ ?_)
    intro width e _
    -- a row without the field leaves the width as it is, and so does an empty text
    cases e.cellText? c i with
    | some text => rfl
    | none => exact (Nat.max_eq_left (Nat.zero_le width)).symm
  exact ⟨_, hwidth, isGreatest_foldl_max _ _⟩

/-- The cell at a place holds the text of the column there, filled up if it is left-aligned. -/
theorem Rendering.getElem?_cells (r : Rendering) (e : RowEvent) {width : Nat}
    (hi : r.plan.indices[j]? = some i) (hc : r.plan.header[j]? = some c)
    (hwidth : r.widths[j]? = some width) :
    (r.cells e)[j]?.map (·.text) = some (if c.align = .left
      then fillRight ((e.cellText? c i).getD "") width else (e.cellText? c i).getD "") := by
  have hcolumn : r.plan.columns[j]? = some (i, c) := List.getElem?_zip_eq_some.2 ⟨hi, hc⟩
  unfold cells
  rw [List.getElem?_mapIdx, hcolumn, hwidth]
  rfl

/-- A name fits above its column, with or without the mark of a direction. -/
theorem exists_headCell (k : SortKey) (hc : p.header[j]? = some c) :
    ∃ cell, (headCells p k)[j]? = some cell ∧ cell.text.length ≤ c.name.length + 1 := by
  unfold headCells
  rw [List.getElem?_map, hc]
  refine ⟨_, rfl, ?_⟩
  dsimp only
  split
  · have hmark : k.mark.length = 1 := by
      unfold SortKey.mark
      split <;> rfl
    rw [String.length_append, hmark]
  · exact Nat.le_succ _

end

namespace LiveTable

/-! ## Columns of a table -/

/-- The texts of the cells at place `j`, row by row. -/
def textsAt (t : LiveTable) (j : Nat) : List (Option String) :=
  t.grid.map fun cells => cells[j]?.map (·.text)

/-- Column `c` at place `j`, which is about field `i`, lines up: it has one of the `texts` for each
row on display, and is as wide as the longest of them. -/
structure LinesUpAt (t : LiveTable) (j i : Nat) (c : Column) (width : Nat) (texts : List String) :
    Prop where
  content : List.Forall₂ (fun e text => c.Says e i text) t.visible.rows texts
  known : (t.plan.widths t.visible.rows)[j]? = some width
  longest : IsGreatest (lengths (c.name.length + 1) texts) width
  /-- The name fits above the column together with the mark of a direction. -/
  head : ∃ cell, t.head[j]? = some cell ∧ cell.text.length ≤ width
  /-- The cells of a left-aligned column are filled up with blanks on the right, -/
  filled : c.align = .left → t.textsAt j = texts.map fun text => some (fillRight text width)
  /-- and then all of them are as long as the column is wide. -/
  length : c.align = .left →
    ∀ cells ∈ t.grid, ∃ cell, cells[j]? = some cell ∧ cell.text.length = width
  /-- The cells of other columns are left as they are. -/
  unfilled : c.align ≠ .left → t.textsAt j = texts.map some

/-- Every shown column lines up. -/
def LinesUp (t : LiveTable) : Prop :=
  ∀ j i c, t.plan.indices[j]? = some i → t.plan.header[j]? = some c →
    ∃ width texts, t.LinesUpAt j i c width texts

theorem linesUp_draw (t : LiveTable) (shown : Snapshot) : (t.draw shown).LinesUp := by
  intro j i c hi hc
  obtain ⟨width, hwidth, hgreatest⟩ := Plan.isGreatest_width hi hc (t.draw shown).visible.rows
  obtain ⟨head, hhead, hfits⟩ := exists_headCell (t.draw shown).sort hc
  -- the second pass is made with the widths of the first one
  have hcells : (t.draw shown).textsAt j = (c.texts i (t.draw shown).visible.rows).map fun text =>
      some (if c.align = .left then fillRight text width else text) := by
    unfold textsAt Column.texts
    rw [draw_grid, List.map_map, List.map_map]
    apply List.map_congr_left
    intro e _
    exact (t.draw shown).rendering.getElem?_cells e hi hc hwidth
  have hfilled : c.align = .left → (t.draw shown).textsAt j =
      (c.texts i (t.draw shown).visible.rows).map fun text => some (fillRight text width) := by
    intro hleft
    rw [hcells, hleft]
    rfl
  refine ⟨width, c.texts i (t.draw shown).visible.rows, says_texts c i _, hwidth, hgreatest,
    ⟨head, ?_, ?_⟩, hfilled, ?_, ?_⟩
  · rw [draw_head]
    exact hhead
  · exact Nat.le_trans hfits (hgreatest.2 (.inl rfl))
  · intro hleft cells hmem
    have htext : cells[j]?.map (·.text) ∈ (t.draw shown).textsAt j := List.mem_map_of_mem hmem
    rw [hfilled hleft, List.mem_map] at htext
    obtain ⟨text, htext, hcell⟩ := htext
    obtain ⟨cell, hcell, heq⟩ := Option.map_eq_some_iff.1 hcell.symm
    have hle : text.length ≤ width := hgreatest.2 (.inr ⟨text, htext, rfl⟩)
    refine ⟨cell, hcell, ?_⟩
    rw [heq, length_fillRight]
    omega
  · intro hother
    rw [hcells]
    simp only [if_neg hother]

variable [Engine]

/-- Only a drawing changes the plan, the rows on display or the cells. -/
theorem linesUp_apply (t : LiveTable) (op : Operation) (h : t.LinesUp) :
    (t.apply op).1.LinesUp := by
  refine apply_of_refresh op ?_ ?_
  · intro u
    obtain ⟨query, lastError, shown, hdraw, -⟩ := exists_draw u
    rw [hdraw]
    exact linesUp_draw _ shown
  · intro _ _ _ _ _ _ _ _ _ j i c hi hc
    obtain ⟨width, texts, hline⟩ := h j i c hi hc
    exact ⟨width, texts, hline.content, hline.known, hline.longest, hline.head, hline.filled,
      hline.length, hline.unfilled⟩

/-- Whatever is drawn, and whatever the table goes through after that, its columns line up. -/
theorem linesUp_run (t : LiveTable) (shown : Snapshot) (ops : List Operation) :
    ((t.draw shown).run ops).LinesUp :=
  run_induction (linesUp_draw t shown) linesUp_apply ops

end LiveTable

end ResourceBrowser.Table
