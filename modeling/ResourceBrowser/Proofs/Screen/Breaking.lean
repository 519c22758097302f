import ResourceBrowser.Screen.Line

/-!
# Broken lines

A line that is broken has at least one row. A line that is narrower than its place is one row, and
so a text has more rows than lines only if some line is too wide. Glyphs of one cell each are
broken into rows that fit.

* `width_glyphs_le`: how much room a text takes at most.
* `Breaking.step_cases`: what becomes of the next glyph.
* `breakAt_of_narrow`, `width_le_of_mem_breakAt`, `length_rowsOf_eq_iff`: rows and their widths.
-/

namespace ResourceBrowser.Screen

open Text

/-! ## Widths -/

theorem Run.width_append (r r' : Run) : Run.width (r ++ r') = Run.width r + Run.width r' := by
  induction r with
  | nil => exact (Nat.zero_add _).symm
  | cons p r ih =>
    show p.1.width + Run.width (r ++ r') = p.1.width + Run.width r + Run.width r'
    rw [ih, Nat.add_assoc]

theorem Run.width_singleton (g : Glyph) (s : Style) : Run.width [(g, s)] = g.width := rfl

theorem charWidth_le (c : Char) : charWidth c ≤ 2 := by
  unfold charWidth
  repeat' split
  all_goals decide

/-- A cluster fills at most two cells for each of its characters. -/
theorem width_ofCluster_le (cluster : List Char) :
    (Glyph.ofCluster cluster).width ≤ 2 * cluster.length := by
  have hsum : cluster.foldr (fun c n => charWidth c + n) 0 ≤ 2 * cluster.length := by
    induction cluster with
    | nil => exact Nat.le_refl 0
    | cons c cluster ih =>
      have hc := charWidth_le c
      rw [List.foldr_cons, List.length_cons]
      omega
  match cluster with
  | [] | [_] => exact hsum
  | c :: c' :: rest =>
    unfold Glyph.ofCluster
    simp only [List.length_cons] at hsum ⊢
    split
    · split
      · omega
      · exact Nat.le_trans (Nat.min_le_right _ _) (by omega)
    · exact hsum

/-- The clusters of a text are its characters, none left out. -/
theorem flatten_clustersFrom (s : ClusterState) (current cs : List Char) :
    (clustersFrom s current cs).flatten = current.reverse ++ cs := by
  induction cs generalizing s current with
  | nil => simp [clustersFrom]
  | cons c cs ih =>
    rw [clustersFrom]
    split
    · rw [ih, List.reverse_cons, List.append_assoc, List.singleton_append]
    · rw [List.flatten_cons, ih]
      rfl

/-- A text fills at most two cells for each of its characters. -/
theorem width_glyphs_le (text : String) (style : Style) :
    Run.width ((Text.glyphs text).map fun g => (g, style)) ≤ 2 * text.length := by
  have hclusters : ∀ clusters : List (List Char),
      Run.width (((clusters.filter fun cluster => !cluster.any isControl).map
        Glyph.ofCluster).map fun g => (g, style)) ≤ 2 * clusters.flatten.length := by
    intro clusters
    induction clusters with
    | nil => exact Nat.le_refl 0
    | cons cluster clusters ih =>
      have hcluster := width_ofCluster_le cluster
      rw [List.filter_cons, List.flatten_cons, List.length_append]
      split
      · show (Glyph.ofCluster cluster).width + Run.width _ ≤ _
        omega
      · omega
  have hflatten : (clusters text.toList).flatten = text.toList := by
    cases text.toList with
    | nil => rfl
    | cons c cs => exact flatten_clustersFrom _ _ _
  have htext := hclusters (clusters text.toList)
  rw [hflatten, String.length_toList] at htext
  exact htext

namespace Breaking

variable {room : Nat} {b : Breaking} {g : Glyph} {s : Style}

/-! ## Single steps -/

/-- The width of what is not in a finished row. -/
def pending (b : Breaking) : Nat := Run.width b.row + Run.width b.blanks + Run.width b.word

/-- The word and the blanks before it leave no room for a glyph in a row of their own. -/
def IsLong (b : Breaking) (room : Nat) (g : Glyph) : Prop :=
  b.row = [] ∧ room < Run.width b.word + Run.width b.blanks + g.width

/-- There is no room for a glyph in the row. -/
def IsFull (b : Breaking) (room : Nat) (g : Glyph) : Prop :=
  room ≤ Run.width b.row ∨ 0 < g.width ∧ room ≤ b.pending

theorem pending_join (b : Breaking) : b.join.pending = b.pending := by
  unfold pending join
  simp only [Run.width_append]
  rfl

theorem pending_add (b : Breaking) (g : Glyph) (s : Style) :
    (b.add g s).pending = b.pending + g.width := by
  unfold pending add
  split
  · simp only [Run.width_append, Run.width_singleton]
    omega
  · simp only [Run.width_append, Run.width_singleton]
    omega

/-- The next glyph of a line: the word moves into the row if it ends or gets too long, and the row
is finished if it has no room for the glyph. -/
theorem step_cases (hg : g.width ≤ room) (b : Breaking) (s : Style) :
    ∃ b', (b' = b ∨ b' = b.join) ∧
      (b.inWord = true ∧ g.isBreak = true ∨ b.IsLong room g → b' = b.join) ∧
      (¬b'.IsFull room g ∧ step room b (g, s) = b'.add g s ∨
        b'.IsFull room g ∧ (step room b (g, s) = b'.finishRow room ∨
          step room b (g, s) = (b'.finishRow room).add g s)) := by
  let long := b.row.isEmpty && room < Run.width b.word + Run.width b.blanks + g.width
  refine ⟨if (b.inWord && g.isBreak) || long then b.join else b, ?_, ?_, ?_⟩
  · split
    · exact .inr rfl
    · exact .inl rfl
  · intro h
    refine if_pos ?_
    simpa [long, IsLong] using h
  · unfold step
    dsimp only
    rw [if_neg (Nat.not_lt.2 hg)]
    generalize (if (b.inWord && g.isBreak) || long then b.join else b) = b'
    split
    · rename_i hfull
      refine .inr ⟨by simpa [IsFull, pending] using hfull, ?_⟩
      split
      · exact .inl rfl
      · exact .inr rfl
    · rename_i hfull
      exact .inl ⟨by simpa [IsFull, pending] using hfull, rfl⟩

/-! ## Lines that are not broken -/

/-- Nothing has been broken off yet: the glyphs so far are in the row, the blanks and the word. -/
structure Unbroken (b : Breaking) (run : Run) : Prop where
  rows : b.rows = []
  glyphs : b.row ++ b.blanks ++ b.word = run
  blanks : ∀ p ∈ b.blanks, p.1.isBreak = true
  word : b.inWord = false → b.word = []

variable {run : Run}

theorem Unbroken.join (h : b.Unbroken run) : b.join.Unbroken run where
  rows := h.rows
  glyphs := by simp [Breaking.join, h.glyphs]
  blanks := nofun
  word := fun _ => rfl

theorem Unbroken.pending (h : b.Unbroken run) : b.pending = Run.width run := by
  rw [← h.glyphs, Run.width_append, Run.width_append]
  rfl

theorem Unbroken.add (h : b.Unbroken run) (hword : g.isBreak = true → b.word = []) (s : Style) :
    (b.add g s).Unbroken (run ++ [(g, s)]) := by
  unfold Breaking.add
  split
  · rename_i hbreak
    have hnil := hword hbreak
    constructor
    · exact h.rows
    · simp [← h.glyphs, hnil]
    · intro p hp
      rcases List.mem_append.1 hp with hp | hp
      · exact h.blanks p hp
      · rw [List.mem_singleton.1 hp]
        exact hbreak
    · exact fun _ => hnil
  · exact ⟨h.rows, by simp [← h.glyphs], h.blanks, nofun⟩

/-- A glyph that there is room for is added. -/
theorem Unbroken.step (h : b.Unbroken run) (hroom : Run.width run + g.width < room) (s : Style) :
    (Breaking.step room b (g, s)).Unbroken (run ++ [(g, s)]) := by
  obtain ⟨b', hsame, hjoin, hcases⟩ := step_cases (show g.width ≤ room by omega) b s
  have hunbroken : b'.Unbroken run := by
    rcases hsame with rfl | rfl
    · exact h
    · exact h.join
  have hfull : ¬b'.IsFull room g := by
    have hpending := hunbroken.pending
    rintro (hrow | ⟨-, hroom'⟩)
    · unfold Breaking.pending at hpending
      omega
    · omega
  rcases hcases with ⟨-, hstep⟩ | ⟨hnot, -⟩
  · rw [hstep]
    refine hunbroken.add ?_ s
    intro hbreak
    cases hword : b.inWord with
    | true => rw [hjoin (.inl ⟨hword, hbreak⟩)]; rfl
    | false =>
      rcases hsame with rfl | rfl
      · exact h.word hword
      · rfl
  · exact absurd hnot hfull

/-- A line that there is room for stays as it is. -/
theorem unbroken_foldl {rest : Run} (h : b.Unbroken run)
    (hroom : Run.width run + Run.width rest < room) :
    (rest.foldl (Breaking.step room) b).Unbroken (run ++ rest) := by
  induction rest generalizing b run with
  | nil => rwa [List.append_nil]
  | cons p rest ih =>
    obtain ⟨g, s⟩ := p
    have hsum : Run.width run + (g.width + Run.width rest) < room := hroom
    have hstep := h.step (show Run.width run + g.width < room by omega) s
    rw [List.append_cons]
    refine ih hstep ?_
    rw [Run.width_append, Run.width_singleton]
    omega

/-- What is left at the end of a line that was not broken is one row, if there is a word in it. -/
theorem Unbroken.finish (h : b.Unbroken run)
    (hword : run = [] ∨ ∃ p ∈ run, p.1.isBreak = false) : b.finish = [run] := by
  have hblank : (b.row.isEmpty && b.word.isEmpty && !b.blanks.isEmpty) = false := by
    rw [Bool.eq_false_iff]
    intro hblank
    simp only [Bool.and_eq_true, List.isEmpty_iff, Bool.not_eq_true'] at hblank
    obtain ⟨⟨hrow, hnone⟩, hblanks⟩ := hblank
    have hrun : run = b.blanks := by rw [← h.glyphs, hrow, hnone, List.nil_append, List.append_nil]
    rcases hword with rfl | ⟨p, hp, hnot⟩
    · rw [← hrun] at hblanks
      cases hblanks
    · rw [h.blanks p (hrun ▸ hp)] at hnot
      cases hnot
  have hlast : b.join.row = run := h.glyphs
  unfold Breaking.finish
  rw [hblank, hlast, h.rows]
  cases run with
  | nil => rfl
  | cons p run => rfl

/-! ## Rows that fit -/

theorem dropBlanks_eq_nil {r : Run} (h : Run.width r ≤ room) : dropBlanks room r = [] := by
  induction r generalizing room with
  | nil => rfl
  | cons p r ih =>
    have hsum : p.1.width + Run.width r ≤ room := h
    rw [dropBlanks, if_pos (by omega)]
    exact ih (by omega)

/-- No row is wider than the place, and what is not in a finished row is not wider either. -/
structure Fitting (room : Nat) (b : Breaking) : Prop where
  rows : ∀ r ∈ b.rows, Run.width r ≤ room
  pending : b.pending ≤ room
  /-- A row that is begun takes some room. -/
  glyphs : ∀ p ∈ b.row ++ b.blanks ++ b.word, 0 < p.1.width

theorem Fitting.join (h : b.Fitting room) : b.join.Fitting room where
  rows := h.rows
  pending := by
    rw [pending_join]
    exact h.pending
  glyphs := by
    have hglyphs := h.glyphs
    simpa [Breaking.join] using hglyphs

theorem Fitting.add (h : b.Fitting room) (hg : 0 < g.width) (hroom : b.pending + g.width ≤ room)
    (s : Style) : (b.add g s).Fitting room where
  rows := by
    unfold Breaking.add
    split <;> exact h.rows
  pending := by
    rw [pending_add]
    exact hroom
  glyphs := by
    intro p hp
    have hmem : p ∈ b.row ++ b.blanks ++ b.word ∨ p = (g, s) := by
      unfold Breaking.add at hp
      split at hp
      · simp only [List.mem_append, List.mem_singleton] at hp ⊢
        grind
      · simp only [List.mem_append, List.mem_singleton] at hp ⊢
        grind
    rcases hmem with hmem | rfl
    · exact h.glyphs p hmem
    · exact hg

/-- A full row takes all blanks after it. -/
theorem Fitting.finishRow (h : b.Fitting room) (hfull : b.pending = room) :
    (b.finishRow room).Fitting room ∧ (b.finishRow room).pending = Run.width b.word := by
  have hpending : Run.width b.row + Run.width b.blanks + Run.width b.word = room := hfull
  have hnone : dropBlanks (room - Run.width b.row) b.blanks = [] := dropBlanks_eq_nil (by omega)
  have hword : (b.finishRow room).pending = Run.width b.word := by
    unfold Breaking.pending Breaking.finishRow
    rw [hnone]
    exact Nat.zero_add _
  refine ⟨⟨?_, by omega, ?_⟩, hword⟩
  · intro r hr
    rcases List.mem_cons.1 hr with rfl | hr
    · omega
    · exact h.rows r hr
  · intro p hp
    unfold Breaking.finishRow at hp
    rw [hnone] at hp
    exact h.glyphs p (List.mem_append_right _ hp)

/-- A full row takes some room, or else the word has moved into it. -/
theorem word_lt_room {b' : Breaking} (h : b'.Fitting room) (hroom : 0 < room)
    (hsame : b' = b ∨ b' = b.join) (hlong : b.IsLong room g → b' = b.join) (hg : 0 < g.width)
    (hfull : b'.pending = room) : Run.width b'.word < room := by
  have hpending : Run.width b'.row + Run.width b'.blanks + Run.width b'.word = room := hfull
  rcases hsame with rfl | rfl
  · cases hrow : b'.row with
    | nil =>
      rw [hrow] at hpending
      have hempty : Run.width ([] : Run) = 0 := rfl
      have hjoin := hlong ⟨hrow, by omega⟩
      rw [hjoin]
      exact hroom
    | cons p row =>
      have hp := h.glyphs p (by simp [hrow])
      have hwidth : Run.width b'.row = p.1.width + Run.width row := by rw [hrow]; rfl
      omega
  · exact hroom

/-- A glyph of one cell is added to the row, or begins the next one. -/
theorem Fitting.step (h : b.Fitting room) (hroom : 0 < room) (hg : g.width = 1) (s : Style) :
    (Breaking.step room b (g, s)).Fitting room := by
  obtain ⟨b', hsame, hjoin, hcases⟩ := step_cases (show g.width ≤ room by omega) b s
  have hfitting : b'.Fitting room := by
    rcases hsame with rfl | rfl
    · exact h
    · exact h.join
  have hpending := hfitting.pending
  rcases hcases with ⟨hnot, hstep⟩ | ⟨hfull, hstep⟩
  · rw [hstep]
    have hroom' : ¬room ≤ b'.pending := fun hle => hnot (.inr ⟨by omega, hle⟩)
    exact hfitting.add (by omega) (by omega) s
  · have hexact : b'.pending = room := by
      rcases hfull with hrow | ⟨-, hrow⟩
      · unfold Breaking.pending at hpending ⊢
        omega
      · omega
    obtain ⟨hfinished, hword⟩ := hfitting.finishRow hexact
    rcases hstep with hstep | hstep
    · rw [hstep]
      exact hfinished
    · have hlt := word_lt_room hfitting hroom hsame (fun hlong => hjoin (.inr hlong)) (by omega)
        hexact
      rw [hstep]
      exact hfinished.add (by omega) (by omega) s

theorem fitting_foldl {run : Run} (h : b.Fitting room) (hroom : 0 < room)
    (hrun : ∀ p ∈ run, p.1.width = 1) : (run.foldl (Breaking.step room) b).Fitting room :=
  List.foldlRecOn (motive := Fitting room) run _ h
    fun _ hb p hp => hb.step hroom (hrun p hp) p.2

theorem mem_finish {r : Run} (h : r ∈ b.finish) : r = [] ∨ r ∈ b.rows ∨ r = b.join.row := by
  have hfinal : ∀ rows : List Run, r ∈ (if rows.isEmpty then [[]] else rows.reverse) →
      r = [] ∨ r ∈ rows := by
    intro rows hr
    split at hr
    · exact .inl (List.mem_singleton.1 hr)
    · exact .inr (List.mem_reverse.1 hr)
  have hblank : ∀ blank : Bool, r ∈ (if blank then [] :: b.rows else b.rows) →
      r = [] ∨ r ∈ b.rows := by
    rintro (_ | _) hr
    · exact .inr hr
    · exact List.mem_cons.1 hr
  rcases hfinal _ h with hr | hr
  · exact .inl hr
  · split at hr
    · exact (hblank _ hr).imp_right .inl
    · rcases List.mem_cons.1 hr with hlast | hr
      · exact .inr (.inr hlast)
      · exact (hblank _ hr).imp_right .inl

theorem Fitting.finish (h : b.Fitting room) : ∀ r ∈ b.finish, Run.width r ≤ room := by
  intro r hr
  rcases mem_finish hr with rfl | hr | rfl
  · exact Nat.zero_le _
  · exact h.rows r hr
  · have hpending := h.pending
    unfold Breaking.pending at hpending
    show Run.width (b.row ++ b.blanks ++ b.word) ≤ room
    rw [Run.width_append, Run.width_append]
    exact hpending

end Breaking

/-- Every line has a row, unless there is no room at all. -/
theorem length_breakAt_pos {l : Line} {room : Nat} (h : 0 < room) :
    0 < (l.breakAt room).length := by
  have hrows : ∀ rows : List Run, 0 < (if rows.isEmpty then [[]] else rows.reverse).length := by
    intro rows
    cases rows <;> simp
  rw [Line.breakAt, if_neg (Nat.ne_of_gt h)]
  exact hrows _

/-- A line that is narrower than its place is one row, unless it consists of blanks. -/
theorem breakAt_of_narrow {l : Line} {room : Nat} (h : Run.width l.glyphs < room)
    (hword : l.glyphs = [] ∨ ∃ p ∈ l.glyphs, p.1.isBreak = false) :
    l.breakAt room = [l.glyphs] := by
  have hstart : Breaking.Unbroken {} [] := ⟨rfl, rfl, nofun, fun _ => rfl⟩
  have hnone : Run.width [] + Run.width l.glyphs < room := (Nat.zero_add _).symm ▸ h
  rw [Line.breakAt, if_neg (by omega)]
  exact (Breaking.unbroken_foldl hstart hnone).finish hword

/-- Glyphs of one cell each are broken into rows that fit. -/
theorem width_le_of_mem_breakAt {l : Line} {room : Nat} (h : ∀ p ∈ l.glyphs, p.1.width = 1) :
    ∀ row ∈ l.breakAt room, Run.width row ≤ room := by
  unfold Line.breakAt
  split
  · exact nofun
  · rename_i hroom
    have hstart : Breaking.Fitting room {} := ⟨nofun, Nat.zero_le _, nofun⟩
    exact (Breaking.fitting_foldl hstart (Nat.pos_of_ne_zero hroom) h).finish

/-! ## Rows of a text -/

/-- The rows of lines that are broken at `room` cells. -/
def rowsOf (lines : List Line) (room : Nat) : List Run := lines.flatMap (Line.breakAt room)

theorem length_le_length_rowsOf (lines : List Line) {room : Nat} (h : 0 < room) :
    lines.length ≤ (rowsOf lines room).length := by
  induction lines with
  | nil => exact Nat.le_refl 0
  | cons l lines ih =>
    have hl := length_breakAt_pos (l := l) h
    show lines.length + 1 ≤ (l.breakAt room ++ rowsOf lines room).length
    rw [List.length_append]
    omega

/-- There are as many rows as lines exactly if no line is broken. -/
theorem length_rowsOf_eq_iff (lines : List Line) {room : Nat} (h : 0 < room) :
    (rowsOf lines room).length = lines.length ↔
      ∀ l ∈ lines, (l.breakAt room).length = 1 := by
  induction lines with
  | nil => exact ⟨fun _ => nofun, fun _ => rfl⟩
  | cons l lines ih =>
    have hl := length_breakAt_pos (l := l) h
    have hlines := length_le_length_rowsOf lines h
    rw [List.forall_mem_cons, ← ih]
    show (l.breakAt room ++ rowsOf lines room).length = lines.length + 1 ↔ _
    rw [List.length_append]
    omega

end ResourceBrowser.Screen
