import ResourceBrowser.Proofs.Screen.Breaking
import ResourceBrowser.Proofs.Screen.Popups
import ResourceBrowser.Screen.Input
import ResourceBrowser.Table.NativeEngine

/-!
# How far the help can be scrolled

The help is scrolled by rows, but its last position is told by its lines: as many as there is no
room for. A line that is broken takes more than one row, so with broken lines the last position
comes too early, and the rows at the end of the help are never drawn.

Down moves the position on by one, and each frame keeps it at the last one or before. So the
positions of the frames go up one by one to the last one and stay there. A frame draws the rows from
its position on, as many as there is room for, and the rows that come on a frame at all are as many
as there are lines, or those that there is room for at once. The last row is one of them only if all
rows have room or there are no more rows than lines, which is that no line is broken.

* `Area.getElem?_window`: the rows that are drawn at a position.
* `Scene.frameAfter?`: the frames while Down is pressed, `exists_frameAfter?_eq`.
* `Scene.HasRow`: a row of the help is on a frame, `hasRow_iff`.
* `Scene.Reaches`: a frame with some property comes, `reaches_hasRow_iff`,
  `reaches_hasLastLine_iff`.
* `ScrollsDown`: what can be seen of the help, `scrollsDown_of_help`.
-/

namespace ResourceBrowser.Screen

open View

/-! ## The rows that are drawn -/

/-- The rows from the position on, as far as there is room; both are counted in 16 bits. -/
theorem Area.getElem?_window {α : Type} (a : Area) (scroll : Nat) (rows : List α) (y : Nat) :
    (a.window scroll rows)[y]? =
      if scroll % UInt16.size + y < (a.height.toNat + scroll) % UInt16.size
      then rows[scroll % UInt16.size + y]? else none := by
  have hstart : (UInt16.ofNat scroll).toNat = scroll % UInt16.size := UInt16.toNat_ofNat
  have hstop : (a.height + .ofNat scroll).toNat = (a.height.toNat + scroll) % UInt16.size := by
    rw [UInt16.toNat_add, hstart, Nat.add_mod_mod]
  unfold Area.window
  dsimp only
  rw [List.getElem?_drop, List.getElem?_take, hstart, hstop]

/-- The help popup on a screen of a given size. Where it cannot be placed this is an area without
cells. -/
def helpArea (width height : UInt16) : Area :=
  (Area.helpPopup? ⟨0, 0, width, height⟩).getD ⟨0, 0, 0, 0⟩

/-- The part of the help popup that shows its lines, on a screen of a given size. -/
def helpBody (width height : UInt16) : Area := (helpParts (helpArea width height)).1

/-- The line at the foot of the help popup. -/
def helpFooter (width height : UInt16) : Area := (helpParts (helpArea width height)).2

/-- With cells for its lines, the help has a place. -/
theorem helpPopup?_of_helpBody {width height : UInt16}
    (hbody : (helpBody width height).isEmpty = false) :
    Area.helpPopup? ⟨0, 0, width, height⟩ = some (helpArea width height) := by
  unfold helpBody helpArea at *
  cases hpopup : Area.helpPopup? ⟨0, 0, width, height⟩ with
  | none =>
    rw [hpopup] at hbody
    cases hbody
  | some popup => rfl

/-- The parts of the help popup are on the screen, the foot below the lines. -/
theorem within_helpBody {width height : UInt16}
    (hbody : (helpBody width height).isEmpty = false) :
    (helpBody width height).Within ⟨0, 0, width, height⟩ ∧
      (helpFooter width height).y.toNat = (helpBody width height).bottom := by
  have hscreen := Area.fits_screen width height
  have hpopup := Area.within_helpPopup? hscreen (helpPopup?_of_helpBody hbody)
  obtain ⟨hlines, -, hfooter⟩ := within_helpParts (hscreen.of_within hpopup)
  exact ⟨hlines.trans hpopup, hfooter⟩

namespace Scene

/-- The lines of the help. -/
def help (s : Scene) : List Line := helpLines s.browser.keymap.help

/-- The rows of the help on a screen of a given size. -/
def helpRows (s : Scene) (width height : UInt16) : List Run :=
  rowsOf s.help (helpBody width height).width.toNat

/-- The last position of the help on a screen of a given size. -/
def helpEnd (s : Scene) (width height : UInt16) : Nat :=
  Screen.helpEnd s.help (helpBody width height)

variable {s : Scene} {width height : UInt16} {state : State} {p : Nat}

/-! ## Frames with the help -/

/-- What is on the canvas before the popup is drawn. -/
def backdrop (s : Scene) (state : State) (width height : UInt16) : Canvas :=
  let panes := Area.panes ⟨0, 0, width, height⟩
  let c := (Canvas.blank width.toNat height.toNat).drawLines panes.header [headerLine s] false
  let c := c.drawLines panes.hints [hintsLine s.browser.keymap.hints] false
  let c := (c.drawTable panes.table s.browser.table state.offset).1
  c.drawLines panes.prompt [promptLine state s.browser.table.query] false

theorem sameSize_backdrop (s : Scene) (state : State) (width height : UInt16) :
    Canvas.SameSize (.blank width.toNat height.toNat) (s.backdrop state width height) := by
  have htable : ∀ (c : Canvas) (a : Area),
      c.SameSize (c.drawTable a s.browser.table state.offset).1 :=
    fun c a => (Canvas.sameSize_drawPanel c a _).trans (Canvas.sameSize_drawSheet _ _ _ _ _)
  exact (((Canvas.sameSize_drawRows _ _ _ _).trans (Canvas.sameSize_drawRows _ _ _ _)).trans
    (htable _ _)).trans (Canvas.sameSize_drawRows _ _ _ _)

/-- On a frame with the help, the position ends at the last one. The rows from there on are drawn
last, but for the foot, which tells the position. -/
theorem exists_draw?_help (s : Scene) (hbody : (helpBody width height).isEmpty = false)
    (h : state.popup = .help p) :
    ∃ (f : Frame) (c : Canvas), s.draw? state width height = some f ∧
      Canvas.SameSize (.blank width.toNat height.toNat) c ∧
      f.state.popup = .help (min p (s.helpEnd width height)) ∧
      f.canvas =
        (c.drawRows (helpBody width height)
          ((helpBody width height).window (min p (s.helpEnd width height))
            (s.helpRows width height)) false).drawLines (helpFooter width height)
          [helpFoot (min p (s.helpEnd width height)) (s.helpEnd width height)] false := by
  have hpopup : (s.backdrop state width height).drawPopup? ⟨0, 0, width, height⟩ s state.popup =
      some (((s.backdrop state width height).drawHelp (helpArea width height)
        s.browser.keymap.help p).1, .help (min p (s.helpEnd width height))) := by
    rw [h, Canvas.drawPopup?, helpPopup?_of_helpBody hbody]
    rfl
  refine ⟨_, ((s.backdrop state width height).openPanel (helpArea width height) " Help ").restyle
    (helpBody width height) (.ink .white), Option.map_eq_some_iff.2 ⟨_, hpopup, rfl⟩, ?_, rfl, rfl⟩
  exact (((sameSize_backdrop s state width height).trans (Canvas.sameSize_modifyArea _ _ _)).trans
    (Canvas.sameSize_drawPanel _ _ _)).trans (Canvas.sameSize_modifyArea _ _ _)

/-! ## Rows on the screen -/

/-- Row `row` of the help is on a frame: it is among the rows that are drawn at the position of the
frame, and its glyphs show at its place there, as far as they fit. -/
def HasRow (s : Scene) (width height : UInt16) (f : Frame) (row : Nat) : Prop :=
  ∃ position y, f.state.popup = .help position ∧
    ((helpBody width height).window position
      (List.range (s.helpRows width height).length))[y]? = some row ∧
    ∀ run ∈ (s.helpRows width height)[row]?,
      f.canvas.Shows (helpBody width height).x.toNat ((helpBody width height).y.toNat + y)
        (Run.fitting (helpBody width height).width.toNat run)

/-- A row that has room shows, and the foot, which is drawn below, leaves it alone. -/
theorem shows_aboveFoot (hbody : (helpBody width height).isEmpty = false) {c : Canvas}
    (hsize : Canvas.SameSize (.blank width.toNat height.toNat) c) {rows : List Run} {y : Nat}
    {run : Run} (hrow : rows[y]? = some run) (hy : y < (helpBody width height).height.toNat)
    (foot : Line) :
    ((c.drawRows (helpBody width height) rows false).drawLines (helpFooter width height) [foot]
        false).Shows (helpBody width height).x.toNat ((helpBody width height).y.toNat + y)
      (Run.fitting (helpBody width height).width.toNat run) := by
  obtain ⟨hscreen, hfooter⟩ := within_helpBody hbody
  have hright : (helpBody width height).right ≤ width.toNat := by
    simpa [Area.right] using hscreen.right
  have hbottom : (helpBody width height).bottom ≤ height.toNat := by
    simpa [Area.bottom] using hscreen.bottom
  have hshows := Canvas.shows_drawRows (c := c) hrow hy
    (hsize.width.symm ▸ hright) (hsize.height.symm ▸ hbottom)
  refine hshows.congr fun u => Canvas.changesOnly_drawRows _ _ _ _ u _ ?_
  -- the foot is below the row
  refine Bool.eq_false_iff.2 fun hcell => ?_
  have htop := (Area.has_iff.1 hcell).2.2.1
  have hbelow := Nat.add_lt_add_left hy (helpBody width height).y.toNat
  rw [hfooter] at htop
  exact Nat.not_lt.2 htop hbelow

/-- The rows on a frame are those from its position on, as many as there is room for. -/
theorem hasRow_iff (s : Scene) (hbody : (helpBody width height).isEmpty = false)
    (h : state.popup = .help p) {f : Frame} (hf : s.draw? state width height = some f) (row : Nat) :
    s.HasRow width height f row ↔
      row < (s.helpRows width height).length ∧
        min p (s.helpEnd width height) % UInt16.size ≤ row ∧
          row < ((helpBody width height).height.toNat + min p (s.helpEnd width height)) %
            UInt16.size := by
  obtain ⟨g, c, hg, hsize, hpopup, hcanvas⟩ := exists_draw?_help s hbody h
  obtain rfl := Option.some.inj (hf.symm.trans hg)
  generalize min p (s.helpEnd width height) = q at *
  constructor
  · rintro ⟨position, y, hposition, hrow, -⟩
    rw [hpopup] at hposition
    obtain rfl := Popup.help.inj hposition
    rw [Area.getElem?_window] at hrow
    split at hrow
    · obtain ⟨hcount, hy⟩ := List.getElem?_eq_some_iff.1 hrow
      rw [List.length_range] at hcount
      rw [List.getElem_range] at hy
      omega
    · cases hrow
  · rintro ⟨hcount, hstart, hstop⟩
    have hheight : row - q % UInt16.size < (helpBody width height).height.toNat := by
      rw [← Nat.add_mod_mod] at hstop
      have hle := Nat.mod_le ((helpBody width height).height.toNat + q % UInt16.size) UInt16.size
      omega
    have hrow : q % UInt16.size + (row - q % UInt16.size) = row := by omega
    refine ⟨q, row - q % UInt16.size, hpopup, ?_, ?_⟩
    · rw [Area.getElem?_window, hrow, if_pos hstop, List.getElem?_range hcount]
    · intro run hrun
      have hdrawn : ((helpBody width height).window q
          (s.helpRows width height))[row - q % UInt16.size]? = some run := by
        rw [Area.getElem?_window, hrow, if_pos hstop]
        exact hrun
      rw [hcanvas]
      exact shows_aboveFoot hbody hsize hdrawn hheight _

/-- The last of the lines, which no view changes. -/
def lastHelpLine : Line := helpEntry ("-f text", "fuzzy match on names")

theorem exists_help_eq (s : Scene) : ∃ above, s.help = above ++ [lastHelpLine] :=
  ⟨_, (List.append_assoc _ (helpSection "Filter" (filterForms.take 2)) [lastHelpLine]).symm⟩

/-- A line that is in the help of every view, and that is wider than the others there. -/
def widestHelpLine : Line := helpEntry ("<text>", "case-insensitive regex over all columns")

theorem widestHelpLine_mem_help (s : Scene) : widestHelpLine ∈ s.help :=
  List.mem_append_right _ (List.mem_cons_of_mem _ List.mem_cons_self)

/-- The last line of the help is on a frame: all its rows are, which are those below the rows of the
other lines. -/
def HasLastLine (s : Scene) (width height : UInt16) (f : Frame) : Prop :=
  ∀ row, (rowsOf s.help.dropLast (helpBody width height).width.toNat).length ≤ row →
    row < (s.helpRows width height).length → s.HasRow width height f row

/-- The rows of the last line come after those of the other lines. -/
theorem length_helpRows (s : Scene) (width height : UInt16) :
    (s.helpRows width height).length =
      (rowsOf s.help.dropLast (helpBody width height).width.toNat).length +
        (lastHelpLine.breakAt (helpBody width height).width.toNat).length := by
  obtain ⟨above, habove⟩ := exists_help_eq s
  unfold helpRows rowsOf
  rw [habove, List.dropLast_concat, List.flatMap_append, List.length_append]
  simp

/-- The lines of the help are those of every view and one for each key of the view. -/
theorem help_perm (s : Scene) : s.help.Perm (helpLines [] ++
    s.browser.keymap.entries.map fun e => helpEntry (e.1.text, e.2.description)) := by
  have hkeys : (s.browser.keymap.help.map helpEntry).Perm
      (s.browser.keymap.entries.map fun e => helpEntry (e.1.text, e.2.description)) := by
    have hlist := (List.mergeSort_perm ((s.browser.keymap.entries.filter fun _ => true).map
      fun e => (e.1.text, e.2.description)) Key.Keymap.listedLE).map helpEntry
    refine hlist.trans (.of_eq ?_)
    rw [List.filter_true, List.map_map]
    rfl
  have hview : s.help.Perm (helpLines [] ++ s.browser.keymap.help.map helpEntry) := by
    -- the lines below the keys of the view come before them
    have hswap : (s.browser.keymap.help.map helpEntry ++
        ([[]] ++ helpSection "Filter" filterForms)).Perm
          (([[]] ++ helpSection "Filter" filterForms) ++ s.browser.keymap.help.map helpEntry) :=
      List.perm_append_comm
    have hbelow := hswap.append_left (helpSection "General" globalKeys ++ [[]] ++
      helpSection "View" [])
    simpa [help, helpLines, helpSection] using hbelow
  exact hview.trans (hkeys.append_left _)

theorem isCell_lastHelpLine : ∀ p ∈ lastHelpLine.glyphs, p.1.width = 1 := by decide +kernel

theorem length_breakAt_widestHelpLine : ∀ room < 53,
    (widestHelpLine.breakAt room).length ≠ 1 := by decide +kernel

theorem width_helpEntry_le (e : String × String) : Run.width (helpEntry e).glyphs ≤
    2 * ((Table.fillRight e.1 keyWidth).length + e.2.length) := by
  have hkey := width_glyphs_le (Table.fillRight e.1 keyWidth) (.ink .cyan)
  have htext := width_glyphs_le e.2 {}
  have hsum : Run.width (helpEntry e).glyphs =
      Run.width ((Text.glyphs (Table.fillRight e.1 keyWidth)).map (·, Style.ink .cyan)) +
        Run.width ((Text.glyphs e.2).map (·, {})) := by
    rw [← Run.width_append, helpEntry, Line.glyphs, List.flatMap_cons, List.flatMap_cons,
      List.flatMap_nil, List.append_nil]
  omega

section

open Table

variable [Engine]

/-! ## Pressing Down -/

/-- The frame after Down was pressed so many times, with a frame drawn after each press. -/
def frameAfter? (s : Scene) (width height : UInt16) (state : State) : Nat → Option Frame
  | 0 => s.draw? state width height
  | n + 1 => do
    let drawn ← s.frameAfter? width height state n
    s.draw? (handleKey drawn.state s.browser.table { code := .down }).state width height

/-- A frame with some property comes while Down is pressed. -/
def Reaches (s : Scene) (width height : UInt16) (state : State) (has : Frame → Prop) : Prop :=
  ∃ n, ∃ f ∈ s.frameAfter? width height state n, has f

theorem popup_handleKey_down (h : state.popup = .help p) (t : Table.LiveTable) :
    (handleKey state t { code := .down }).state.popup = .help (nextPosition p) := by
  have hquit : isQuit { code := .down } = false := rfl
  unfold handleKey
  rw [hquit, h]
  rfl

/-- Each of these frames is drawn with the help open. Its position goes up by one from frame to
frame, up to the last one. -/
theorem exists_frameAfter?_eq (s : Scene) (hbody : (helpBody width height).isEmpty = false)
    (h : state.popup = .help p) (n : Nat) :
    ∃ (f : Frame) (before : State) (q : Nat), before.popup = .help q ∧
      s.frameAfter? width height state n = some f ∧ s.draw? before width height = some f ∧
      (p + n ≤ positionMax ∨ s.helpEnd width height ≤ positionMax →
        min q (s.helpEnd width height) = min (p + n) (s.helpEnd width height)) := by
  induction n with
  | zero =>
    obtain ⟨f, -, hf, -⟩ := exists_draw?_help s hbody h
    exact ⟨f, state, p, h, hf, hf, fun _ => rfl⟩
  | succ n ih =>
    obtain ⟨f, before, q, hq, hframe, hf, hposition⟩ := ih
    obtain ⟨g, -, hg, -, hpopup, -⟩ := exists_draw?_help s hbody hq
    obtain rfl := Option.some.inj (hf.symm.trans hg)
    have hdown := popup_handleKey_down hpopup s.browser.table
    obtain ⟨next, -, hnext, -⟩ := exists_draw?_help s hbody hdown
    refine ⟨next, _, _, hdown, ?_, hnext, ?_⟩
    · rw [frameAfter?, hframe]
      exact hnext
    · intro hmax
      have hsame := hposition (by omega)
      unfold nextPosition
      omega

/-- A row that comes on a frame lies on the first page or not further behind it than there are
lines to scroll. -/
theorem lt_of_reaches (s : Scene) (hbody : (helpBody width height).isEmpty = false)
    (h : state.popup = .help p) {row : Nat}
    (hrow : s.Reaches width height state (s.HasRow width height · row)) :
    row < max s.help.length (helpBody width height).height.toNat ∧ row + 1 < UInt16.size := by
  have hend : s.helpEnd width height = s.help.length - (helpBody width height).height.toNat := rfl
  obtain ⟨n, f, hn, hrow⟩ := hrow
  obtain ⟨g, before, q, hq, hframe, hg, -⟩ := exists_frameAfter?_eq s hbody h n
  obtain rfl := Option.some.inj (hn.symm.trans hframe)
  obtain ⟨-, -, hstop⟩ := (hasRow_iff s hbody hq hg row).1 hrow
  have hle := Nat.mod_le ((helpBody width height).height.toNat +
    min q (s.helpEnd width height)) UInt16.size
  have hlt := Nat.mod_lt ((helpBody width height).height.toNat +
    min q (s.helpEnd width height)) (show UInt16.size > 0 by decide)
  omega

/-- When the help has been opened, Down brings all rows on a frame but those that lie further behind
the end of the first page than there are lines to scroll. -/
theorem reaches_hasRow_iff (s : Scene) (hbody : (helpBody width height).isEmpty = false)
    (h : state.popup = .help 0) {row : Nat} (hrow : row < (s.helpRows width height).length) :
    s.Reaches width height state (s.HasRow width height · row) ↔
      row < max s.help.length (helpBody width height).height.toNat ∧ row + 1 < UInt16.size := by
  have hend : s.helpEnd width height = s.help.length - (helpBody width height).height.toNat := rfl
  have hsize : (helpBody width height).height.toNat < UInt16.size := UInt16.toNat_lt_size _
  have hheight := (Area.pos_of_isEmpty_eq_false hbody).2
  constructor
  · exact lt_of_reaches s hbody h
  · rintro ⟨hlines, hlast⟩
    -- the row is the last one on the frame, or on the first page
    let n := row - ((helpBody width height).height.toNat - 1)
    obtain ⟨f, before, q, hq, hframe, hf, hposition⟩ := exists_frameAfter?_eq s hbody h n
    have hmax : UInt16.size ≤ positionMax := by decide
    have hn : min q (s.helpEnd width height) = n := by
      rw [hposition (.inl (by omega))]
      omega
    refine ⟨n, f, hframe, (hasRow_iff s hbody hq hf row).2 ?_⟩
    rw [hn, Nat.mod_eq_of_lt (show n < UInt16.size by omega),
      Nat.mod_eq_of_lt (show (helpBody width height).height.toNat + n < UInt16.size by omega)]
    omega

/-- At the last position the last line is on the frame if all rows have room, and also if no line is
broken: the rows that are skipped then are as many as the lines that there is no room for. -/
theorem reaches_hasLastLine (s : Scene) (hbody : (helpBody width height).isEmpty = false)
    (h : state.popup = .help p)
    (hcount : (s.helpRows width height).length < UInt16.size)
    (hroom : (s.helpRows width height).length ≤ (helpBody width height).height.toNat ∨
      ∀ l ∈ s.help, (l.breakAt (helpBody width height).width.toNat).length = 1) :
    s.Reaches width height state (s.HasLastLine width height) := by
  obtain ⟨hwidth, hheight⟩ := Area.pos_of_isEmpty_eq_false hbody
  have hend : s.helpEnd width height = s.help.length - (helpBody width height).height.toNat := rfl
  have hsize : (helpBody width height).height.toNat < UInt16.size := UInt16.toNat_lt_size _
  have hlines : s.help.length ≤ (s.helpRows width height).length :=
    length_le_length_rowsOf _ hwidth
  -- the position is the last one by now
  obtain ⟨f, before, q, hq, hframe, hf, hposition⟩ :=
    exists_frameAfter?_eq s hbody h (s.helpEnd width height)
  have hmax : UInt16.size ≤ positionMax := by decide
  have hmin : min q (s.helpEnd width height) = s.helpEnd width height := by
    rw [hposition (.inr (by omega))]
    omega
  -- so no row of the last line is skipped, and the last one of them has room
  have hrows := length_helpRows s width height
  have hskipped : s.helpEnd width height ≤
      (rowsOf s.help.dropLast (helpBody width height).width.toNat).length ∧
        (s.helpRows width height).length ≤
          (helpBody width height).height.toNat + s.helpEnd width height := by
    rcases hroom with hroom | hunbroken
    · omega
    · obtain ⟨above, habove⟩ := exists_help_eq s
      have hlast := hunbroken lastHelpLine (by rw [habove]; simp)
      have hsame : (s.helpRows width height).length = s.help.length :=
        (length_rowsOf_eq_iff s.help hwidth).2 hunbroken
      omega
  refine ⟨_, f, hframe, fun row hbelow hrow => ?_⟩
  rw [hasRow_iff s hbody hq hf, hmin,
    Nat.mod_eq_of_lt (show s.helpEnd width height < UInt16.size by omega), Nat.mod_eq_of_lt
      (show (helpBody width height).height.toNat + s.helpEnd width height < UInt16.size by omega)]
  omega

/-- Down brings the last line on a frame exactly if the rows have room at once or no line is broken,
and the rows can be counted. -/
theorem reaches_hasLastLine_iff (s : Scene) (hbody : (helpBody width height).isEmpty = false)
    (h : state.popup = .help p) : s.Reaches width height state (s.HasLastLine width height) ↔
      (s.helpRows width height).length < UInt16.size ∧
        ((s.helpRows width height).length ≤ (helpBody width height).height.toNat ∨
          ∀ l ∈ s.help, (l.breakAt (helpBody width height).width.toNat).length = 1) := by
  constructor
  · rintro ⟨n, f, hf, hlastLine⟩
    -- the row that comes last is the one to be looked at
    have hwidth := (Area.pos_of_isEmpty_eq_false hbody).1
    have hlast := length_breakAt_pos (l := lastHelpLine) hwidth
    have hrows := length_helpRows s width height
    obtain ⟨hlt, hcount⟩ := lt_of_reaches s hbody h
      ⟨n, f, hf, hlastLine ((s.helpRows width height).length - 1) (by omega) (by omega)⟩
    have hlines : s.help.length ≤ (s.helpRows width height).length :=
      length_le_length_rowsOf _ hwidth
    refine ⟨by omega, ?_⟩
    rw [← length_rowsOf_eq_iff s.help hwidth]
    show _ ∨ (s.helpRows width height).length = _
    omega
  · rintro ⟨hcount, hroom⟩
    exact reaches_hasLastLine s hbody h hcount hroom

/-! ## The help as a whole -/

/-- What can be seen of the help that is open, with a frame drawn after each press of Down. -/
structure ScrollsDown (s : Scene) (width height : UInt16) (state : State) : Prop where
  /-- The position stays among those that the foot of the same frame counts. -/
  kept : ∀ n, ∃ f, s.frameAfter? width height state n = some f ∧
    ∃ position ≤ s.helpEnd width height, ∃ c : Canvas, f.state.popup = .help position ∧ f.canvas =
      c.drawLines (helpFooter width height) [helpFoot position (s.helpEnd width height)] false
  /-- From the start on, rows come on a frame up to the number of lines, and those that there is
  room for at once. -/
  seen : state.popup = .help 0 → ∀ row < (s.helpRows width height).length,
    (s.Reaches width height state (s.HasRow width height · row) ↔
      row < max s.help.length (helpBody width height).height.toNat ∧ row + 1 < UInt16.size)
  /-- The last line comes on a frame exactly if all rows have room at once or no line is broken. -/
  reached : s.Reaches width height state (s.HasLastLine width height) ↔
    (s.helpRows width height).length < UInt16.size ∧
      ((s.helpRows width height).length ≤ (helpBody width height).height.toNat ∨
        ∀ l ∈ s.help, (l.breakAt (helpBody width height).width.toNat).length = 1)
  /-- Where the last line comes on a frame, nothing of it is cut. -/
  whole : ∀ run ∈ lastHelpLine.breakAt (helpBody width height).width.toNat,
    Run.fitting (helpBody width height).width.toNat run = run
  /-- Lines that are narrower than their place are not broken. -/
  narrow : s.help.length < UInt16.size →
    (∀ l ∈ s.help, Run.width l.glyphs < (helpBody width height).width.toNat ∧
      (l.glyphs = [] ∨ ∃ p ∈ l.glyphs, p.1.isBreak = false)) →
    s.Reaches width height state (s.HasLastLine width height)
  /-- With less than 53 columns some line always is broken. -/
  broken : (helpBody width height).width.toNat < 53 →
    s.Reaches width height state (s.HasLastLine width height) →
    (s.helpRows width height).length ≤ (helpBody width height).height.toNat

/-- Down brings the end of the help on the screen only if the help has room at once or none of its
lines is broken: the last position is told by the number of lines, but rows are skipped. -/
theorem scrollsDown_of_help (s : Scene) (width height : UInt16) (h : state.popup = .help p)
    (hbody : (helpBody width height).isEmpty = false) : s.ScrollsDown width height state where
  kept := by
    intro n
    obtain ⟨f, before, q, hq, hframe, hf, -⟩ := exists_frameAfter?_eq s hbody h n
    obtain ⟨g, c, hg, -, hpopup, hcanvas⟩ := exists_draw?_help s hbody hq
    obtain rfl := Option.some.inj (hf.symm.trans hg)
    exact ⟨f, hframe, min q (s.helpEnd width height), Nat.min_le_right _ _, _, hpopup, hcanvas⟩
  seen := fun hstart _ hrow =>
    reaches_hasRow_iff s hbody hstart hrow
  reached := reaches_hasLastLine_iff s hbody h
  whole := fun run hrun =>
    Canvas.fitting_eq_self (width_le_of_mem_breakAt isCell_lastHelpLine run hrun)
  narrow := by
    intro hcount hnarrow
    have hunbroken : ∀ l ∈ s.help,
        (l.breakAt (helpBody width height).width.toNat).length = 1 := by
      intro l hl
      rw [breakAt_of_narrow (hnarrow l hl).1 (hnarrow l hl).2]
      rfl
    have hrows := (length_rowsOf_eq_iff s.help (Area.pos_of_isEmpty_eq_false hbody).1).2 hunbroken
    exact (reaches_hasLastLine_iff s hbody h).2
      ⟨Nat.lt_of_le_of_lt (Nat.le_of_eq hrows) hcount, .inr hunbroken⟩
  broken := by
    intro hnarrow hlast
    rcases ((reaches_hasLastLine_iff s hbody h).1 hlast).2 with hroom | hunbroken
    · exact hroom
    · exact absurd (hunbroken _ (widestHelpLine_mem_help s))
        (length_breakAt_widestHelpLine _ hnarrow)

end

attribute [local instance] Table.nativeEngine

/-- The view of pods with the keys that are bound by default. -/
def podsScene : Scene := ⟨.forKind "pods" {}, "", [], none⟩

theorem keys_podsScene : podsScene.browser.keymap.entries.length = 16 := by decide +kernel

theorem length_help_podsScene : podsScene.help.length = 30 := by
  rw [(help_perm podsScene).length_eq, List.length_append, List.length_map, keys_podsScene]
  decide

theorem isNarrow_help_podsScene : ∀ l ∈ podsScene.help,
    Run.width l.glyphs < 58 ∧ (l.glyphs = [] ∨ ∃ p ∈ l.glyphs, p.1.isBreak = false) := by
  have hlines : ∀ l ∈ helpLines [], l = helpEntry ("↑/k ↓/j", "move selection") ∨
      Run.width l.glyphs < 58 ∧ (l.glyphs = [] ∨ ∃ p ∈ l.glyphs, p.1.isBreak = false) := by
    decide +kernel
  -- this line is narrow however wide the arrows are
  have harrows : Run.width (helpEntry ("↑/k ↓/j", "move selection")).glyphs < 58 ∧
      ∃ p ∈ (helpEntry ("↑/k ↓/j", "move selection")).glyphs, p.1.isBreak = false := by
    have hlength : (Table.fillRight "↑/k ↓/j" keyWidth).length + "move selection".length = 28 := by
      decide +kernel
    have hcells : Run.width (helpEntry ("↑/k ↓/j", "move selection")).glyphs ≤ 2 * 28 :=
      hlength ▸ width_helpEntry_le ("↑/k ↓/j", "move selection")
    obtain ⟨p, hp, hword⟩ : ∃ p ∈ (Text.glyphs "move selection").map (·, ({} : Style)),
        p.1.isBreak = false := by decide +kernel
    exact ⟨by omega, p, List.mem_append_right _ (List.mem_append_left _ hp), hword⟩
  have hkeys : ∀ e ∈ podsScene.browser.keymap.entries,
      Run.width (helpEntry (e.1.text, e.2.description)).glyphs < 58 ∧
        ((helpEntry (e.1.text, e.2.description)).glyphs = [] ∨
          ∃ p ∈ (helpEntry (e.1.text, e.2.description)).glyphs, p.1.isBreak = false) := by
    decide +kernel
  intro l hl
  rcases List.mem_append.1 ((help_perm podsScene).mem_iff.1 hl) with hl | hl
  · rcases hlines l hl with rfl | hnarrow
    · exact ⟨harrows.1, .inr harrows.2⟩
    · exact hnarrow
  · obtain ⟨e, he, rfl⟩ := List.mem_map.1 hl
    exact hkeys e he

/-- On a screen of 100 columns the end of this help can be reached. -/
theorem scrollsDown_podsScene :
    ({ popup := .help 0 } : State).popup = .help 0 ∧ (helpBody 100 24).isEmpty = false ∧
      podsScene.ScrollsDown 100 24 { popup := .help 0 } ∧
      podsScene.Reaches 100 24 { popup := .help 0 } (podsScene.HasLastLine 100 24) := by
  have hscrolls : podsScene.ScrollsDown 100 24 { popup := .help 0 } :=
    scrollsDown_of_help podsScene 100 24 rfl rfl
  have hcount : podsScene.help.length < UInt16.size := by
    rw [length_help_podsScene]
    decide
  exact ⟨rfl, rfl, hscrolls, hscrolls.narrow hcount isNarrow_help_podsScene⟩

/-- On a screen of 80 columns it cannot: a line is broken, and its rows have not all room. -/
theorem not_reached_podsScene : (helpBody 80 24).isEmpty = false ∧
    ¬podsScene.Reaches 80 24 { popup := .help 0 } (podsScene.HasLastLine 80 24) := by
  refine ⟨rfl, ?_⟩
  rw [reaches_hasLastLine_iff podsScene rfl rfl]
  rintro ⟨-, hroom | hunbroken⟩
  · have hlines := length_le_length_rowsOf podsScene.help
      (show 0 < (helpBody 80 24).width.toNat by decide)
    have hlength := length_help_podsScene
    have hheight : (helpBody 80 24).height.toNat = 16 := rfl
    unfold helpRows at hroom
    omega
  · exact length_breakAt_widestHelpLine _ (by decide) (hunbroken _ (widestHelpLine_mem_help _))

end Scene

end ResourceBrowser.Screen
