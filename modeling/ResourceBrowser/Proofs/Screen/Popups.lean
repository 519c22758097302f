import ResourceBrowser.Proofs.Screen.Drawing
import ResourceBrowser.Screen.Frame

/-!
# Where popups are drawn

Every popup is drawn inside the screen, and what is drawn for it changes cells of its area only. The
popups that ask for a size have it, as far as the screen leaves two cells free on every side.

Sizes are counted in words of 16 bits, though, and the program stops where a word cannot hold one.
It takes the share of the help from a product, which is too large on a very wide or very high
screen. A popup for a list asks for its lines and some more. Their number starts again at zero where
it is too large, and the program stops just before that, where the lines can be counted and the
others with them cannot.

* `Placed`: a popup has the size that it asks for, `exists_placed_popup?`.
* `PlacesList`: the popups for lists, `placesList_listPopup?`.
* `share`: a share of the screen between bounds, `toNat_of_mem_share?`.
* `Popup.area?`: where a popup is, `within_area?`, `changesOnly_drawPopup?`.
* `PlacesPopups`: what holds of the popups on a screen, `placesPopups_of_fits`.
-/

namespace ResourceBrowser.Screen

open Number

namespace Area

variable {a p : Area}

/-! ## Popups that ask for a size -/

/-- A popup has a size and two cells free on every side, as far as there is room for both. What is
left free goes before the size. -/
structure Placed (a p : Area) (width height : Nat) : Prop where
  width : p.width.toNat = min width (a.width.toNat - 4)
  height : p.height.toNat = min height (a.height.toNat - 4)
  columns : 4 ≤ a.width.toNat → a.x.toNat + 2 ≤ p.x.toNat ∧ p.right + 2 ≤ a.right
  rows : 4 ≤ a.height.toNat → a.y.toNat + 2 ≤ p.y.toNat ∧ p.bottom + 2 ≤ a.bottom

theorem toNat_min_less (requested size : UInt16) :
    (min requested (less size 4)).toNat = min requested.toNat (size.toNat - 4) := by
  rw [toNat_min, toNat_less]
  rfl

theorem exists_placed_popup? (h : a.Fits) (width height : UInt16) :
    ∃ p, a.popup? width height = some p ∧ a.Placed p width.toNat height.toNat := by
  obtain ⟨p, hp, hwidth, hheight, hx, hy⟩ :=
    exists_center? h (min width (less a.width 4)) (min height (less a.height 4))
  replace hwidth := (congrArg UInt16.toNat hwidth).trans (toNat_min_less width a.width)
  replace hheight := (congrArg UInt16.toNat hheight).trans (toNat_min_less height a.height)
  rw [toNat_min_less] at hx hy
  refine ⟨p, hp, hwidth, hheight, fun hroom => ?_, fun hroom => ?_⟩
  · unfold Area.right
    omega
  · unfold Area.bottom
    omega

theorem within_popup? (h : a.Fits) {width height : UInt16} (hp : p ∈ a.popup? width height) :
    p.Within a := by
  refine within_center? h ?_ ?_ hp
  · rw [UInt16.le_iff_toNat_le, toNat_min_less]
    omega
  · rw [UInt16.le_iff_toNat_le, toNat_min_less]
    omega

/-! ## Popups for lists -/

/-- The popups for lists of any length: one row for every line, and some more. -/
structure PlacesList (a : Area) (width more : Nat) (popup? : Nat → Option Area) : Prop where
  /-- There is no popup if the lines, counted in 16 bits, cannot be counted with the other rows. -/
  failed (n : Nat) : popup? n = none ↔ UInt16.size ≤ n % UInt16.size + more
  /-- A popup has the rows for its lines as they are counted. -/
  counted (n : Nat) : ∀ p ∈ popup? n, a.Placed p width (n % UInt16.size + more)
  /-- So it has one for each line, unless their number starts again at zero and then is too small to
  fill the screen. -/
  requested (n : Nat) : ∀ p ∈ popup? n, (a.Placed p width (n + more) ↔
    n < UInt16.size ∨ a.height.toNat - 4 ≤ n % UInt16.size + more)

theorem within_listPopup? (h : a.Fits) {width more : UInt16} {n : Nat}
    (hp : p ∈ a.listPopup? width n more) : p.Within a := by
  obtain ⟨rows, -, hp⟩ := Option.bind_eq_some_iff.1 hp
  exact within_popup? h hp

theorem placesList_listPopup? (h : a.Fits) (width more : UInt16) :
    a.PlacesList width.toNat more.toNat fun n => a.listPopup? width n more := by
  have hcounted (n : Nat) : ∀ p ∈ a.listPopup? width n more,
      a.Placed p width.toNat (n % UInt16.size + more.toNat) := by
    intro p hp
    obtain ⟨rows, hrows, hp⟩ := Option.bind_eq_some_iff.1 hp
    obtain ⟨q, hq, hplaced⟩ := exists_placed_popup? h width rows
    obtain rfl := Option.some.inj (hp.symm.trans hq)
    rwa [sum16?_eq_some_iff.1 hrows, UInt16.toNat_ofNat'] at hplaced
  refine ⟨fun n => ?_, hcounted, fun n p hp => ?_⟩
  · -- whatever can be counted can be placed
    have hplaced (rows : UInt16) : a.popup? width rows ≠ none := by
      obtain ⟨p, hp, -⟩ := exists_placed_popup? h width rows
      rw [hp]
      exact Option.some_ne_none p
    unfold listPopup?
    rw [Option.bind_eq_none_iff, ← UInt16.toNat_ofNat', ← sum16?_eq_none_iff]
    constructor
    · exact fun hnone => Option.eq_none_iff_forall_not_mem.2 fun rows hrows =>
        hplaced rows (hnone rows hrows)
    · intro hnone rows hrows
      rw [hnone] at hrows
      cases hrows
  · have hplaced := hcounted n p hp
    have hroom : a.height.toNat - 4 < UInt16.size :=
      Nat.lt_of_le_of_lt (Nat.sub_le _ _) a.height.toNat_lt_size
    constructor
    · intro hexact
      have hheight := hplaced.height.symm.trans hexact.height
      rcases Nat.lt_or_ge n UInt16.size with hlt | hge
      · exact .inl hlt
      · exact .inr (by omega)
    · rintro (hlt | hfull)
      · rwa [Nat.mod_eq_of_lt hlt] at hplaced
      · have hle := Nat.mod_le n UInt16.size
        exact { hplaced with height := hplaced.height.trans (by omega) }

/-! ## The help -/

/-- A share of a size in percent, between bounds, but no more than there is. -/
def share (size percent low high : Nat) : Nat :=
  min (min (max (size * percent / 100) low) high) size

theorem toNat_of_mem_share? {size percent low high n : UInt16}
    (h : n ∈ share? size percent low high) :
    (min n size).toNat = share size.toNat percent.toNat low.toNat high.toNat := by
  obtain ⟨product, hproduct, rfl⟩ := Option.map_eq_some_iff.1 h
  rw [clamp, toNat_min, toNat_min, toNat_max, UInt16.toNat_div, product16?_eq_some_iff.1 hproduct]
  rfl

theorem share?_eq_none_iff {size percent low high : UInt16} :
    share? size percent low high = none ↔ UInt16.size ≤ size.toNat * percent.toNat := by
  rw [share?, Option.map_eq_none_iff, product16?_eq_none_iff]

theorem mem_helpPopup?_iff : p ∈ a.helpPopup? ↔
    ∃ width ∈ share? a.width 60 40 80, ∃ height ∈ share? a.height 80 10 30,
      p ∈ a.center? (min width a.width) (min height a.height) := by
  simp [helpPopup?, Option.bind_eq_some_iff]

theorem helpPopup?_eq_none_iff (h : a.Fits) : a.helpPopup? = none ↔
    UInt16.size ≤ a.width.toNat * 60 ∨ UInt16.size ≤ a.height.toNat * 80 := by
  have hwidth : share? a.width 60 40 80 = none ↔ UInt16.size ≤ a.width.toNat * 60 :=
    share?_eq_none_iff
  have hheight : share? a.height 80 10 30 = none ↔ UInt16.size ≤ a.height.toNat * 80 :=
    share?_eq_none_iff
  rw [← hwidth, ← hheight]
  constructor
  · intro hnone
    by_contra hshares
    obtain ⟨hwidth, hheight⟩ := not_or.1 hshares
    obtain ⟨width, hwidth⟩ := Option.ne_none_iff_exists'.1 hwidth
    obtain ⟨height, hheight⟩ := Option.ne_none_iff_exists'.1 hheight
    obtain ⟨p, hp, -⟩ := exists_center? h (min width a.width) (min height a.height)
    have hsome := mem_helpPopup?_iff.2 ⟨width, hwidth, height, hheight, hp⟩
    rw [hnone] at hsome
    cases hsome
  · intro hnone
    refine Option.eq_none_iff_forall_not_mem.2 fun p hp => ?_
    obtain ⟨width, hwidth, height, hheight, -⟩ := mem_helpPopup?_iff.1 hp
    rcases hnone with hnone | hnone
    · rw [hnone] at hwidth
      cases hwidth
    · rw [hnone] at hheight
      cases hheight

theorem within_helpPopup? (h : a.Fits) (hp : p ∈ a.helpPopup?) : p.Within a := by
  obtain ⟨width, -, height, -, hp⟩ := mem_helpPopup?_iff.1 hp
  have hle (m n : UInt16) : min m n ≤ n := by
    rw [UInt16.le_iff_toNat_le, toNat_min]
    exact Nat.min_le_right _ _
  exact within_center? h (hle _ _) (hle _ _) hp

theorem size_of_mem_helpPopup? (h : a.Fits) (hp : p ∈ a.helpPopup?) :
    p.width.toNat = share a.width.toNat 60 40 80 ∧
      p.height.toNat = share a.height.toNat 80 10 30 := by
  obtain ⟨width, hwidth, height, hheight, hp⟩ := mem_helpPopup?_iff.1 hp
  obtain ⟨q, hq, hqwidth, hqheight, -⟩ :=
    exists_center? h (min width a.width) (min height a.height)
  obtain rfl := Option.some.inj (hp.symm.trans hq)
  rw [hqwidth, hqheight]
  exact ⟨toNat_of_mem_share? hwidth, toNat_of_mem_share? hheight⟩

end Area

/-! ## The areas of popups -/

/-- The area of the popup that is open on a screen for so many tunnels, if it can be placed. -/
def Popup.area? (screen : Area) (tunnels : Nat) : Popup → Option Area
  | .none => Option.none
  | .help _ => screen.helpPopup?
  | .quit => screen.quitPopup?
  | .forward d => screen.forwardPopup? d.candidates.length
  | .tunnels _ => screen.tunnelsPopup? tunnels

variable {a p : Area}

/-- Popups are inside the screen. -/
theorem within_area? (h : a.Fits) {popup : Popup} {tunnels : Nat}
    (hp : p ∈ popup.area? a tunnels) : p.Within a := by
  cases popup with
  | none => cases hp
  | help scroll => exact Area.within_helpPopup? h hp
  | quit => exact Area.within_popup? h hp
  | forward d => exact Area.within_listPopup? h hp
  | tunnels selected => exact Area.within_listPopup? h hp

/-! ## Drawing popups -/

/-- The parts of the help popup are in it, the foot below the lines. -/
theorem within_helpParts (h : p.Fits) : (helpParts p).1.Within p ∧ (helpParts p).2.Within p ∧
    (helpParts p).2.y.toNat = (helpParts p).1.bottom := by
  have hinner := Area.within_inner h
  obtain ⟨hbody, hfoot, hplace⟩ := Area.within_splitTop (h.of_within hinner)
    (max (Area.less p.inner.height 1) (min p.inner.height 1))
  exact ⟨hbody.trans hinner, hfoot.trans hinner, hplace⟩

theorem Canvas.changesOnly_drawHelp (c : Canvas) (h : p.Fits) (keys : List (String × String))
    (scroll : Nat) : c.ChangesOnly p (c.drawHelp p keys scroll).1 := by
  obtain ⟨hbody, hfoot, -⟩ := within_helpParts h
  exact ((changesOnly_openPanel c h _).trans
    (changesOnly_drawRows_restyle _ hbody _ _ _)).trans ((changesOnly_drawRows _ _ _ _).mono hfoot)

/-- A panel and text in it. -/
theorem Canvas.changesOnly_drawLines_inner (c : Canvas) (h : p.Fits) (title : String)
    (lines : List Line) (centered : Bool) :
    c.ChangesOnly p ((c.openPanel p title).drawLines p.inner lines centered) :=
  (changesOnly_openPanel c h title).trans
    ((changesOnly_drawRows _ _ _ _).mono (Area.within_inner h))

theorem Canvas.changesOnly_drawTunnels (c : Canvas) (h : p.Fits) (tunnels : List Tunnel.Entry)
    (selected : Nat) : c.ChangesOnly p (c.drawTunnels p tunnels selected).1 := by
  have hinner := Area.within_inner h
  unfold drawTunnels
  dsimp only
  split
  · exact (changesOnly_openPanel c h _).trans (changesOnly_drawRows_restyle _ hinner _ _ _)
  · exact (changesOnly_openPanel c h _).trans
      ((changesOnly_drawSheet _ _ (h.of_within hinner) _ _).mono hinner)

/-- A popup is drawn wherever it is placed, and that changes cells of its area only. -/
theorem changesOnly_drawPopup? (h : a.Fits) (c : Canvas) (s : Scene) {popup : Popup}
    (hp : p ∈ popup.area? a s.tunnels.length) :
    ∃ d, c.drawPopup? a s popup = some d ∧ c.ChangesOnly p d.1 := by
  have hpopup := h.of_within (within_area? h hp)
  cases popup with
  | none => cases hp
  | help scroll =>
    exact ⟨_, Option.map_eq_some_iff.2 ⟨p, hp, rfl⟩, c.changesOnly_drawHelp hpopup _ _⟩
  | quit =>
    exact ⟨_, Option.map_eq_some_iff.2 ⟨p, hp, rfl⟩,
      c.changesOnly_drawLines_inner hpopup _ _ _⟩
  | forward d =>
    exact ⟨_, Option.map_eq_some_iff.2 ⟨p, hp, rfl⟩,
      c.changesOnly_drawLines_inner hpopup _ _ _⟩
  | tunnels selected =>
    exact ⟨_, Option.map_eq_some_iff.2 ⟨p, hp, rfl⟩, c.changesOnly_drawTunnels hpopup _ _⟩

/-- Drawing stops only for a popup that cannot be placed. -/
theorem drawPopup?_eq_none_iff (c : Canvas) (a : Area) (s : Scene) (popup : Popup) :
    c.drawPopup? a s popup = none ↔
      popup ≠ .none ∧ popup.area? a s.tunnels.length = none := by
  cases popup with
  | none => exact iff_of_false (Option.some_ne_none _) fun h => h.1 rfl
  | help _ | quit | forward _ | tunnels _ =>
    rw [Canvas.drawPopup?, Option.map_eq_none_iff]
    exact ⟨fun h => ⟨nofun, h⟩, And.right⟩

/-! ## All popups -/

open Area

/-- What holds of the popups on a screen. -/
structure PlacesPopups (a : Area) : Prop where
  /-- Every popup is inside the screen. -/
  inside : ∀ (popup : Popup) (tunnels : Nat), ∀ p ∈ popup.area? a tunnels, p.Within a
  /-- Drawing a popup changes cells of its area only. -/
  confined : ∀ (c : Canvas) (s : Scene) (popup : Popup), ∀ p ∈ popup.area? a s.tunnels.length,
    ∃ d, c.drawPopup? a s popup = some d ∧ c.ChangesOnly p d.1
  /-- The program stops only for a popup that cannot be placed. -/
  stopped : ∀ (c : Canvas) (s : Scene) (popup : Popup), c.drawPopup? a s popup = none ↔
    popup ≠ .none ∧ popup.area? a s.tunnels.length = none
  /-- The help cannot be placed where 16 bits do not hold 60 times the columns or 80 times the
  rows. -/
  helpFailed : a.helpPopup? = none ↔
    UInt16.size ≤ a.width.toNat * 60 ∨ UInt16.size ≤ a.height.toNat * 80
  /-- Otherwise the help has 60 percent of the columns, at least 40 and at most 80, and 80 percent
  of the rows, at least 10 and at most 30. -/
  helpSize : ∀ p ∈ a.helpPopup?, p.width.toNat = share a.width.toNat 60 40 80 ∧
    p.height.toNat = share a.height.toNat 80 10 30
  /-- A popup of any size in 16 bits is placed. -/
  requested : ∀ width height : UInt16,
    ∃ p, a.popup? width height = some p ∧ a.Placed p width.toNat height.toNat
  quit : ∃ p, a.quitPopup? = some p ∧ a.Placed p 36 5
  tunnels : a.PlacesList 96 5 a.tunnelsPopup?
  forward : a.PlacesList 64 9 a.forwardPopup?

/-- Popups have their place on every screen whose edges can be counted, and their size wherever it
can be counted too. -/
theorem placesPopups_of_fits {a : Area} (h : a.Fits) : PlacesPopups a where
  inside := fun _ _ _ hp => within_area? h hp
  confined := fun c s _ _ hp => changesOnly_drawPopup? h c s hp
  stopped := fun c s popup => drawPopup?_eq_none_iff c a s popup
  helpFailed := helpPopup?_eq_none_iff h
  helpSize := fun _ hp => size_of_mem_helpPopup? h hp
  requested := exists_placed_popup? h
  quit := exists_placed_popup? h 36 5
  tunnels := placesList_listPopup? h 96 5
  forward := placesList_listPopup? h 64 9

/-- On the widest and highest area on which every product can be counted the help is 80 by 30. -/
theorem placesPopups_largest : Fits ⟨3, 2, 1092, 819⟩ ∧ PlacesPopups ⟨3, 2, 1092, 819⟩ ∧
    helpPopup? ⟨3, 2, 1092, 819⟩ = some ⟨509, 396, 80, 30⟩ := by
  have hfits : Fits ⟨3, 2, 1092, 819⟩ := ⟨by decide, by decide⟩
  exact ⟨hfits, placesPopups_of_fits hfits, by decide⟩

/-- On a screen of 1100 columns the program stops instead of drawing the help, and so it does with
65531 tunnels instead of drawing their list. -/
theorem not_placed_wideScreen : Fits ⟨0, 0, 1100, 24⟩ ∧ helpPopup? ⟨0, 0, 1100, 24⟩ = none ∧
    tunnelsPopup? ⟨0, 0, 1100, 24⟩ 65531 = none ∧
    ∀ (c : Canvas) (s : Scene) (scroll : Nat),
      c.drawPopup? ⟨0, 0, 1100, 24⟩ s (.help scroll) = none := by
  have hnone : helpPopup? ⟨0, 0, 1100, 24⟩ = none := by decide
  exact ⟨fits_screen 1100 24, hnone, by decide,
    fun c s scroll => (drawPopup?_eq_none_iff c _ s (.help scroll)).2 ⟨nofun, hnone⟩⟩

end ResourceBrowser.Screen
