import ResourceBrowser.Proofs.App.Frame
import ResourceBrowser.Proofs.Cluster.Requests
import ResourceBrowser.Proofs.Table.Source
import ResourceBrowser.Table.NativeEngine

/-!
# What the application asks its source for

The label selector is there three times: as text in the query of the table, as the text that the
feed was asked for last, and as the selector that the feed lists by. The three agree whenever the
text of the query can be read, and until then the other two stay as they were.

* `Synced`: what holds of the three at any time.
* `follows_take?`: what anything that comes in does to them.
* `agrees_run`: the two together, for every run.
-/

namespace ResourceBrowser

open Cluster Screen Table View Tunnel

namespace App

section

variable {a b c : App} {m : Moment}

/-- The label selector of the query. -/
def label (a : App) : Option String := a.browser.table.labelSelector?

/-! ## What leaves the source alone -/

/-- Two applications with the same source and the same listing, which also ask for the same. -/
structure SameSource (a b : App) : Prop where
  feed : b.feed = a.feed
  applied : b.applied = a.applied
  table : a.browser.table.SameSource b.browser.table

theorem SameSource.refl (a : App) : SameSource a a := ⟨rfl, rfl, .refl _⟩

theorem SameSource.trans (h : SameSource a b) (h' : SameSource b c) : SameSource a c :=
  ⟨h'.feed.trans h.feed, h'.applied.trans h.applied, h.table.trans h'.table⟩

theorem SameSource.label_eq (h : SameSource a b) : b.label = a.label := h.table.label

theorem sameSource_say (a : App) (level : Level) (message : String) (m : Moment) :
    SameSource a (a.say level message m) :=
  ⟨rfl, rfl, .refl _⟩

theorem sameSource_reportTable (a : App) (m : Moment) : SameSource a (a.reportTable m) := by
  obtain ⟨flash, hframe⟩ := reportTable_frame a m
  rw [hframe]
  exact ⟨rfl, rfl, ⟨rfl, rfl, rfl⟩⟩

theorem sameSource_startForward (a : App) (m : Moment) : SameSource a (a.startForward m) := by
  obtain ⟨tunnels, popup, flash, hframe, -⟩ := startForward_frame a m
  rw [hframe]
  exact ⟨rfl, rfl, .refl _⟩

theorem sameSource_stopTunnel (a : App) (index : Nat) (m : Moment) :
    SameSource a (a.stopTunnel index m) := by
  obtain ⟨tunnels, flash, hframe⟩ := stopTunnel_frame a index m
  rw [hframe]
  exact ⟨rfl, rfl, .refl _⟩

theorem sameSource_handleEvent (a : App) (e : Event) (m : Moment) :
    SameSource a (a.handleEvent e m) := by
  obtain ⟨flash, hframe⟩ := handleEvent_frame a e m
  rw [hframe]
  exact ⟨rfl, rfl, .refl _⟩

theorem sameSource_work (a : App) (label : System.Step) : SameSource a (a.work label) := by
  obtain ⟨tunnels, hframe⟩ := work_frame a label
  rw [hframe]
  exact ⟨rfl, rfl, .refl _⟩

theorem sameSource_draw? {clock : Option ClockTime} {width height : UInt16}
    (hb : a.draw? clock width height = some b) : SameSource a b := by
  obtain ⟨-, -, -, -, -, rfl⟩ := draw?_frame hb
  exact ⟨rfl, rfl, .refl _⟩

/-! ## New listings -/

/-- A server that answers has its cluster listed. -/
theorem feed_refresh? {f g : Feed} {now : Int} {listing : Except SourceError Snapshot}
    (h : f.refresh? now = some (g, listing)) (hreach : f.reachable = true) :
    ∃ cluster s, f.cluster.refresh? now = some (cluster, s) ∧ listing = .ok s ∧
      g = { f with cluster, fetches := f.fetches + 1 } := by
  unfold Feed.refresh? at h
  dsimp only at h
  rw [if_pos hreach] at h
  obtain ⟨⟨cluster, s⟩, hlisted, heq⟩ := Option.map_eq_some_iff.1 h
  obtain ⟨rfl, rfl⟩ := Prod.mk.inj heq
  exact ⟨cluster, s, hlisted, rfl, rfl⟩

/-- What a new listing does: the table holds it, and what was asked for stays. -/
structure Reloads (a b : App) : Prop where
  reachable : b.feed.reachable = true
  decorate : b.browser.table.decorate = none
  selector : b.feed.cluster.selector = a.feed.cluster.selector
  applied : b.applied = a.applied
  label : b.label = a.label
  fetches : b.feed.fetches = a.feed.fetches + 1
  latest : b.browser.table.data = b.feed.cluster.latest

theorem Reloads.left (h : Reloads b c) (hs : SameSource a b) : Reloads a c where
  reachable := h.reachable
  decorate := h.decorate
  selector := by rw [h.selector, hs.feed]
  applied := by rw [h.applied, hs.applied]
  label := by rw [h.label, hs.label_eq]
  fetches := by rw [h.fetches, hs.feed]
  latest := h.latest

theorem Reloads.right (h : Reloads a b) (hs : SameSource b c) : Reloads a c where
  reachable := by rw [hs.feed, h.reachable]
  decorate := by rw [hs.table.decorate, h.decorate]
  selector := by rw [hs.feed, h.selector]
  applied := by rw [hs.applied, h.applied]
  label := by rw [hs.label_eq, h.label]
  fetches := by rw [hs.feed, h.fetches]
  latest := by rw [hs.table.data, hs.feed, h.latest]

/-! ## The three selectors -/

/-- A source that can be reached lists by the selector that it was asked for last, and the table
holds its listing. -/
structure Fed (a : App) : Prop where
  reachable : a.feed.reachable = true
  decorate : a.browser.table.decorate = none
  selector : readSelector a.applied = .ok a.feed.cluster.selector
  latest : 0 < a.feed.fetches → a.browser.table.data = a.feed.cluster.latest

/-- A selector in the query that can be read is the one that the source was asked for last. -/
structure Synced (a : App) : Prop extends Fed a where
  asked (s : Selector) : readSelector a.label = .ok s → a.applied = a.label

/-- What comes in leaves the application in order, and a selector that cannot be read changes
nothing. -/
structure Follows (a b : App) : Prop extends Synced b where
  kept : (∀ s, readSelector b.label ≠ .ok s) →
    b.applied = a.applied ∧ b.feed.cluster.selector = a.feed.cluster.selector

/-- A listing is asked for exactly if the selector changes. -/
def Refetches (a b : App) : Prop :=
  b.feed.fetches = a.feed.fetches + if b.applied = a.applied then 0 else 1

theorem Fed.of_sameSource (h : Fed a) (hs : SameSource a b) : Fed b where
  reachable := by rw [hs.feed, h.reachable]
  decorate := by rw [hs.table.decorate, h.decorate]
  selector := by rw [hs.applied, hs.feed, h.selector]
  latest := by
    rw [hs.feed, hs.table.data]
    exact h.latest

theorem Fed.of_reloads (h : Reloads a b)
    (hread : readSelector a.applied = .ok a.feed.cluster.selector) : Fed b where
  reachable := h.reachable
  decorate := h.decorate
  selector := by rw [h.applied, h.selector, hread]
  latest _ := h.latest

theorem Synced.of_sameSource (h : Synced a) (hs : SameSource a b) : Synced b where
  toFed := h.toFed.of_sameSource hs
  asked s := by
    rw [hs.label_eq, hs.applied]
    exact h.asked s

theorem Synced.selector_eq (h : Synced a) {s : Selector} (hread : readSelector a.label = .ok s) :
    a.feed.cluster.selector = s ∧ a.applied = a.label := by
  have hasked := h.asked s hread
  have hselector := h.selector
  rw [hasked, hread] at hselector
  exact ⟨(Except.ok.inj hselector).symm, hasked⟩

theorem follows_of_sameSource (h : Synced a) (hs : SameSource a b) : Follows a b where
  toSynced := h.of_sameSource hs
  kept _ := by
    rw [hs.applied, hs.feed]
    exact ⟨rfl, rfl⟩

theorem Follows.right (h : Follows a b) (hs : SameSource b c) : Follows a c where
  toSynced := h.toSynced.of_sameSource hs
  kept := by
    rw [hs.label_eq, hs.applied, hs.feed]
    exact h.kept

/-- What follows from an application follows from another one with the same source, whatever their
tables show. -/
theorem Follows.left (h : Follows b c) (hfeed : b.feed = a.feed)
    (happlied : b.applied = a.applied) : Follows a c where
  toSynced := h.toSynced
  kept := by
    rw [← hfeed, ← happlied]
    exact h.kept

/-- With a new listing by the selector of the query, the application is in order. -/
theorem follows_of_reloads (h : Reloads b c)
    (hread : readSelector b.applied = .ok b.feed.cluster.selector) (hasked : b.applied = b.label) :
    Follows a c where
  toFed := .of_reloads h hread
  asked _ _ := by rw [h.applied, h.label, hasked]
  kept hunread := by
    refine absurd ?_ (hunread b.feed.cluster.selector)
    rw [h.label, ← hasked, hread]

theorem refetches_of_sameSource (hs : SameSource a b) : Refetches a b := by
  unfold Refetches
  rw [hs.feed, hs.applied, if_pos rfl]
  rfl

theorem Refetches.right (h : Refetches a b) (hs : SameSource b c) : Refetches a c := by
  unfold Refetches
  rw [hs.feed, hs.applied]
  exact h

/-! ## Handing over the selector -/

/-- A source lists by a selector once it is read. -/
theorem feed_setSelector (f : Feed) (selector : Option String) :
    f.setSelector selector = (readSelector selector).map fun s =>
      { f with cluster := { f.cluster with selector := s } } := by
  unfold Feed.setSelector Cluster.setSelector readSelector
  cases selector with
  | none => rfl
  | some text =>
    dsimp only
    cases Selector.read text <;> rfl

/-- A source drops its selector for another kind, and keeps it for the same one. -/
theorem feed_setKind {f g : Feed} {kind : String} (h : f.setKind kind = .ok g) :
    g.reachable = f.reachable ∧
      (g.cluster.selector = .empty ∨ g.cluster.selector = f.cluster.selector) := by
  unfold Feed.setKind at h
  split at h
  · rcases setKind_cases f.cluster kind with ⟨e, he⟩ | hsame | ⟨k, -, hother⟩
    · rw [he] at h
      cases h
    · rw [hsame] at h
      obtain rfl := Except.ok.inj h
      exact ⟨rfl, .inr rfl⟩
    · rw [hother] at h
      obtain rfl := Except.ok.inj h
      exact ⟨rfl, .inl rfl⟩
  · cases h

/-- An application whose source lists by the selector of the query, once that is read. -/
def asking (a : App) (s : Selector) : App :=
  { a with
    feed := { a.feed with cluster := { a.feed.cluster with selector := s } }
    applied := a.label }

/-- The selector of the query is handed over as it is. -/
theorem apply_label (a : App) : a.apply a.label =
    if a.applied == a.label then .ok (a, false)
    else (readSelector a.label).map fun s => (a.asking s, true) := by
  unfold apply label
  rw [LiveTable.trim_labelSelector?]
  dsimp only
  rw [feed_setSelector]
  split
  · rfl
  · cases readSelector a.browser.table.labelSelector? <;> rfl

variable [Engine]

/-! ## What asks for listings -/

theorem reloads_reload? (h : a.reload? m = some b) (hreach : a.feed.reachable = true)
    (hplain : a.browser.table.decorate = none) : Reloads a b := by
  obtain ⟨feed, listing, hrefresh, rfl⟩ := exists_of_reload? h
  obtain ⟨cluster, data, hlisted, rfl, rfl⟩ := feed_refresh? hrefresh hreach
  have hlatest : cluster.latest = data := by
    obtain ⟨ticked, -, hrecord⟩ := refresh?_eq_some_iff.1 hlisted
    obtain ⟨rfl, rfl⟩ := Prod.mk.inj hrecord
    rfl
  have hreceived : Reloads a
      (a.receive { a.feed with cluster, fetches := a.feed.fetches + 1 } (.ok data)) :=
    { reachable := hreach
      decorate := (LiveTable.update_decorate _ _).trans hplain
      selector := (refresh?_frame hlisted).2
      applied := rfl
      label := LiveTable.update_labelSelector? _ _
      fetches := rfl
      latest := (LiveTable.update_data hplain _).trans hlatest.symm }
  exact hreceived.right (sameSource_reportTable _ m)

/-- Once the selector of the query was handed over, the source lists by it if it can be read, and
otherwise by the one before. -/
theorem follows_applySelector? (h : Fed a) {commit : Bool}
    (hb : a.applySelector? commit m = some b) : Follows a b ∧ Refetches a b := by
  have hlabel : a.browser.table.labelSelector? = a.label := rfl
  unfold applySelector? at hb
  rw [hlabel, apply_label] at hb
  by_cases hsame : a.applied = a.label
  · rw [if_pos (beq_iff_eq.2 hsame)] at hb
    obtain rfl := Option.some.inj hb
    exact ⟨follows_of_sameSource ⟨h, fun _ _ => hsame⟩ (.refl a), refetches_of_sameSource (.refl a)⟩
  · rw [if_neg (mt beq_iff_eq.1 hsame)] at hb
    cases hread : readSelector a.label with
    | error e =>
      have hsynced : Synced a := ⟨h, fun s hs => by rw [hread] at hs; cases hs⟩
      rw [hread] at hb
      obtain rfl := Option.some.inj hb
      have hsaid : SameSource a (if commit then a.say .error e.message m else a) := by
        cases commit with
        | true => exact sameSource_say a _ _ m
        | false => exact .refl a
      exact ⟨follows_of_sameSource hsynced hsaid, refetches_of_sameSource hsaid⟩
    | ok s =>
      rw [hread] at hb
      have hreloads : Reloads (a.asking s) b :=
        reloads_reload? (a := a.asking s) hb h.reachable h.decorate
      refine ⟨follows_of_reloads hreloads hread rfl, ?_⟩
      have hchanged : b.applied ≠ a.applied := by
        rw [hreloads.applied]
        exact Ne.symm hsame
      have hfetches : b.feed.fetches = a.feed.fetches + 1 := hreloads.fetches
      rw [Refetches, if_neg hchanged, hfetches]

/-! ## Another kind -/

/-- A new browser shows everything that comes in. -/
theorem browserFor_table (kind : String) (feed : Feed) (config : Config) :
    (browserFor kind feed config).table.labelSelector? = none ∧
      (browserFor kind feed config).table.decorate = none := by
  rw [browserFor_frame]
  exact ⟨LiveTable.refresh_labelSelector? _, LiveTable.refresh_decorate _⟩

/-- Another kind starts without a selector. -/
theorem follows_switchKind? (h : Synced a) {name : String}
    (hb : a.switchKind? name m = some b) : Follows a b := by
  rcases switchKind?_cases a name m with ⟨message, hsaid⟩ |
      ⟨kind, feed, hset, c, changed, happly, hreload⟩
  · obtain rfl := Option.some.inj (hsaid.symm.trans hb)
    exact follows_of_sameSource h (sameSource_say a .error message m)
  · obtain ⟨hfeed, hselector⟩ := feed_setKind hset
    obtain ⟨hreach, happlied, hempty⟩ := frame_apply_none happly
    have hread : readSelector c.applied = .ok c.feed.cluster.selector := by
      rw [happlied]
      rcases hempty with hempty | ⟨hnone, hkept⟩
      · rw [hempty]
        rfl
      · rw [hkept]
        rcases hselector with hselector | hselector
        · exact congrArg Except.ok hselector.symm
        · -- nothing was asked for before, either
          have hbefore := h.selector
          rw [show a.applied = none from hnone] at hbefore
          exact hbefore.trans (congrArg Except.ok hselector.symm)
    obtain ⟨hlabel, hplain⟩ := browserFor_table kind.name c.feed c.config
    have hreloads : Reloads (c.viewing kind.name) b := by
      refine reloads_reload? (a := c.viewing kind.name) (hreload.symm.trans hb) ?_ hplain
      exact hreach.trans (hfeed.trans h.reachable)
    exact follows_of_reloads hreloads hread (happlied.trans hlabel.symm)

/-! ## Whatever comes in -/

/-- A key of the view changes the display, or it leads to another kind. -/
theorem dispatch?_cases {key : Key.Binding} (h : a.dispatch? key m = some b) :
    SameSource a b ∨ ∃ c kind, SameSource a c ∧ c.switchKind? kind m = some b := by
  unfold dispatch? Browser.dispatch at h
  cases hbound : a.browser.keymap.get? key with
  | none =>
    rw [hbound] at h
    exact .inl (Option.some.inj h ▸ .refl a)
  | some bound =>
    have htable := a.browser.sameSource_handle (a.context m) bound.action
    rw [hbound, Option.map_some] at h
    rcases hresult : a.browser.handle (a.context m) bound.action with ⟨browser, e | o⟩
    all_goals rw [hresult] at htable h
    · obtain rfl := Option.some.inj h
      exact .inl ⟨rfl, rfl, htable⟩
    · cases o with
      | done | save _ _ | startFilter | showTunnels | openDialog _ =>
        obtain rfl := Option.some.inj h
        exact .inl ⟨rfl, rfl, htable⟩
      | goto kind => exact .inr ⟨{ a with browser }, kind, ⟨rfl, rfl, htable⟩, h⟩

/-- A key of the view leaves the application in order. -/
theorem follows_dispatch? (h : Synced a) {key : Key.Binding} (hb : a.dispatch? key m = some b) :
    Follows a b := by
  rcases dispatch?_cases hb with hs | ⟨c, kind, hs, hswitch⟩
  · exact follows_of_sameSource h hs
  · exact (follows_switchKind? (h.of_sameSource hs) hswitch).left hs.feed hs.applied

/-- What follows from a key leaves the application in order, and unless the key is for the view, a
listing is asked for exactly if the selector changes. -/
theorem follows_react? (h : Synced a) {handled : Handled} (htells : handled.Tells a.browser.table)
    (hb : (a.heard handled).react? handled.reaction m = some b) :
    Follows a b ∧ ((∀ key, handled.reaction ≠ .dispatch key) → Refetches a b) := by
  obtain ⟨state, table, reaction⟩ := handled
  rcases htells with ⟨commit, rfl, hdata, hdecorate⟩ | ⟨hne, htable⟩
  · -- the query may be another one
    have hfed : Fed (a.heard ⟨state, table, .filterChanged commit⟩) :=
      ⟨h.reachable, hdecorate.trans h.decorate, h.selector, fun hpos => hdata.trans (h.latest hpos)⟩
    obtain ⟨hfollows, hrefetches⟩ := follows_applySelector? hfed hb
    exact ⟨hfollows.left rfl rfl, fun _ => hrefetches⟩
  · have hs : SameSource a (a.heard ⟨state, table, reaction⟩) := ⟨rfl, rfl, htable⟩
    have hkept : ∀ {c : App}, SameSource (a.heard ⟨state, table, reaction⟩) c → some c = some b →
        Follows a b ∧ ((∀ key, reaction ≠ .dispatch key) → Refetches a b) := by
      rintro c h' hc
      obtain rfl := Option.some.inj hc
      exact ⟨follows_of_sameSource h (hs.trans h'), fun _ => refetches_of_sameSource (hs.trans h')⟩
    cases reaction with
    | none => exact hkept (.refl _) hb
    | quit =>
      exact hkept (c := { a.heard ⟨state, table, .quit⟩ with done := true }) ⟨rfl, rfl, .refl _⟩ hb
    | dispatch key =>
      exact ⟨(follows_dispatch? (h.of_sameSource hs) hb).left rfl rfl,
        fun hother => absurd rfl (hother key)⟩
    | filterChanged commit => exact absurd rfl (hne commit)
    | startForward => exact hkept (sameSource_startForward _ m) hb
    | stopTunnel index => exact hkept (sameSource_stopTunnel _ index m) hb

theorem follows_onKey? (h : Synced a) {key : Key.Press} (hb : a.onKey? key m = some b) :
    Follows a b ∧ ((∀ k, (handleKey a.screen a.browser.table key).reaction ≠ .dispatch k) →
      Refetches a b) := by
  obtain ⟨c, hc, rfl⟩ := Option.map_eq_some_iff.1 hb
  obtain ⟨hfollows, hrefetches⟩ :=
    follows_react? h (tells_handleKey a.screen a.browser.table key) hc
  exact ⟨hfollows.right (sameSource_reportTable _ m),
    fun hne => (hrefetches hne).right (sameSource_reportTable _ m)⟩

theorem follows_onTick? (h : Synced a) (hb : a.onTick? m = some b) : Follows a b := by
  have hscreen : SameSource a { a with screen := a.screen.expire m.nanos } := ⟨rfl, rfl, .refl _⟩
  have hreloads : Reloads a b :=
    (reloads_reload? hb (h.of_sameSource hscreen).reachable (h.of_sameSource hscreen).decorate).left
      hscreen
  refine ⟨⟨.of_reloads hreloads h.selector, fun s hs => ?_⟩, fun _ => ?_⟩
  · rw [hreloads.applied, hreloads.label]
    rw [hreloads.label] at hs
    exact h.asked s hs
  · exact ⟨hreloads.applied, hreloads.selector⟩

/-- Whatever comes in leaves the application in order. -/
theorem follows_take? (h : Synced a) {i : Input} (hb : a.take? i = some b) : Follows a b := by
  cases i with
  | key press m => exact (follows_onKey? h hb).1
  | tick m => exact follows_onTick? h hb
  | event e m =>
    obtain rfl := Option.some.inj hb
    exact follows_of_sameSource h (sameSource_handleEvent a e m)
  | draw clock width height => exact follows_of_sameSource h (sameSource_draw? hb)
  | work label =>
    obtain rfl := Option.some.inj hb
    exact follows_of_sameSource h (sameSource_work a label)

theorem synced_start {cluster : Cluster} (h : cluster.selector = .empty) (config : Config) :
    Synced (start cluster config) := by
  obtain ⟨hlabel, hplain⟩ := browserFor_table cluster.kind.name { cluster } config
  exact ⟨⟨rfl, hplain, congrArg Except.ok h.symm, fun hpos => absurd hpos (Nat.lt_irrefl 0)⟩,
    fun _ _ => hlabel.symm⟩

theorem synced_run? (h : Synced a) {inputs : List Input} (hb : a.run? inputs = some b) :
    Synced b :=
  of_foldlM_eq_some (fun _ _ h _ hb => (follows_take? h hb).toSynced) h hb

/-! ## Runs -/

/-- True for the keys at the filter prompt, and for the one that drops the query. -/
def filters (a : App) (key : Key.Press) : Bool :=
  !a.screen.popup.isOpen && (a.screen.mode = .filter || key.code = .esc)

/-- Keys about the filter are not for the view. -/
theorem reaction_of_filters {key : Key.Press} (h : a.filters key = true) (k : Key.Binding) :
    (handleKey a.screen a.browser.table key).reaction ≠ .dispatch k := by
  obtain ⟨hpopup, hkey⟩ := Bool.and_eq_true_iff.1 h
  unfold handleKey
  split
  · nofun
  · split
    case h_5 =>
      split
      · -- in the table, the key is the one that drops the query
        rename_i hmode
        have hesc : key.code = .esc := by simpa [hmode] using hkey
        unfold normalKey
        rw [hesc]
        dsimp only
        split <;> nofun
      · unfold filterKey
        split <;> nofun
    all_goals
      rename_i hopen
      rw [hopen] at hpopup
      cases hpopup

/-- What holds of the label selector once `next` has come in and made `b` of `a`: as the query, as
the text that the source was asked for last, and as what the source lists by. -/
structure Agrees (a : App) (next : Input) (b : App) : Prop where
  unasked : b.label = none → b.feed.cluster.selector = .empty ∧ b.applied = none
  asked (text : String) (s : Selector) : b.label = some text → Selector.read text = .ok s →
    b.feed.cluster.selector = s ∧ b.applied = some text
  /-- A selector that cannot be read changes nothing. -/
  unreadable (text : String) (e : SourceError) : b.label = some text →
    Selector.read text = .error e →
    b.feed.cluster.selector = a.feed.cluster.selector ∧ b.applied = a.applied
  /-- A key about the filter has a listing asked for exactly if it changes the selector. -/
  refetches (key : Key.Press) (m : Moment) : next = .key key m → a.filters key = true →
    b.feed.fetches = a.feed.fetches + if b.applied = a.applied then 0 else 1
  /-- Typing what is no label selector has none asked for. -/
  quiet (key : Key.Press) (m : Moment) : next = .key key m → a.filters key = true →
    a.label = none → b.label = none → b.feed.fetches = a.feed.fetches
  /-- From the first listing on, the table holds the latest one. -/
  latest : 0 < b.feed.fetches → b.browser.table.data = b.feed.cluster.latest

theorem agrees_of_synced (h : Synced a) {next : Input} (hb : a.take? next = some b) :
    Agrees a next b := by
  have hafter := follows_take? h hb
  have hrefetches : ∀ key m, next = .key key m → a.filters key = true → Refetches a b := by
    rintro key m rfl hkey
    exact (follows_onKey? h hb).2 (reaction_of_filters hkey)
  have hunasked : ∀ {c : App}, Synced c → c.label = none →
      c.feed.cluster.selector = .empty ∧ c.applied = none := by
    intro c hc hlabel
    rw [← hlabel]
    exact hc.selector_eq (by rw [hlabel]; rfl)
  refine ⟨hunasked hafter.toSynced, ?_, ?_, hrefetches, ?_, hafter.latest⟩
  · intro text s hlabel hread
    rw [← hlabel]
    exact hafter.selector_eq (by rw [hlabel]; exact hread)
  · intro text e hlabel hread
    -- the source comes first here, and what was asked for second
    refine (hafter.kept fun s hs => ?_).symm
    rw [hlabel, readSelector, hread] at hs
    cases hs
  · intro key m hnext hkey hbefore hlabel
    have hfetches := hrefetches key m hnext hkey
    have happlied := (hunasked hafter.toSynced hlabel).2.trans (hunasked h hbefore).2.symm
    rwa [Refetches, if_pos happlied] at hfetches

/-- In every run of an application whose source starts without a selector, the query, the text that
the source was asked for last and the selector that it lists by agree after everything that comes
in, and the table holds the latest listing. -/
theorem agrees_run (cluster : Cluster) (config : Config) (h : cluster.selector = .empty)
    (inputs : List Input) {a b : App} (ha : (start cluster config).run? inputs = some a)
    (next : Input) (hb : a.take? next = some b) : Agrees a next b :=
  agrees_of_synced (synced_run? (synced_start h config) ha) hb

end

attribute [local instance] nativeEngine

/-- A first listing, and the keys of a label selector but for its last letter. -/
def typing : List Input :=
  .tick ⟨0, default⟩ :: "/-l ap".toList.map fun c => .key ⟨.char c, {}⟩ ⟨1, default⟩

/-- The last letter of a label selector that is typed over an empty cluster. -/
theorem agrees_typed : ({ pods := [], nodes := [] } : Cluster).selector = .empty ∧
    ∃ a b, (start { pods := [], nodes := [] } {}).run? typing = some a ∧
      a.take? (.key ⟨.char 'p', {}⟩ ⟨2, default⟩) = some b ∧
      Agrees a (.key ⟨.char 'p', {}⟩ ⟨2, default⟩) b := by
  have hanswered : (((start { pods := [], nodes := [] } {}).run? typing).bind
      (·.take? (.key ⟨.char 'p', {}⟩ ⟨2, default⟩))).isSome = true := by decide +kernel
  obtain ⟨b, hb⟩ := Option.isSome_iff_exists.1 hanswered
  obtain ⟨a, ha, hb⟩ := Option.bind_eq_some_iff.1 hb
  exact ⟨rfl, a, b, ha, hb, agrees_run { pods := [], nodes := [] } {} rfl typing ha _ hb⟩

end App

end ResourceBrowser
