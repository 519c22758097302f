import ResourceBrowser.Proofs.Config
import ResourceBrowser.Proofs.Key.Keymap
import ResourceBrowser.Proofs.Table.Drawing
import ResourceBrowser.Table.NativeEngine
import ResourceBrowser.View.Browser

/-!
# What the keys of a view are bound to

A view has bindings of its own, and the configuration adds hotkeys on the keys that are left. The
sort by namespace comes and goes with the rows that are shown; its key is taken when a view is made,
before any rows are there, so that no hotkey ever comes into its way.

* `hotkeyOn?_eq_some_iff`: the hotkey on a key that comes first by name.
* `get?_addHotkeys`: of the hotkeys on a key that is left, the first one is bound.
* `Tended`: a view whose table changes and whose keys are settled anew, in any order.
* `get?_run`: what every key is bound to, whatever happened to the view.
* `binds_run`: the bindings are these, and none of them is lost or replaced.
* `bindsHotkeys_firstListed`: which hotkeys are bound once the first rows are there.
-/

namespace ResourceBrowser.View

open Key Table Cluster

/-! ## Hotkeys -/

/-- The binding of a hotkey. -/
def hotkeyBound (name : String) (h : Hotkey) : Bound Action :=
  ⟨if h.description == "" then name else h.description, .goto h.command, true⟩

/-- The first hotkey whose shortcut is a key. -/
def hotkeyOn? (hotkeys : KeyList Hotkey) (key : Binding) : Option (String × Hotkey) :=
  hotkeys.find? fun e => Binding.read? e.2.shortcut == some key

/-- The binding of the first hotkey whose shortcut is a key. -/
def hotkeyBound? (hotkeys : KeyList Hotkey) (key : Binding) : Option (Bound Action) :=
  (hotkeyOn? hotkeys key).map fun e => hotkeyBound e.1 e.2

/-- Of the hotkeys on a key, the one with the least name counts. -/
theorem hotkeyOn?_eq_some_iff {hotkeys : KeyList Hotkey} (h : hotkeys.InOrder) {key : Binding}
    {e : String × Hotkey} : hotkeyOn? hotkeys key = some e ↔
      e ∈ hotkeys ∧ Binding.read? e.2.shortcut = some key ∧
        ∀ e' ∈ hotkeys, Binding.read? e'.2.shortcut = some key → e.1 ≤ e'.1 := by
  have hfound := KeyList.find?_eq_some_iff h
    (p := fun e => Binding.read? e.2.shortcut == some key) (e := e)
  simp only [beq_iff_eq] at hfound
  exact hfound

theorem hotkeyBound?_cons (name : String) (h : Hotkey) (rest : KeyList Hotkey) (key : Binding) :
    hotkeyBound? ((name, h) :: rest) key =
      if Binding.read? h.shortcut = some key then some (hotkeyBound name h)
      else hotkeyBound? rest key := by
  unfold hotkeyBound? hotkeyOn?
  rw [List.find?_cons]
  by_cases hread : Binding.read? h.shortcut = some key
  · rw [beq_iff_eq.2 hread, if_pos hread]
    rfl
  · rw [beq_false_of_ne hread, if_neg hread]

/-- A hotkey that no earlier one comes before is the first on its key. -/
theorem hotkeyBound?_append {earlier : KeyList Hotkey} {key : Binding}
    (hfree : ∀ e ∈ earlier, Binding.read? e.2.shortcut ≠ some key) (later : KeyList Hotkey) :
    hotkeyBound? (earlier ++ later) key = hotkeyBound? later key := by
  induction earlier with
  | nil => rfl
  | cons e rest ih =>
    obtain ⟨hfirst, hrest⟩ := List.forall_mem_cons.1 hfree
    rw [List.cons_append, hotkeyBound?_cons, if_neg hfirst]
    exact ih hrest

/-- A hotkey is bound if its shortcut is a key that is not bound yet. -/
theorem get?_addHotkey (m : Keymap Action) (name : String) (h : Hotkey) (key : Binding) :
    (addHotkey m name h).get? key = (m.get? key).or
      (if Binding.read? h.shortcut = some key then some (hotkeyBound name h) else none) := by
  unfold addHotkey
  cases hread : Binding.read? h.shortcut with
  | none => simp
  | some new =>
    by_cases hkey : key = new
    · subst hkey
      rw [if_pos rfl]
      cases hbound : m.get? key with
      | some bound => simp [Keymap.contains, hbound]
      | none =>
        have hleft : m.contains key = false := (m.contains_eq_false_iff key).2 hbound
        simp only [hleft, Bool.false_eq_true, if_false, Option.none_or]
        rw [Keymap.get?_insert, if_pos rfl]
        rfl
    · -- this hotkey is about another key
      have hother : some new ≠ some key := fun heq => hkey (Option.some.inj heq).symm
      rw [if_neg hother, Option.or_none]
      dsimp only
      split
      · rfl
      · rw [Keymap.get?_insert, if_neg hkey]

/-- Keys that are bound stay bound to what they are, and of the hotkeys on another key the first one
is bound. -/
theorem get?_addHotkeys (m : Keymap Action) (c : Config) (key : Binding) :
    (addHotkeys m c).get? key = (m.get? key).or (hotkeyBound? c.hotkeys key) := by
  unfold addHotkeys
  induction c.hotkeys generalizing m with
  | nil => exact (Option.or_none).symm
  | cons e rest ih =>
    obtain ⟨name, h⟩ := e
    rw [List.foldl_cons, ih, get?_addHotkey, hotkeyBound?_cons, Option.or_assoc]
    split <;> rfl

theorem nodup_keys_addHotkeys {m : Keymap Action} (h : m.keys.Nodup) (c : Config) :
    (addHotkeys m c).keys.Nodup := by
  have hadd : ∀ (m : Keymap Action) (name : String) (hotkey : Hotkey), m.keys.Nodup →
      (addHotkey m name hotkey).keys.Nodup := by
    intro m name hotkey hm
    unfold addHotkey
    split
    · exact hm
    · dsimp only
      split
      · exact hm
      · exact Keymap.nodup_keys_insert hm _ _
  unfold addHotkeys
  induction c.hotkeys generalizing m with
  | nil => exact h
  | cons e rest ih => exact ih (hadd m e.1 e.2 h)

/-! ## The bindings of a new view -/

/-- What the key of the sort by namespace is bound to, if it is. -/
def namespaceSort : Bound Action := sortBinding "Sort Namespace" namespaceColumn true

/-- The bindings that a view of a kind has whatever it shows. -/
def baseBindings (kind : String) : List (Binding × Bound Action) :=
  (if kind == Kind.pods.name then
    (forwardKey, ⟨"Port-Forward", .portForward, true⟩) :: podBindings else []) ++ commonBindings

/-- No two bindings of a view are on one key, or on the one that sorts by namespace. -/
theorem nodup_baseBindings (kind : String) :
    (namespaceKey :: (baseBindings kind).map (·.1)).Nodup := by
  unfold baseBindings
  split <;> decide

theorem namespaceKey_not_mem (kind : String) : namespaceKey ∉ (baseBindings kind).map (·.1) :=
  (List.nodup_cons.1 (nodup_baseBindings kind)).1

theorem get?_bindAll {bindings : List (Binding × Bound Action)}
    (h : (bindings.map (·.1)).Nodup) (m : Keymap Action) (key : Binding) :
    (bindAll m bindings).get? key = (bindings.lookup key).or (m.get? key) := by
  unfold bindAll
  induction bindings generalizing m with
  | nil => rfl
  | cons e rest ih =>
    obtain ⟨k, bound⟩ := e
    obtain ⟨hnew, hrest⟩ := List.nodup_cons.1 h
    rw [List.foldl_cons, ih hrest, Keymap.get?_insert, Keymap.lookup_bindings]
    by_cases hkey : key = k
    · -- no later binding is on this key
      have hlater : rest.lookup key = none := Keymap.lookup_eq_none (hkey ▸ hnew)
      rw [hlater, if_pos hkey, if_pos hkey]
      rfl
    · rw [if_neg hkey, if_neg hkey]

theorem nodup_keys_bindAll {m : Keymap Action} (h : m.keys.Nodup)
    (bindings : List (Binding × Bound Action)) : (bindAll m bindings).keys.Nodup := by
  unfold bindAll
  induction bindings generalizing m with
  | nil => exact h
  | cons e rest ih => exact ih (Keymap.nodup_keys_insert h e.1 e.2)

namespace Browser

variable {b : Browser}

/-- The keys are settled by what the table shows; only the sort by namespace depends on it. -/
theorem get?_refreshKeys (b : Browser) (key : Binding) : b.refreshKeys.keymap.get? key =
    if key = namespaceKey then if b.table.clusterWide then some namespaceSort else none
    else b.keymap.get? key := by
  unfold refreshKeys
  dsimp only
  cases b.table.clusterWide with
  | true => exact Keymap.get?_insert ..
  | false => exact Keymap.get?_erase ..

theorem nodup_keys_refreshKeys (h : b.keymap.keys.Nodup) : b.refreshKeys.keymap.keys.Nodup := by
  unfold refreshKeys
  dsimp only
  split
  · exact Keymap.nodup_keys_insert h _ _
  · exact Keymap.nodup_keys_erase h _

variable [Engine]

/-- Before any rows are there, a view takes its table for one of every namespace. -/
theorem clusterWide_plain (kind : String) (c : Config) :
    (plain kind c).table.clusterWide = true := by
  unfold plain refreshKeys LiveTable.clusterWide LiveTable.setViewColumns
  dsimp only
  rw [LiveTable.refresh_data]
  rfl

/-- The bindings of a view that starts no tunnels. -/
theorem get?_plain (kind : String) (c : Config) (key : Binding) :
    (plain kind c).keymap.get? key =
      if key = namespaceKey then some namespaceSort
      else ((if kind == Kind.pods.name then podBindings else []).lookup key).or
        (commonBindings.lookup key) := by
  have hwide := clusterWide_plain kind c
  have hkeys := get?_refreshKeys
    { table := (plain kind c).table
      keymap :=
        if kind == Kind.pods.name then bindAll (bindAll .empty commonBindings) podBindings
        else bindAll .empty commonBindings
      forwards := false } key
  rw [hwide, if_pos rfl] at hkeys
  refine hkeys.trans ?_
  have hcommon : (bindAll .empty commonBindings).get? key = commonBindings.lookup key := by
    rw [get?_bindAll (by decide), Keymap.get?_empty, Option.or_none]
  dsimp only
  split
  · rfl
  · split
    · rw [get?_bindAll (by decide), hcommon]
    · rw [hcommon]
      rfl

/-- The bindings of a new view: its own ones and the sort by namespace, and hotkeys on the keys that
are left. -/
theorem get?_forKind (kind : String) (c : Config) (key : Binding) :
    (forKind kind c).keymap.get? key =
      (if key = namespaceKey then some namespaceSort else (baseBindings kind).lookup key).or
        (hotkeyBound? c.hotkeys key) := by
  unfold forKind
  dsimp only
  rw [get?_addHotkeys]
  congr 1
  have hplain := get?_plain kind c key
  unfold baseBindings
  split
  · rename_i hpods
    rw [if_pos hpods] at hplain
    unfold withForward
    rw [Keymap.get?_insert, hplain, List.cons_append, Keymap.lookup_bindings, List.lookup_append]
    -- a tunnel is started by another key than the one that sorts by namespace
    by_cases hkey : key = forwardKey
    · have hne : key ≠ namespaceKey := by
        rw [hkey]
        decide
      rw [if_pos hkey, if_neg hne, if_pos hkey]
    · rw [if_neg hkey, if_neg hkey]
  · rename_i hpods
    rw [if_neg hpods] at hplain
    exact hplain

theorem nodup_keys_forKind (kind : String) (c : Config) : (forKind kind c).keymap.keys.Nodup := by
  have hcommon : (bindAll .empty commonBindings).keys.Nodup :=
    nodup_keys_bindAll (m := .empty) List.nodup_nil _
  have hplain : (plain kind c).keymap.keys.Nodup := by
    unfold plain
    refine nodup_keys_refreshKeys ?_
    dsimp only
    split
    · exact nodup_keys_bindAll hcommon _
    · exact hcommon
  unfold forKind
  refine nodup_keys_addHotkeys ?_ c
  split
  · exact Keymap.nodup_keys_insert hplain _ _
  · exact hplain

/-- A new view takes its table for one of every namespace. -/
theorem clusterWide_forKind (kind : String) (c : Config) :
    (forKind kind c).table.clusterWide = true := by
  have hplain := clusterWide_plain kind c
  unfold forKind
  dsimp only
  split
  · exact hplain
  · exact hplain

end Browser

/-! ## A view that is looked after -/

/-- What happens to a view between keys. -/
inductive Upkeep where
  /-- Its table changes, be it by a new snapshot or in any other way. -/
  | operate (op : Operation)
  /-- Its keys are settled by what the table shows now. -/
  | refreshKeys

/-- A view, and what its table showed when the keys were settled last. -/
structure Tended where
  browser : Browser
  /-- Rows of every namespace were shown. -/
  wide : Bool

namespace Tended

/-- What a key is bound to in a view of a kind: to what the view has on it, or to the first hotkey
on it. The key of the sort by namespace has that or nothing. -/
def wanted? (kind : String) (c : Config) (wide : Bool) (key : Binding) : Option (Bound Action) :=
  if key = namespaceKey then if wide then some namespaceSort else none
  else ((baseBindings kind).lookup key).or (hotkeyBound? c.hotkeys key)

variable {w : Tended} {kind : String} {c : Config}

/-- But for the sort by namespace, it does not matter what the table shows. -/
theorem wanted?_of_ne {key : Binding} (h : key ≠ namespaceKey) (wide wide' : Bool) :
    wanted? kind c wide key = wanted? kind c wide' key := by
  unfold wanted?
  rw [if_neg h, if_neg h]

/-- Every key is bound once, and to what is wanted there. -/
structure InOrder (w : Tended) (kind : String) (c : Config) : Prop where
  single : w.browser.keymap.keys.Nodup
  bound (key : Binding) : w.browser.keymap.get? key = wanted? kind c w.wide key

variable [Engine]

/-- A new view has settled its keys on its own. -/
def start (kind : String) (c : Config) : Tended :=
  let browser := Browser.forKind kind c
  ⟨browser, browser.table.clusterWide⟩

/-- Carries out a piece of upkeep. -/
def tend (w : Tended) : Upkeep → Tended
  | .operate op => { w with browser := { w.browser with table := (w.browser.table.apply op).1 } }
  | .refreshKeys => ⟨w.browser.refreshKeys, w.browser.table.clusterWide⟩

/-- Carries out pieces of upkeep one after the other. -/
def run (w : Tended) (steps : List Upkeep) : Tended := steps.foldl tend w

theorem inOrder_start (kind : String) (c : Config) : (start kind c).InOrder kind c := by
  refine ⟨Browser.nodup_keys_forKind kind c, fun key => ?_⟩
  have hwide : (start kind c).wide = true := Browser.clusterWide_forKind kind c
  rw [hwide]
  refine (Browser.get?_forKind kind c key).trans ?_
  unfold wanted?
  by_cases hkey : key = namespaceKey
  · -- no hotkey gets the key, because it was taken when they were bound
    rw [if_pos hkey, if_pos hkey]
    rfl
  · rw [if_neg hkey, if_neg hkey]

theorem inOrder_tend (h : w.InOrder kind c) (step : Upkeep) : (w.tend step).InOrder kind c := by
  cases step with
  | operate op => exact ⟨h.single, h.bound⟩
  | refreshKeys =>
    refine ⟨Browser.nodup_keys_refreshKeys h.single, fun key => ?_⟩
    have hkey := h.bound key
    refine (Browser.get?_refreshKeys w.browser key).trans ?_
    unfold wanted? at hkey ⊢
    by_cases hns : key = namespaceKey
    · rw [if_pos hns, if_pos hns]
      rfl
    · rw [if_neg hns] at hkey ⊢
      rw [if_neg hns, hkey]

theorem inOrder_run (h : w.InOrder kind c) (steps : List Upkeep) :
    (w.run steps).InOrder kind c := by
  induction steps generalizing w with
  | nil => exact h
  | cons step steps ih => exact ih (inOrder_tend h step)

/-- What every key is bound to, whatever happened to the view. -/
theorem get?_run (kind : String) (c : Config) (steps : List Upkeep) (key : Binding) :
    ((start kind c).run steps).browser.keymap.get? key =
      wanted? kind c ((start kind c).run steps).wide key :=
  (inOrder_run (inOrder_start kind c) steps).bound key

/-- The bindings of a view are those that are wanted, and they stay. -/
structure Binds (w : Tended) (kind : String) (c : Config) : Prop extends InOrder w kind c where
  /-- Nothing else is listed. -/
  listed (key : Binding) (bound : Bound Action) :
    (key, bound) ∈ w.browser.keymap.entries ↔ wanted? kind c w.wide key = some bound
  /-- No hotkey replaces what the view has of its own. -/
  base (e : Binding × Bound Action) : e ∈ baseBindings kind →
    w.browser.keymap.get? e.1 = some e.2
  /-- A hotkey that is bound stays so, whatever happens next. -/
  kept (key : Binding) (bound : Bound Action) (command : String) (more : List Upkeep) :
    bound.action = .goto command → w.browser.keymap.get? key = some bound →
      (w.run more).browser.keymap.get? key = some bound

/-- Whatever happens to a new view, its bindings are its own ones, the first hotkey on every other
key but that of the sort by namespace, and there the sort exactly if rows of every namespace were
shown when the keys were settled last. -/
theorem binds_run (kind : String) (c : Config) (steps : List Upkeep) :
    ((start kind c).run steps).Binds kind c := by
  have h := inOrder_run (inOrder_start kind c) steps
  generalize (start kind c).run steps = w at h
  have hnodup : ((baseBindings kind).map (·.1)).Nodup :=
    (List.nodup_cons.1 (nodup_baseBindings kind)).2
  refine ⟨h, ?_, ?_, ?_⟩
  · intro key bound
    rw [← h.bound key]
    exact (Keymap.get?_eq_some_iff h.single).symm
  · intro e he
    have hne : e.1 ≠ namespaceKey := fun heq =>
      namespaceKey_not_mem kind (heq ▸ List.mem_map_of_mem he)
    have hlookup : (baseBindings kind).lookup e.1 = some e.2 :=
      (Keymap.get?_eq_some_iff (m := ⟨baseBindings kind⟩) hnodup).2 he
    rw [h.bound e.1, wanted?, if_neg hne, hlookup]
    rfl
  · intro key bound command more hgoto hbound
    have hne : key ≠ namespaceKey := by
      intro heq
      -- what is bound there sorts, and leads to no other view
      rw [h.bound key, wanted?, if_pos heq] at hbound
      split at hbound
      · obtain rfl := Option.some.inj hbound
        cases hgoto
      · cases hbound
    rw [(inOrder_run h more).bound key, wanted?_of_ne hne _ w.wide, ← h.bound key]
    exact hbound

end Tended

/-! ## Hotkeys in a view with rows -/

namespace Browser

open Tended

/-- The keys that a view of a kind has bindings of its own on while it shows what it does. -/
def ownKeys (b : Browser) (kind : String) : List Binding :=
  (if b.table.clusterWide then [namespaceKey] else []) ++ (baseBindings kind).map (·.1)

/-- Every hotkey leads to the view that it is about, unless its key is one of `taken` or that of an
earlier hotkey. -/
def BindsHotkeys (b : Browser) (c : Config) (taken : List Binding) : Prop :=
  ∀ (earlier later : KeyList Hotkey) (name : String) (h : Hotkey) (key : Binding),
    c.hotkeys = earlier ++ (name, h) :: later → Binding.read? h.shortcut = some key →
    key ∉ taken → (∀ e ∈ earlier, Binding.read? e.2.shortcut ≠ some key) →
    ∃ bound, b.keymap.get? key = some bound ∧ bound.action = .goto h.command

section

variable [Engine]

/-- A new view once its first rows are there. -/
def firstListed (kind : String) (c : Config) (data : Snapshot) : Browser :=
  ((start kind c).run [.operate (.update data), .refreshKeys]).browser

/-- Once the first rows are there, every hotkey is bound whose key the view has no use for. The key
of the sort by namespace is kept for that, whether or not the sort is bound by then. -/
theorem bindsHotkeys_firstListed (kind : String) (c : Config) (data : Snapshot) :
    (firstListed kind c data).BindsHotkeys c (namespaceKey :: (baseBindings kind).map (·.1)) ∧
      ∀ bound, (firstListed kind c data).keymap.get? namespaceKey = some bound →
        bound = namespaceSort := by
  constructor
  · intro earlier later name h key hsplit hread htaken hearlier
    obtain ⟨hne, hbase⟩ := List.ne_and_not_mem_of_not_mem_cons htaken
    refine ⟨hotkeyBound name h, ?_, rfl⟩
    have hfirst : hotkeyBound? c.hotkeys key = some (hotkeyBound name h) := by
      rw [hsplit, hotkeyBound?_append hearlier, hotkeyBound?_cons, if_pos hread]
    unfold firstListed
    rw [get?_run, wanted?, if_neg hne, Keymap.lookup_eq_none hbase, hfirst]
    rfl
  · intro bound hbound
    unfold firstListed at hbound
    rw [get?_run, wanted?, if_pos rfl] at hbound
    split at hbound
    · exact (Option.some.inj hbound).symm
    · cases hbound

end

attribute [local instance] nativeEngine

/-- Hotkeys on the key that shows wide columns, on a key that is free, and on that one again. -/
def threeHotkeys : Config where
  hotkeys := [("a", ⟨"Ctrl-w", "", "pods"⟩), ("b", ⟨"Alt-n", "Nodes", "nodes"⟩),
    ("c", ⟨"Alt-n", "", "pods"⟩)]

/-- The listing of a namespace without pods. -/
def noneInDefault : Snapshot :=
  ((({ pods := [], nodes := [] } : Cluster).setNamespace "default").record 0).2

/-- The second hotkey is bound. -/
theorem bindsHotkeys_altN : ∃ bound,
    (firstListed Kind.pods.name threeHotkeys noneInDefault).keymap.get?
      (.of (.char 'n') { alt := true }) = some bound ∧ bound.action = .goto "nodes" :=
  (bindsHotkeys_firstListed Kind.pods.name threeHotkeys noneInDefault).1
    [("a", ⟨"Ctrl-w", "", "pods"⟩)] [("c", ⟨"Alt-n", "", "pods"⟩)] "b" ⟨"Alt-n", "Nodes", "nodes"⟩
    _ rfl (by decide +kernel) (by decide +kernel) (by decide +kernel)

/-- A hotkey on the key of the sort by namespace. -/
def hotkeyOnP : Config where
  hotkeys := [("nodes", ⟨"Shift-P", "", "nodes"⟩)]

/-- The hotkey is not bound, though a view of one namespace has nothing on its key. -/
theorem not_bindsHotkeys_hotkeyOnP :
    ¬(firstListed Kind.pods.name hotkeyOnP noneInDefault).BindsHotkeys hotkeyOnP
      ((firstListed Kind.pods.name hotkeyOnP noneInDefault).ownKeys Kind.pods.name) := by
  intro hbinds
  obtain ⟨bound, hbound, -⟩ := hbinds [] [] "nodes" ⟨"Shift-P", "", "nodes"⟩ namespaceKey rfl
    (by decide +kernel) (by decide +kernel) nofun
  have hwide : ((start Kind.pods.name hotkeyOnP).run
      [.operate (.update noneInDefault), .refreshKeys]).wide = false := by decide +kernel
  unfold firstListed at hbound
  rw [get?_run, wanted?, if_pos rfl, hwide] at hbound
  cases hbound

end Browser

end ResourceBrowser.View
