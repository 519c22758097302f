import ResourceBrowser.Proofs.Table.Order
import ResourceBrowser.Proofs.Tunnel.Ownership

/-!
# The list of tunnels

The list shows the tunnels in order of their ids. So the position of a tunnel is the number of
tunnels ahead of it, and it moves whenever one of those comes or goes.

* `Registry.ahead`: the number of tunnels ahead of an id.
* `Registry.getElem?_list_iff`: positions in the list are numbers of tunnels ahead.
* `Registry.askAt_eq_ask_iff`: when to ask the tunnel at a position is to ask a given one.
-/

namespace ResourceBrowser.Tunnel

open Table

/-! ## The order of ids -/

instance : Std.TransCmp Id.compare :=
  inferInstanceAs (Std.TransCmp (compareLex (compareOn Id.path) (compareOn Id.container)))

theorem Id.eq_of_compare {a b : Id} (h : a.compare b = .eq) : a = b := by
  obtain ⟨hpath, hcontainer⟩ := Ordering.then_eq_eq.1 h
  have hp : Ord.compare a.path b.path = .eq := hpath
  have hc : Ord.compare a.container b.container = .eq := hcontainer
  cases a
  cases b
  rw [Id.mk.injEq]
  exact ⟨Std.LawfulEqCmp.eq_of_compare hp, Std.LawfulEqCmp.eq_of_compare hc⟩

/-- The order of entries is that of their ids. -/
def Entry.compare (a b : Entry) : Ordering := a.id.compare b.id

instance : Std.TransCmp Entry.compare where
  eq_swap {a b} := (Std.OrientedCmp.eq_swap : a.id.compare b.id = (b.id.compare a.id).swap)
  isLE_trans {a _ c} hab hbc :=
    (Std.TransCmp.isLE_trans hab hbc : (a.id.compare c.id).isLE = true)

/-- In an ordered list, the position of an entry is the number of those before it. -/
theorem countP_of_pairwise {l : List Entry} (h : l.Pairwise fun a b => a.compare b = .lt)
    {i : Nat} {e : Entry} (he : l[i]? = some e) :
    l.countP (fun d => (d.id.compare e.id).isLT) = i := by
  induction l generalizing i with
  | nil => cases he
  | cons a l ih =>
    obtain ⟨hahead, hrest⟩ := List.pairwise_cons.1 h
    cases i with
    | zero =>
      obtain rfl := Option.some.inj he
      have hself : a.id.compare a.id = .eq := Std.ReflCmp.compare_self
      have hnone : l.countP (fun d => (d.id.compare a.id).isLT) = 0 := by
        rw [List.countP_eq_zero]
        intro d hd
        have hgt : d.id.compare a.id = .gt := Std.OrientedCmp.gt_iff_lt.2 (hahead d hd)
        rw [hgt]
        decide
      rw [List.countP_cons, hnone, hself]
      rfl
    | succ i =>
      have hlt : a.id.compare e.id = .lt := hahead e (List.mem_of_getElem? he)
      rw [List.countP_cons, ih hrest he, hlt]
      rfl

namespace Registry

variable {r : Registry} {i : Nat} {e : Entry} {t u : Ticket}

/-- The number of tunnels ahead of an id in the list. -/
def ahead (r : Registry) (id : Id) : Nat := r.entries.countP fun e => (e.id.compare id).isLT

theorem list_perm (r : Registry) : r.list.Perm r.entries := List.mergeSort_perm _ _

/-- Where no two entries share an id, the list is strictly ordered. -/
theorem pairwise_list (hids : (r.entries.map (·.id)).Nodup) :
    r.list.Pairwise fun a b => a.compare b = .lt := by
  have hordered : r.list.Pairwise fun a b => (a.compare b).isLE :=
    (stablySorted_mergeSort r.entries).ordered
  have hdistinct : r.list.Pairwise fun a b => a.id ≠ b.id :=
    List.pairwise_map.1 (((list_perm r).map _).nodup_iff.2 hids)
  refine (hordered.and hdistinct).imp fun {a b} h => ?_
  cases hcompare : a.compare b with
  | lt => rfl
  | eq => exact absurd (Id.eq_of_compare hcompare) h.2
  | gt =>
    have hle := h.1
    rw [hcompare] at hle
    cases hle

/-- The positions in the list are the numbers of tunnels ahead. -/
theorem getElem?_list_iff (hids : (r.entries.map (·.id)).Nodup) :
    r.list[i]? = some e ↔ e ∈ r.entries ∧ r.ahead e.id = i := by
  have hposition : ∀ {j : Nat} {e : Entry}, r.list[j]? = some e → r.ahead e.id = j := by
    intro j e h
    unfold ahead
    rw [← (list_perm r).countP_eq]
    exact countP_of_pairwise (pairwise_list hids) h
  constructor
  · intro h
    exact ⟨(list_perm r).mem_iff.1 (List.mem_of_getElem? h), hposition h⟩
  · rintro ⟨he, rfl⟩
    obtain ⟨j, hj⟩ := List.mem_iff_getElem?.1 ((list_perm r).mem_iff.2 he)
    rw [hposition hj, hj]

theorem getElem?_list_eq_none_iff (r : Registry) : r.list[i]? = none ↔ r.size ≤ i := by
  rw [List.getElem?_eq_none_iff, (list_perm r).length_eq]
  rfl

/-! ## Asking one tunnel to stop -/

/-- Asks the tunnel of a start to stop, if it is still there. -/
def ask (r : Registry) (t : Ticket) : Registry := r.raise (·.ticket = t)

/-- What is asked to stop depends on the entries that are there. -/
theorem raise_congr {p q : Entry → Bool} (h : ∀ e ∈ r.entries, p e = q e) :
    r.raise p = r.raise q := by
  have hentries : r.entries.map (fun e => if p e then { e with state := .stopping } else e) =
      r.entries.map fun e => if q e then { e with state := .stopping } else e :=
    List.map_congr_left fun e he => by rw [h e he]
  unfold raise update
  rw [hentries, List.filter_congr h]

theorem raise_false (r : Registry) : r.raise (fun _ => false) = r := by
  simp [raise, update]

theorem raised_ask (r : Registry) (t : Ticket) : (r.ask t).raised =
    (r.entries.filter (·.ticket = t)).map (·.signal) ++ r.raised :=
  rfl

/-- Once the tunnel is gone, nothing is asked. -/
theorem ask_of_not_mem (h : t ∉ r.entries.map (·.ticket)) : r.ask t = r := by
  have hne : ∀ e ∈ r.entries, decide (e.ticket = t) = false := fun e he =>
    decide_eq_false fun heq => h (List.mem_map.2 ⟨e, he, heq⟩)
  exact (raise_congr hne).trans (raise_false r)

/-- To ask the tunnel of an id is to ask the one tunnel there is for it. -/
theorem stop_eq_ask (hids : (r.entries.map (·.id)).Nodup) (he : e ∈ r.entries) :
    r.stop e.id = .ok (r.ask e.ticket) := by
  have hcontains : r.contains e.id = true := by
    rw [← Bool.not_eq_false, contains_eq_false]
    exact fun hfree => hfree e he rfl
  have hiff : ∀ d ∈ r.entries, decide (d.id = e.id) = decide (d.ticket = e.ticket) := fun d hd =>
    decide_eq_decide.2
      ⟨fun h => by rw [List.inj_on_of_nodup_map hids hd he h], fun h => congrArg Ticket.id h⟩
  unfold stop
  rw [if_pos hcontains, raise_congr hiff]
  rfl

/-- Something is asked exactly if the tunnel is there. -/
theorem ask_eq_self_iff : r.ask t = r ↔ t ∉ r.entries.map (·.ticket) := by
  refine ⟨fun h ht => ?_, ask_of_not_mem⟩
  obtain ⟨e, he, rfl⟩ := List.mem_map.1 ht
  have hraised := congrArg Registry.raised h
  rw [raised_ask, List.append_left_eq_self, List.map_eq_nil_iff, List.filter_eq_nil_iff] at hraised
  exact hraised e he (decide_eq_true rfl)

/-- Who asks a tunnel that is there asks no other one. -/
theorem eq_of_ask (hsignals : (r.entries.map (·.signal)).Nodup)
    (ht : t ∈ r.entries.map (·.ticket)) (h : r.ask t = r.ask u) : t = u := by
  obtain ⟨e, he, rfl⟩ := List.mem_map.1 ht
  have hraised := congrArg Registry.raised h
  rw [raised_ask, raised_ask, List.append_left_inj] at hraised
  -- the signal of `e` is raised on both sides
  have hsignal : e.signal ∈ (r.entries.filter (·.ticket = e.ticket)).map (·.signal) :=
    List.mem_map.2 ⟨e, List.mem_filter.2 ⟨he, by simp⟩, rfl⟩
  rw [hraised] at hsignal
  obtain ⟨d, hd, hsame⟩ := List.mem_map.1 hsignal
  obtain ⟨hmem, hu⟩ := List.mem_filter.1 hd
  rw [← List.inj_on_of_nodup_map hsignals hmem he hsame]
  exact of_decide_eq_true hu

/-- Asks the tunnel at a position to stop, if there is one. -/
def askAt (r : Registry) (i : Nat) : Registry :=
  match r.list[i]? with
  | some e => r.ask e.ticket
  | none => r

/-- To ask the tunnel at a position is to ask a given one exactly if that one is at the position, or
is gone and there is none at the position. -/
theorem askAt_eq_ask_iff (hids : (r.entries.map (·.id)).Nodup)
    (hsignals : (r.entries.map (·.signal)).Nodup) :
    r.askAt i = r.ask t ↔
      if t ∈ r.entries.map (·.ticket) then r.ahead t.id = i else r.size ≤ i := by
  have hposition : ∀ {e : Entry}, e ∈ r.entries → r.list[r.ahead e.id]? = some e :=
    fun he => (getElem?_list_iff hids).2 ⟨he, rfl⟩
  unfold askAt
  cases hi : r.list[i]? with
  | none =>
    have hsize := (getElem?_list_eq_none_iff r).1 hi
    dsimp only
    split
    · -- a tunnel that is there is ahead of the end of the list
      rename_i ht
      obtain ⟨e, he, rfl⟩ := List.mem_map.1 ht
      refine iff_of_false (fun h => ask_eq_self_iff.1 h.symm ht) fun hahead => ?_
      have hsome := hposition he
      rw [show r.ahead e.id = i from hahead, hi] at hsome
      cases hsome
    · rename_i ht
      exact iff_of_true (ask_of_not_mem ht).symm hsize
  | some e =>
    obtain ⟨he, hahead⟩ := (getElem?_list_iff hids).1 hi
    have hticket : e.ticket ∈ r.entries.map (·.ticket) := List.mem_map.2 ⟨e, he, rfl⟩
    dsimp only
    split
    · rename_i ht
      obtain ⟨d, hd, rfl⟩ := List.mem_map.1 ht
      constructor
      · intro h
        rw [← eq_of_ask hsignals hticket h]
        exact hahead
      · intro hmoved
        have hd' := hposition hd
        rw [show r.ahead d.id = i from hmoved, hi] at hd'
        rw [Option.some.inj hd']
    · rename_i ht
      refine iff_of_false (fun h => ?_) fun hsize => ?_
      · rw [ask_of_not_mem ht] at h
        exact ask_eq_self_iff.1 h hticket
      · rw [(getElem?_list_eq_none_iff r).2 hsize] at hi
        cases hi

end Registry

end ResourceBrowser.Tunnel
