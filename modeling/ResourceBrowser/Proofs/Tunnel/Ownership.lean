import ResourceBrowser.Proofs.Tunnel.Numbers

/-!
# Who owns the entries of the registry

An entry belongs to the start that inserted it: first to the call, then to the session, until one
of them removes it. Removing goes by id and looks at no ticket, so that a step removes the entry of
its own start and no other rests on the invariant: the tickets in the registry are those of the
owners, and no id is entered twice (`Owned`). Both sides change alike under every step, by
`mem_owners_of_taken` and `mem_tickets_of_taken`.

* `System.owners`: the starts that have inserted an entry and not removed it yet.
* `KeepsOwn`: one entry for each owner, and what steps do to them, `keepsOwn_of_reachable`.
-/

namespace ResourceBrowser.Tunnel

/-! ## Tickets held -/

section Held

variable {α : Type} {ticket : α → Ticket} {owns : α → Bool} {l : List α} {x : α} {t : Ticket}

/-- The tickets of those that own an entry. -/
def held (ticket : α → Ticket) (owns : α → Bool) (l : List α) : List Ticket :=
  (l.filter owns).map ticket

theorem mem_held : t ∈ held ticket owns l ↔ ∃ y ∈ l, owns y = true ∧ ticket y = t := by
  simp [held, and_assoc]

/-- The number of a ticket tells who holds it. -/
theorem owns_of_number_eq (hl : (l.map fun y => (ticket y).number).Nodup) (hx : x ∈ l)
    (ht : t ∈ held ticket owns l) (h : t.number = (ticket x).number) :
    owns x = true ∧ t = ticket x := by
  obtain ⟨y, hy, howns, rfl⟩ := mem_held.1 ht
  obtain rfl := eq_of_number hl hx hy h
  exact ⟨howns, rfl⟩

theorem mem_held_filter (n : Nat) :
    t ∈ held ticket owns (l.filter fun y => (ticket y).number ≠ n) ↔
      t ∈ held ticket owns l ∧ t.number ≠ n := by
  simp only [mem_held, List.mem_filter, decide_eq_true_eq]
  constructor
  · rintro ⟨y, ⟨hy, hn⟩, howns, rfl⟩
    exact ⟨⟨y, hy, howns, rfl⟩, hn⟩
  · rintro ⟨⟨y, hy, howns, rfl⟩, hn⟩
    exact ⟨y, ⟨hy, hn⟩, howns, rfl⟩

/-- What is held after one member has been replaced by one with the same ticket. -/
theorem mem_held_replace (hl : (l.map fun y => (ticket y).number).Nodup) (hx : x ∈ l) {f : α → α}
    (hf : ticket (f x) = ticket x) :
    t ∈ held ticket owns
        (l.map fun y => if (ticket y).number = (ticket x).number then f y else y) ↔
      owns (f x) = true ∧ t = ticket x ∨
        t ∈ held ticket owns l ∧ t.number ≠ (ticket x).number := by
  rw [mem_held]
  constructor
  · rintro ⟨y, hy, howns, rfl⟩
    rcases (mem_replace hl hx f).1 hy with rfl | ⟨hy, hn⟩
    · exact .inl ⟨howns, hf⟩
    · exact .inr ⟨mem_held.2 ⟨y, hy, howns, rfl⟩, hn⟩
  · rintro (⟨howns, rfl⟩ | ⟨ht, hn⟩)
    · exact ⟨f x, (mem_replace hl hx f).2 (.inl rfl), howns, hf⟩
    · obtain ⟨y, hy, howns, rfl⟩ := mem_held.1 ht
      exact ⟨y, (mem_replace hl hx f).2 (.inr ⟨hy, hn⟩), howns, rfl⟩

end Held

/-! ## What a step does to tickets -/

/-- The tickets after a step that does `u` to them. -/
def Upkeep.Leaves (u : Upkeep) (before : List Ticket) (t : Ticket) : Prop :=
  match u with
  | .keeps => t ∈ before
  | .inserts new => t ∈ before ∨ t = new
  | .removes own => t ∈ before ∧ t ≠ own

/-- The entries after a step that does `u` to them: an entry is added, or exactly that of a ticket
is taken away, or every entry keeps its ticket. -/
def Upkeep.Changes (u : Upkeep) (before after : List Entry) : Prop :=
  match u with
  | .keeps => after.map (·.ticket) = before.map (·.ticket)
  | .inserts new => ∃ e, e.ticket = new ∧ after = before ++ [e]
  | .removes own => ∃ e ∈ before, e.ticket = own ∧ after = before.erase e

namespace Registry

variable {r : Registry}

theorem map_ticket_update (p : Entry → Bool) (f : Entry → Entry)
    (hf : ∀ e, (f e).ticket = e.ticket) :
    (r.update p f).entries.map (·.ticket) = r.entries.map (·.ticket) := by
  unfold update
  rw [List.map_map]
  refine List.map_congr_left fun e _ => ?_
  rw [Function.comp_apply]
  split
  · exact hf e
  · rfl

theorem contains_eq_false {id : Id} : r.contains id = false ↔ ∀ e ∈ r.entries, e.id ≠ id := by
  simp [contains, find?]

/-- Removing an id takes away the one entry there is for it. -/
theorem entries_remove (hids : (r.entries.map (·.id)).Nodup) {e : Entry} (he : e ∈ r.entries) :
    (r.remove e.id).entries = r.entries.erase e := by
  have hnodup : r.entries.Nodup := List.Nodup.of_map _ hids
  rw [hnodup.erase_eq_filter]
  refine List.filter_congr fun d hd => ?_
  have hiff : d.id = e.id ↔ d = e :=
    ⟨fun h => List.inj_on_of_nodup_map hids hd he h, fun h => by rw [h]⟩
  rw [Bool.eq_iff_iff]
  simp [hiff]

end Registry

namespace System

variable {s s' : System} {u : Upkeep} {o : Option (Nat × Event)}

/-- The tickets of the entries. -/
def tickets (s : System) : List Ticket := s.registry.entries.map (·.ticket)

/-- The tickets of the starts that have inserted an entry and not removed it yet: calls about to
launch their session, and sessions up to their removal step. -/
def owners (s : System) : List Ticket :=
  held Call.ticket (·.stage.owns) s.calls ++ held Session.ticket (·.stage.owns) s.sessions

theorem mem_owners {t : Ticket} :
    t ∈ s.owners ↔ t ∈ held Call.ticket (·.stage.owns) s.calls ∨
      t ∈ held Session.ticket (·.stage.owns) s.sessions :=
  List.mem_append

/-! ## Owners by their numbers -/

section Numbers

variable {t : Ticket} {c : Call} {x : Session}

theorem ticket_mem_owners_call (hc : c ∈ s.calls) (h : c.stage.owns = true) :
    c.ticket ∈ s.owners :=
  mem_owners.2 (.inl (mem_held.2 ⟨c, hc, h, rfl⟩))

theorem ticket_mem_owners_session (hx : x ∈ s.sessions) (h : x.stage.owns = true) :
    x.ticket ∈ s.owners :=
  mem_owners.2 (.inr (mem_held.2 ⟨x, hx, h, rfl⟩))

/-- No session holds the number of a call. -/
theorem number_ne_call (hn : Numbered s.calls s.sessions s.next) (hc : c ∈ s.calls)
    (ht : t ∈ held Session.ticket (·.stage.owns) s.sessions) : t.number ≠ c.number := by
  obtain ⟨y, hy, -, rfl⟩ := mem_held.1 ht
  exact (hn.apart c hc y hy).symm

/-- No call holds the number of a session. -/
theorem number_ne_session (hn : Numbered s.calls s.sessions s.next) (hx : x ∈ s.sessions)
    (ht : t ∈ held Call.ticket (·.stage.owns) s.calls) : t.number ≠ x.number := by
  obtain ⟨d, hd, -, rfl⟩ := mem_held.1 ht
  exact hn.apart d hd x hx

theorem owner_call (hn : Numbered s.calls s.sessions s.next) (hc : c ∈ s.calls)
    (ht : t ∈ s.owners) (h : t.number = c.number) : c.stage.owns = true ∧ t = c.ticket := by
  rcases mem_owners.1 ht with ht | ht
  · exact owns_of_number_eq hn.ofCalls hc ht h
  · exact absurd h (number_ne_call hn hc ht)

theorem owner_session (hn : Numbered s.calls s.sessions s.next) (hx : x ∈ s.sessions)
    (ht : t ∈ s.owners) (h : t.number = x.number) : x.stage.owns = true ∧ t = x.ticket := by
  rcases mem_owners.1 ht with ht | ht
  · exact absurd h (number_ne_session hn hx ht)
  · exact owns_of_number_eq hn.ofSessions hx ht h

/-- A call without an entry has no ticket among those of the owners. -/
theorem number_ne_of_idle_call (hn : Numbered s.calls s.sessions s.next) (hc : c ∈ s.calls)
    (before : c.stage.owns = false) (ht : t ∈ s.owners) : t.number ≠ c.number := by
  intro hnumber
  have howns := (owner_call hn hc ht hnumber).1
  rw [before] at howns
  exact absurd howns (by simp)

/-- Nor has a session that has removed its entry. -/
theorem number_ne_of_idle_session (hn : Numbered s.calls s.sessions s.next) (hx : x ∈ s.sessions)
    (before : x.stage.owns = false) (ht : t ∈ s.owners) : t.number ≠ x.number := by
  intro hnumber
  have howns := (owner_session hn hx ht hnumber).1
  rw [before] at howns
  exact absurd howns (by simp)

/-- The owners after a call has moved. -/
theorem mem_owners_goOn (hn : Numbered s.calls s.sessions s.next) (hc : c ∈ s.calls)
    (stage : CallStage) :
    t ∈ (s.goOn c stage).system.owners ↔
      stage.owns = true ∧ t = c.ticket ∨ t ∈ s.owners ∧ t.number ≠ c.number := by
  have hcalls : t ∈ held Call.ticket (·.stage.owns) (s.goOn c stage).system.calls ↔
      stage.owns = true ∧ t = c.ticket ∨
        t ∈ held Call.ticket (·.stage.owns) s.calls ∧ t.number ≠ c.number :=
    mem_held_replace hn.ofCalls hc rfl
  have hne := number_ne_call (t := t) hn hc
  rw [mem_owners, mem_owners, hcalls]
  constructor
  · rintro ((h | ⟨ht, hnumber⟩) | ht)
    · exact .inl h
    · exact .inr ⟨.inl ht, hnumber⟩
    · exact .inr ⟨.inr ht, hne ht⟩
  · rintro (h | ⟨ht | ht, hnumber⟩)
    · exact .inl (.inl h)
    · exact .inl (.inr ⟨ht, hnumber⟩)
    · exact .inr ht

/-- The owners after a call has ended. -/
theorem mem_owners_finish (hn : Numbered s.calls s.sessions s.next) (hc : c ∈ s.calls)
    (result : Except Fault Unit) :
    t ∈ (s.finish c result).system.owners ↔ t ∈ s.owners ∧ t.number ≠ c.number := by
  have hcalls : t ∈ held Call.ticket (·.stage.owns) (s.finish c result).system.calls ↔
      t ∈ held Call.ticket (·.stage.owns) s.calls ∧ t.number ≠ c.number :=
    mem_held_filter c.number
  have hne := number_ne_call (t := t) hn hc
  rw [mem_owners, mem_owners, hcalls]
  constructor
  · rintro (⟨ht, hnumber⟩ | ht)
    · exact ⟨.inl ht, hnumber⟩
    · exact ⟨.inr ht, hne ht⟩
  · rintro ⟨ht | ht, hnumber⟩
    · exact .inl ⟨ht, hnumber⟩
    · exact .inr ht

/-- The owners after a session has moved. -/
theorem mem_owners_moveSession (hn : Numbered s.calls s.sessions s.next) (hx : x ∈ s.sessions)
    (stage : SessionStage) :
    t ∈ (s.moveSession x stage).owners ↔
      stage.owns = true ∧ t = x.ticket ∨ t ∈ s.owners ∧ t.number ≠ x.number := by
  have hsessions : t ∈ held Session.ticket (·.stage.owns) (s.moveSession x stage).sessions ↔
      stage.owns = true ∧ t = x.ticket ∨
        t ∈ held Session.ticket (·.stage.owns) s.sessions ∧ t.number ≠ x.number :=
    mem_held_replace hn.ofSessions hx rfl
  have hne := number_ne_session (t := t) hn hx
  rw [mem_owners, mem_owners, hsessions]
  constructor
  · rintro (ht | h | ⟨ht, hnumber⟩)
    · exact .inr ⟨.inl ht, hne ht⟩
    · exact .inl h
    · exact .inr ⟨.inr ht, hnumber⟩
  · rintro (h | ⟨ht | ht, hnumber⟩)
    · exact .inr (.inl h)
    · exact .inl ht
    · exact .inr (.inr ⟨ht, hnumber⟩)

/-- The owners after a session has ended. -/
theorem mem_owners_ended (hn : Numbered s.calls s.sessions s.next) (hx : x ∈ s.sessions)
    (events : List Event) :
    t ∈ { s with events, sessions := s.sessions.filter (·.number ≠ x.number) }.owners ↔
      t ∈ s.owners ∧ t.number ≠ x.number := by
  have hsessions : t ∈ held Session.ticket (·.stage.owns)
        (s.sessions.filter (·.number ≠ x.number)) ↔
      t ∈ held Session.ticket (·.stage.owns) s.sessions ∧ t.number ≠ x.number :=
    mem_held_filter x.number
  have hne := number_ne_session (t := t) hn hx
  rw [mem_owners, mem_owners, hsessions]
  constructor
  · rintro (ht | ⟨ht, hnumber⟩)
    · exact ⟨.inl ht, hne ht⟩
    · exact ⟨.inr ht, hnumber⟩
  · rintro ⟨ht | ht, hnumber⟩
    · exact .inl ht
    · exact .inr ⟨ht, hnumber⟩

/-- The owners after a call has launched a session. -/
theorem mem_owners_launched (hn : Numbered s.calls s.sessions s.next) (hc : c ∈ s.calls)
    (howns : x.stage.owns = true) (result : Except Fault Unit) :
    t ∈ ({ s with sessions := s.sessions ++ [x] }.finish c result).system.owners ↔
      t ∈ s.owners ∧ t.number ≠ c.number ∨ t = x.ticket := by
  have hsessions : t ∈ held Session.ticket (·.stage.owns) (s.sessions ++ [x]) ↔
      t ∈ held Session.ticket (·.stage.owns) s.sessions ∨ t = x.ticket := by
    simp [held, howns]
  have hfinish := mem_owners_finish (t := t) hn hc result
  rw [mem_owners] at hfinish ⊢
  rw [← hfinish, or_assoc]
  exact or_congr_right hsessions

end Numbers

/-! ## Owners after a step -/

/-- A step of a session that keeps its entry. -/
theorem mem_owners_moveSession_owns (hn : Numbered s.calls s.sessions s.next) {x : Session}
    (hx : x ∈ s.sessions) {stage : SessionStage} (before : x.stage.owns = true)
    (after : stage.owns = true) (t : Ticket) :
    t ∈ (s.moveSession x stage).owners ↔ t ∈ s.owners := by
  rw [mem_owners_moveSession hn hx stage]
  constructor
  · rintro (⟨-, rfl⟩ | ⟨ht, -⟩)
    · exact ticket_mem_owners_session hx before
    · exact ht
  · intro ht
    by_cases hnumber : t.number = x.number
    · exact .inl ⟨after, (owner_session hn hx ht hnumber).2⟩
    · exact .inr ⟨ht, hnumber⟩

/-- Owners come and go as `upkeep` tells. -/
theorem mem_owners_of_taken (hn : Numbered s.calls s.sessions s.next) (h : Taken s u o s')
    (t : Ticket) : t ∈ s'.owners ↔ u.Leaves s.owners t := by
  cases h with
  | begun id spec =>
    have hcalls : held Call.ticket (·.stage.owns) (s.begin id spec).1.calls =
        held Call.ticket (·.stage.owns) s.calls := by
      simp [held, begin, CallStage.owns]
    rw [mem_owners, hcalls]
    exact mem_owners.symm
  | @moved c stage hc before after =>
    refine (mem_owners_goOn hn hc stage).trans ⟨?_, ?_⟩
    · rintro (⟨howns, -⟩ | ⟨ht, -⟩)
      · exact absurd howns (by simp [after])
      · exact ht
    · exact fun ht => .inr ⟨ht, number_ne_of_idle_call hn hc before ht⟩
  | @ended c result hc before =>
    refine (mem_owners_finish hn hc result).trans ⟨And.left, fun ht => ⟨ht, ?_⟩⟩
    exact number_ne_of_idle_call hn hc before ht
  | @entered c stage e hc before after =>
    refine (mem_owners_goOn hn hc stage).trans ⟨?_, ?_⟩
    · rintro (⟨-, ht⟩ | ⟨ht, -⟩)
      · exact .inr ht
      · exact .inl ht
    · rintro (ht | ht)
      · exact .inr ⟨ht, number_ne_of_idle_call hn hc before ht⟩
      · exact .inl ⟨after, ht⟩
  | @rolledBack c result hc =>
    -- the call is an owner, so its number tells its ticket from the others
    refine (mem_owners_finish hn hc result).trans (and_congr_right fun ht => not_congr ⟨?_, ?_⟩)
    · exact fun hnumber => (owner_call hn hc ht hnumber).2
    · exact fun heq => congrArg Ticket.number heq
  | @launched c x result hc before ticket stage =>
    -- the session takes the ticket over from the call
    have howns : x.stage.owns = true := by rw [stage]; rfl
    refine (mem_owners_launched hn hc howns result).trans ⟨?_, ?_⟩
    · rintro (⟨ht, -⟩ | rfl)
      · exact ht
      · rw [ticket]
        exact ticket_mem_owners_call hc before
    · intro ht
      by_cases hnumber : t.number = c.number
      · exact .inr ((owner_call hn hc ht hnumber).2.trans ticket.symm)
      · exact .inl ⟨ht, hnumber⟩
  | activated hx stage =>
    exact mem_owners_moveSession_owns hn hx (by rw [stage]; rfl) rfl t
  | announced hx stage =>
    exact mem_owners_moveSession_owns hn hx (by rw [stage]; rfl) rfl t
  | returned hx stage =>
    exact mem_owners_moveSession_owns hn hx (by rw [stage]; rfl) rfl t
  | @removed x failure hx =>
    refine (mem_owners_moveSession hn hx _).trans ⟨?_, ?_⟩
    · rintro (⟨howns, -⟩ | ⟨ht, hnumber⟩)
      · exact absurd howns (by simp [SessionStage.owns])
      · exact ⟨ht, fun heq => hnumber (congrArg Ticket.number heq)⟩
    · rintro ⟨ht, hne⟩
      exact .inr ⟨ht, fun hnumber => hne (owner_session hn hx ht hnumber).2⟩
  | @reported x failure hx stage =>
    -- the entry is gone since the step before
    refine (mem_owners_ended hn hx _).trans ⟨And.left, fun ht => ⟨ht, ?_⟩⟩
    exact number_ne_of_idle_session hn hx (by rw [stage]; rfl) ht
  | raised => exact Iff.rfl

/-! ## Entries after a step -/

/-- The entries are those of the owners, no two of them for one id. -/
structure Owned (s : System) : Prop where
  ids : (s.registry.entries.map (·.id)).Nodup
  matched : ∀ t, t ∈ s.tickets ↔ t ∈ s.owners

/-- An owner finds its entry under its id, and removing the id takes away that entry. -/
theorem exists_entry_remove (h : Owned s) {t : Ticket} (ht : t ∈ s.owners) :
    ∃ e ∈ s.registry.entries, e.ticket = t ∧
      (s.registry.remove t.id).entries = s.registry.entries.erase e := by
  obtain ⟨e, he, rfl⟩ := List.mem_map.1 ((h.matched t).2 ht)
  exact ⟨e, he, rfl, Registry.entries_remove h.ids he⟩

/-- What a step does to the entries, in full. -/
theorem changes_of_taken (h : Owned s) (hstep : Taken s u o s') :
    u.Changes s.registry.entries s'.registry.entries := by
  cases hstep with
  | begun | moved | ended | launched | announced | returned | reported => exact rfl
  | entered _ _ _ _ ticket => exact ⟨_, ticket, rfl⟩
  | rolledBack hc before => exact exists_entry_remove h (ticket_mem_owners_call hc before)
  | activated => exact Registry.map_ticket_update _ _ fun _ => rfl
  | removed hx stage =>
    exact exists_entry_remove h (ticket_mem_owners_session hx (by rw [stage]; rfl))
  | raised p => exact Registry.map_ticket_update _ _ fun _ => rfl

/-- A new entry is for an id that has none. -/
theorem free_of_taken {new : Ticket} (hstep : Taken s (.inserts new) o s') :
    ∀ e ∈ s.registry.entries, e.id ≠ new.id := by
  cases hstep with
  | entered _ _ _ free => exact Registry.contains_eq_false.1 free

/-- Tickets come and go as `upkeep` tells. -/
theorem mem_tickets_of_taken (h : Owned s) (hstep : Taken s u o s') (t : Ticket) :
    t ∈ s'.tickets ↔ u.Leaves s.tickets t := by
  have hchanges := changes_of_taken h hstep
  cases u with
  | keeps =>
    unfold tickets
    rw [show s'.registry.entries.map (·.ticket) = _ from hchanges]
    exact Iff.rfl
  | inserts new =>
    obtain ⟨e, rfl, hafter⟩ := hchanges
    simp [tickets, hafter, Upkeep.Leaves]
  | removes own =>
    obtain ⟨e, he, rfl, hafter⟩ := hchanges
    have hnodup : s.registry.entries.Nodup := List.Nodup.of_map _ h.ids
    unfold tickets Upkeep.Leaves
    rw [hafter, List.mem_map, List.mem_map]
    constructor
    · rintro ⟨d, hd, rfl⟩
      obtain ⟨hne, hd⟩ := hnodup.mem_erase_iff.1 hd
      refine ⟨⟨d, hd, rfl⟩, fun heq => hne ?_⟩
      exact List.inj_on_of_nodup_map h.ids hd he (congrArg Ticket.id heq)
    · rintro ⟨⟨d, hd, rfl⟩, hne⟩
      exact ⟨d, hnodup.mem_erase_iff.2 ⟨fun heq => hne (by rw [heq]), hd⟩, rfl⟩

theorem nodup_ids_of_taken (h : Owned s) (hstep : Taken s u o s') :
    (s'.registry.entries.map (·.id)).Nodup := by
  have hchanges := changes_of_taken h hstep
  cases u with
  | keeps =>
    have hids : s'.registry.entries.map (·.id) = s.registry.entries.map (·.id) := by
      have hmap := congrArg (List.map Ticket.id) hchanges
      simpa [Entry.ticket, Function.comp_def] using hmap
    rw [hids]
    exact h.ids
  | inserts new =>
    have hfree := free_of_taken hstep
    obtain ⟨e, rfl, hafter⟩ := hchanges
    rw [hafter, List.map_append, List.nodup_append]
    refine ⟨h.ids, List.nodup_singleton _, ?_⟩
    intro id hid other hother
    obtain ⟨d, hd, rfl⟩ := List.mem_map.1 hid
    rw [List.mem_singleton.1 hother]
    exact hfree d hd
  | removes own =>
    obtain ⟨e, -, -, hafter⟩ := hchanges
    rw [hafter]
    exact h.ids.sublist (List.erase_sublist.map _)

/-- Every step keeps entries and owners matched. -/
theorem owned_of_taken (hn : Numbered s.calls s.sessions s.next) (h : Owned s)
    (hstep : Taken s u o s') : Owned s' := by
  refine ⟨nodup_ids_of_taken h hstep, fun t => ?_⟩
  rw [mem_tickets_of_taken h hstep, mem_owners_of_taken hn hstep]
  cases u with
  | keeps => exact h.matched t
  | inserts new => exact or_congr_left (h.matched t)
  | removes own => exact and_congr_left fun _ => h.matched t

theorem owned_of_reachable (h : Reachable s) : Owned s := by
  induction h with
  | start => exact ⟨List.nodup_nil, fun t => by simp [tickets, owners, held, Registry.empty]⟩
  | step label hs hp ih => exact owned_of_taken (numbered_of_reachable hs) ih (taken_of_step? hp)

/-! ## One entry for each owner -/

/-- No two owners share a number. -/
theorem nodup_number_owners (hn : Numbered s.calls s.sessions s.next) :
    (s.owners.map (·.number)).Nodup := by
  unfold owners held
  rw [List.map_append, List.map_map, List.map_map, List.nodup_append]
  refine ⟨?_, ?_, ?_⟩
  · exact hn.ofCalls.sublist (List.filter_sublist.map _)
  · exact hn.ofSessions.sublist (List.filter_sublist.map _)
  · intro n hcalls m hsessions
    obtain ⟨c, hc, rfl⟩ := List.mem_map.1 hcalls
    obtain ⟨x, hx, rfl⟩ := List.mem_map.1 hsessions
    exact hn.apart c (List.mem_of_mem_filter hc) x (List.mem_of_mem_filter hx)

/-- The entries are those of the owners, one for each. -/
theorem tickets_perm_owners (h : Reachable s) : s.tickets.Perm s.owners := by
  have ho := owned_of_reachable h
  have htickets : s.tickets.Nodup := by
    have hids : (s.tickets.map (·.id)).Nodup := by
      unfold tickets
      rw [List.map_map]
      exact ho.ids
    exact List.Nodup.of_map _ hids
  have howners : s.owners.Nodup :=
    List.Nodup.of_map _ (nodup_number_owners (numbered_of_reachable h))
  exact (List.perm_ext_iff_of_nodup htickets howners).2 ho.matched

/-- No two owners share an id. -/
theorem nodup_id_owners (h : Reachable s) : (s.owners.map (·.id)).Nodup := by
  refine ((tickets_perm_owners h).map _).nodup_iff.1 ?_
  unfold tickets
  rw [List.map_map]
  exact (owned_of_reachable h).ids

/-- The entries of the registry are those of the starts that have inserted one and not removed it
yet, one for each and at most one for an id, and no step touches the entry of another start. -/
structure KeepsOwn (s : System) : Prop where
  oneToOne : s.tickets.Perm s.owners
  numbers : (s.owners.map (·.number)).Nodup
  ids : (s.owners.map (·.id)).Nodup
  steps : ∀ label p, s.step? label = some p →
    (s.upkeep label).Changes s.registry.entries p.system.registry.entries

/-- However the steps of calls, sessions and clients interleave, every start keeps its own entry,
and only that. -/
theorem keepsOwn_of_reachable (h : Reachable s) : s.KeepsOwn := by
  refine ⟨tickets_perm_owners h, nodup_number_owners (numbered_of_reachable h),
    nodup_id_owners h, ?_⟩
  intro label p hp
  exact changes_of_taken (owned_of_reachable h) (taken_of_step? hp)

/-- Two calls for one id of which both find it free; the second one is turned away, and the session
of the first is about to remove its entry. -/
def twoCalls : List Step :=
  let id : Id := ⟨"default/web", "app"⟩
  let spec : Spec := ⟨"127.0.0.1", 8080, 80⟩
  [.begin id spec, .begin id spec, .probed 0 none, .probed 1 none, .checked 0, .checked 1,
    .prepared 0 (.ok {}), .prepared 1 (.ok {}), .entered 0 default, .launched 0 none,
    .entered 1 default, .advance 0, .advance 0, .stop id, .returns 0 none]

theorem keepsOwn_twoCalls :
    ∃ s, run? {} twoCalls = some s ∧ s.tickets.length = 1 ∧ s.KeepsOwn :=
  ⟨_, rfl, rfl, keepsOwn_of_reachable (Reachable.start.run? twoCalls rfl)⟩

end System

end ResourceBrowser.Tunnel
