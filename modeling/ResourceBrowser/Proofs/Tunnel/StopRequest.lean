import ResourceBrowser.Proofs.Tunnel.Start

/-!
# Requests to stop

A tunnel that has been asked to stop is told by its stop signal, and its entry says so until the
tunnel is gone. Clients may ask at any time, also before the session of the tunnel has taken its
first step, and nothing that calls and sessions do afterwards takes the request back.

* `Entry.Precedes`: an entry and what has become of it, which never goes back to an earlier state.
* `Spent`: a number under which no entry can come up any more; the signals that have been raised
  are of this kind, so that a new tunnel is never born stopped.
* `heedsStops_of_taken`: states and signals agree after every step.
* `lasts_of_run?`: an entry lasts until its own start or session removes it, and then for good.
* `KeepsStops`: what becomes of requests to stop, `keepsStops_of_reachable`.
-/

namespace ResourceBrowser.Tunnel

/-- How far a state is on the way from the start of a tunnel to its end. -/
def State.rank : State → Nat
  | .starting => 0
  | .active => 1
  | .stopping => 2

theorem State.rank_le_stopping (a : State) : a.rank ≤ State.stopping.rank := by
  cases a <;> decide

theorem State.eq_stopping {a : State} (h : State.stopping.rank ≤ a.rank) : a = .stopping := by
  cases a with
  | stopping => rfl
  | starting | active => exact absurd h (by decide)

/-- What has become of an entry: it is still that of the same start, and no less far. -/
structure Entry.Precedes (e later : Entry) : Prop where
  ticket : later.ticket = e.ticket
  startedAt : later.startedAt = e.startedAt
  rank_le : e.state.rank ≤ later.state.rank

theorem Entry.Precedes.refl (e : Entry) : e.Precedes e := ⟨rfl, rfl, Nat.le_refl _⟩

theorem Entry.Precedes.trans {e d c : Entry} (h : e.Precedes d) (h' : d.Precedes c) :
    e.Precedes c :=
  ⟨h'.ticket.trans h.ticket, h'.startedAt.trans h.startedAt, Nat.le_trans h.rank_le h'.rank_le⟩

/-- The entry that a step removes. -/
def Upkeep.removed? : Upkeep → Option Ticket
  | .removes t => some t
  | _ => none

/-- True for the steps by which a client asks the tunnel of an id to stop. -/
def System.Step.asks (id : Id) : System.Step → Bool
  | .stop other => other == id
  | .stopAll => true
  | _ => false

namespace System

variable {s s' : System} {u : Upkeep} {o : Option (Nat × Event)} {e : Entry} {n : Nat}

/-- The tickets of the entries that the steps of a history remove. A session removes that of its own
start, and so does a start that cannot launch one. -/
def removals (s : System) : List Step → List Ticket
  | [] => []
  | label :: rest =>
    match s.step? label with
    | some p => (s.upkeep label).removed?.toList ++ p.system.removals rest
    | none => []

/-! ## Spent numbers -/

/-- No entry will come up under a number: it has been given out, and if a call has it, then one that
has inserted its entry. -/
structure Spent (s : System) (n : Nat) : Prop where
  below : n < s.next
  entered : ∀ c ∈ s.calls, c.number = n → c.stage.owns = true

/-- The number of an owner is spent. -/
theorem spent_of_owner (hn : Numbered s.calls s.sessions s.next) {t : Ticket} (ht : t ∈ s.owners) :
    s.Spent t.number := by
  refine ⟨?_, fun c hc hnumber => (owner_call hn hc ht hnumber.symm).1⟩
  rcases mem_owners.1 ht with ht | ht
  · obtain ⟨c, hc, -, rfl⟩ := mem_held.1 ht
    exact hn.callsBelow c hc
  · obtain ⟨x, hx, -, rfl⟩ := mem_held.1 ht
    exact hn.sessionsBelow x hx

theorem Spent.of_sublist (h : s.Spent n) (hcalls : s'.calls.Sublist s.calls)
    (hnext : s'.next = s.next) : s'.Spent n :=
  ⟨hnext ▸ h.below, fun c hc => h.entered c (hcalls.mem hc)⟩

/-- A call may move, unless it had a spent number and takes its entry back. -/
theorem Spent.of_goOn (h : s.Spent n) (hs : (s.calls.map (·.number)).Nodup) {c : Call}
    (hc : c ∈ s.calls) {stage : CallStage} (hstage : c.number = n → stage.owns = true) :
    (s.goOn c stage).system.Spent n := by
  refine ⟨h.below, fun d hd hnumber => ?_⟩
  rcases (mem_goOn hs hc stage).1 hd with rfl | ⟨hd, -⟩
  · exact hstage hnumber
  · exact h.entered d hd hnumber

/-- A spent number stays spent. -/
theorem spent_of_taken (hn : Numbered s.calls s.sessions s.next) (hstep : Taken s u o s')
    (h : s.Spent n) : s'.Spent n := by
  cases hstep with
  | begun id spec =>
    refine ⟨Nat.lt_succ_of_lt h.below, fun c hc hnumber => ?_⟩
    rcases List.mem_append.1 hc with hc | hc
    · exact h.entered c hc hnumber
    · -- the new call has a number of its own
      obtain rfl := List.mem_singleton.1 hc
      exact absurd hnumber (Nat.ne_of_gt h.below)
  | moved hc before after =>
    refine h.of_goOn hn.ofCalls hc fun hnumber => ?_
    rw [h.entered _ hc hnumber] at before
    cases before
  | @entered c stage e hc before after =>
    have hinserted : ({ s with registry := s.registry.insert e } : System).Spent n :=
      ⟨h.below, h.entered⟩
    exact hinserted.of_goOn hn.ofCalls hc fun _ => after
  | ended | rolledBack | launched => exact h.of_sublist List.filter_sublist rfl
  | activated | announced | returned | removed | reported | raised =>
    exact h.of_sublist (List.Sublist.refl _) rfl

/-- A new entry has a number that was not spent. -/
theorem not_spent_of_taken {new : Ticket} (hstep : Taken s (.inserts new) o s') :
    ¬ s.Spent new.number := by
  cases hstep with
  | entered hc before =>
    intro h
    rw [h.entered _ hc rfl] at before
    cases before

/-- Once the entry of a spent number is gone, it does not come back. -/
theorem not_mem_tickets_of_run? (hs : InOrder s) {t : Ticket} (hspent : s.Spent t.number)
    (ht : t ∉ s.tickets) {labels : List Step} (hrun : s.run? labels = some s') :
    t ∉ s'.tickets := by
  induction labels generalizing s with
  | nil =>
    obtain rfl := Option.some.inj hrun
    exact ht
  | cons label rest ih =>
    obtain ⟨p, hp, hrest⟩ := Option.bind_eq_some_iff.1 hrun
    have hstep := taken_of_step? hp
    refine ih (hs.of_taken hstep) (spent_of_taken hs.numbered hstep hspent) ?_ hrest
    rw [mem_tickets_of_taken hs.owned hstep]
    cases hu : s.upkeep label with
    | keeps => exact ht
    | inserts new =>
      rw [hu] at hstep
      rintro (hold | rfl)
      · exact ht hold
      · exact not_spent_of_taken hstep hspent
    | removes own => exact fun h => ht h.1

/-! ## States and signals -/

/-- The entry of a tunnel says that it has been asked to stop just if its stop signal has been
raised, and no tunnel to come has a signal that has been raised. -/
structure HeedsStops (s : System) : Prop where
  spent : ∀ n ∈ s.registry.raised, s.Spent n
  agree : ∀ e ∈ s.registry.entries, e.state = .stopping ↔ e.signal ∈ s.registry.raised

/-- The signals that a step raises are those of entries. -/
theorem raised_of_taken (hstep : Taken s u o s') (hn : n ∈ s'.registry.raised) :
    n ∈ s.registry.raised ∨ ∃ e ∈ s.registry.entries, e.signal = n := by
  cases hstep with
  | raised p =>
    rcases List.mem_append.1 hn with hn | hn
    · obtain ⟨e, he, rfl⟩ := List.mem_map.1 hn
      exact .inr ⟨e, List.mem_of_mem_filter he, rfl⟩
    · exact .inl hn
  | begun | moved | ended | entered | rolledBack | launched | activated | announced | returned
  | removed | reported => exact .inl hn

/-- A tunnel is marked active only if it has not been asked to stop. -/
theorem agree_activate {r : Registry} (id : Id)
    (h : ∀ e ∈ r.entries, e.state = .stopping ↔ e.signal ∈ r.raised) :
    ∀ e ∈ (r.activate id).entries, e.state = .stopping ↔ e.signal ∈ (r.activate id).raised := by
  intro e he
  obtain ⟨d, hd, rfl⟩ := List.mem_map.1 he
  split
  · rename_i hstarting
    simp only [Bool.and_eq_true, decide_eq_true_eq] at hstarting
    have hd := h d hd
    rw [hstarting.2] at hd
    exact iff_of_false nofun fun hraised => nomatch hd.2 hraised
  · exact h d hd

/-- Asking some tunnels to stop raises their signals and no other one that an entry has. -/
theorem agree_raise {r : Registry} (p : Entry → Bool) (hsignals : (r.entries.map (·.signal)).Nodup)
    (h : ∀ e ∈ r.entries, e.state = .stopping ↔ e.signal ∈ r.raised) :
    ∀ e ∈ (r.raise p).entries, e.state = .stopping ↔ e.signal ∈ (r.raise p).raised := by
  intro e he
  obtain ⟨d, hd, rfl⟩ := List.mem_map.1 he
  have hraised : d.signal ∈ (r.raise p).raised ↔ p d = true ∨ d.signal ∈ r.raised := by
    refine List.mem_append.trans (or_congr_left ⟨fun hin => ?_, fun hp => ?_⟩)
    · obtain ⟨c, hc, hsame⟩ := List.mem_map.1 hin
      obtain ⟨hc, hp⟩ := List.mem_filter.1 hc
      rwa [← List.inj_on_of_nodup_map hsignals hc hd hsame]
    · exact List.mem_map_of_mem (List.mem_filter.2 ⟨hd, hp⟩)
  split
  · rename_i hp
    exact iff_of_true rfl (hraised.2 (.inl hp))
  · rename_i hp
    rw [h d hd, hraised]
    exact (or_iff_right hp).symm

/-- Every step keeps states and signals in agreement. -/
theorem heedsStops_of_taken (hs : InOrder s) (h : s.HeedsStops) (hstep : Taken s u o s') :
    s'.HeedsStops := by
  refine ⟨fun n hn => ?_, ?_⟩
  · apply spent_of_taken hs.numbered hstep
    rcases raised_of_taken hstep hn with hn | ⟨e, he, rfl⟩
    · exact h.spent n hn
    · exact spent_of_owner hs.numbered ((hs.owned.matched _).1 (List.mem_map.2 ⟨e, he, rfl⟩))
  · cases hstep with
    | begun | moved | ended | launched | announced | returned | reported => exact h.agree
    | rolledBack | removed => exact fun e he => h.agree e (List.mem_of_mem_filter he)
    | activated => exact agree_activate _ h.agree
    | raised p => exact agree_raise p hs.nodup_signals h.agree
    | @entered c stage e hc before after free ticket state =>
      intro d hd
      rcases List.mem_append.1 hd with hd | hd
      · exact h.agree d hd
      · -- the new tunnel starts, and its signal cannot have been raised
        obtain rfl := List.mem_singleton.1 hd
        have hsignal : d.signal = c.number := congrArg Ticket.number ticket
        refine iff_of_false (by rw [state]; nofun) fun hraised => ?_
        have hspent := (h.spent _ hraised).entered c hc hsignal.symm
        rw [before] at hspent
        cases hspent

/-! ## The way of an entry -/

theorem precedes_activate {r : Registry} (id : Id) (he : e ∈ r.entries) :
    ∃ later ∈ (r.activate id).entries, e.Precedes later := by
  refine ⟨_, List.mem_map_of_mem he, ?_⟩
  split
  · rename_i hstarting
    simp only [Bool.and_eq_true, decide_eq_true_eq] at hstarting
    exact ⟨rfl, rfl, by rw [hstarting.2]; exact Nat.zero_le _⟩
  · exact .refl e

theorem precedes_raise {r : Registry} (p : Entry → Bool) (he : e ∈ r.entries) :
    ∃ later ∈ (r.raise p).entries, e.Precedes later := by
  refine ⟨_, List.mem_map_of_mem he, ?_⟩
  split
  · exact ⟨rfl, rfl, e.state.rank_le_stopping⟩
  · exact .refl e

/-- A step that does not remove an entry leaves it where it is or takes it further. -/
theorem precedes_of_taken (hs : InOrder s) (hstep : Taken s u o s')
    (he : e ∈ s.registry.entries) (hu : u ≠ .removes e.ticket) :
    ∃ later ∈ s'.registry.entries, e.Precedes later := by
  have hkept : ∀ d ∈ s.registry.entries, d.ticket ≠ e.ticket →
      e ∈ s.registry.entries.erase d := fun d hd hne =>
    (List.mem_erase_of_ne fun heq => hne (by rw [heq])).2 he
  have hchanges := changes_of_taken hs.owned hstep
  cases hstep with
  | begun | moved | ended | launched | announced | returned | reported => exact ⟨e, he, .refl e⟩
  | entered => exact ⟨e, List.mem_append_left _ he, .refl e⟩
  | activated => exact precedes_activate _ he
  | raised p => exact precedes_raise p he
  | rolledBack | removed =>
    obtain ⟨d, hd, hticket, hafter⟩ := hchanges
    refine ⟨e, ?_, .refl e⟩
    rw [hafter]
    exact hkept d hd fun heq => hu (by rw [← hticket, heq])

/-- An entry lasts until its own start or session removes it, and only goes on to later states;
once it is removed it does not come back. -/
def Lasts (s s' : System) (labels : List Step) (e : Entry) : Prop :=
  if e.ticket ∈ s.removals labels then e.ticket ∉ s'.tickets
  else ∃ later ∈ s'.registry.entries, e.Precedes later

theorem lasts_of_run? (hs : InOrder s) {labels : List Step} (hrun : s.run? labels = some s')
    (he : e ∈ s.registry.entries) : s.Lasts s' labels e := by
  induction labels generalizing s e with
  | nil =>
    obtain rfl := Option.some.inj hrun
    exact ⟨e, he, .refl e⟩
  | cons label rest ih =>
    obtain ⟨p, hp, hrest⟩ := Option.bind_eq_some_iff.1 hrun
    have hstep := taken_of_step? hp
    have hremovals : s.removals (label :: rest) =
        (s.upkeep label).removed?.toList ++ p.system.removals rest := by
      simp only [removals, hp]
    unfold Lasts
    by_cases hu : s.upkeep label = .removes e.ticket
    · rw [if_pos (by simp [hremovals, hu, Upkeep.removed?])]
      -- gone after this step, and its number is spent
      have howner : e.ticket ∈ s.owners := (hs.owned.matched _).1 (List.mem_map.2 ⟨e, he, rfl⟩)
      refine not_mem_tickets_of_run? (hs.of_taken hstep)
        (spent_of_taken hs.numbered hstep (spent_of_owner hs.numbered howner)) ?_ hrest
      rw [mem_tickets_of_taken hs.owned hstep, hu]
      exact fun h => h.2 rfl
    · obtain ⟨d, hd, hprecedes⟩ := precedes_of_taken hs hstep he hu
      have hlasts := ih (hs.of_taken hstep) hrest hd
      unfold Lasts at hlasts
      rw [hprecedes.ticket] at hlasts
      have hiff : e.ticket ∈ s.removals (label :: rest) ↔
          e.ticket ∈ p.system.removals rest := by
        rw [hremovals, List.mem_append, or_iff_right]
        cases hupkeep : s.upkeep label with
        | keeps | inserts => exact nofun
        | removes own =>
          intro h
          obtain rfl := List.mem_singleton.1 h
          exact hu hupkeep
      rw [if_congr hiff rfl rfl]
      split
      · rename_i hremoved
        rwa [if_pos hremoved] at hlasts
      · rename_i hremoved
        rw [if_neg hremoved] at hlasts
        obtain ⟨later, hlater, hd⟩ := hlasts
        exact ⟨later, hlater, hprecedes.trans hd⟩

/-! ## After a history -/

theorem heedsStops_of_reachable (h : Reachable s) : s.HeedsStops := by
  induction h with
  | start => exact ⟨nofun, nofun⟩
  | step label hs hp ih =>
    exact heedsStops_of_taken (inOrder_of_reachable hs) ih (taken_of_step? hp)

/-- A step by which a client asks for it has the entry stopping. -/
theorem stopping_of_asks {label : Step} {p : Progress} (hp : s.step? label = some p)
    (he : e ∈ s.registry.entries) (hasks : label.asks e.id = true) :
    { e with state := .stopping } ∈ p.system.registry.entries := by
  have hraise : ∀ q : Entry → Bool, q e = true →
      { e with state := .stopping } ∈ (s.registry.raise q).entries := by
    intro q hq
    refine List.mem_map.2 ⟨e, he, ?_⟩
    rw [if_pos hq]
  cases label with
  | stop id =>
    obtain rfl := eq_of_beq hasks
    obtain ⟨registry, hstop, rfl⟩ := Option.map_eq_some_iff.1 hp
    unfold Registry.stop at hstop
    split at hstop
    · obtain rfl := Option.some.inj hstop
      exact hraise _ (by simp)
    · exact absurd hstop (by simp [Except.toOption])
  | stopAll =>
    obtain rfl := Option.some.inj hp
    exact hraise _ rfl
  | begin | probed | checked | prepared | entered | launched | advance | returns => cases hasks

/-- Requests to stop are kept: states and signals agree, states go on only, and who has been asked
to stop stays asked until the end. -/
structure KeepsStops (s : System) : Prop where
  /-- An entry says that its tunnel is stopping just if its stop signal has been raised. -/
  agree : ∀ e ∈ s.registry.entries, e.state = .stopping ↔ e.signal ∈ s.registry.raised
  /-- Whatever happens from here on, an entry goes on to later states only. -/
  lasts : ∀ labels s', s.run? labels = some s' → ∀ e ∈ s.registry.entries, s.Lasts s' labels e
  /-- Whatever happens after a request to stop, the entry is there, stopping, and its signal is
  raised, until its own start or session removes it. -/
  asked : ∀ label labels s', s.run? (label :: labels) = some s' →
    ∀ e ∈ s.registry.entries, label.asks e.id = true →
      e.ticket ∈ s.removals (label :: labels) ∨
        ∃ later ∈ s'.registry.entries, later.ticket = e.ticket ∧ later.state = .stopping ∧
          later.signal ∈ s'.registry.raised

/-- However the steps of calls, sessions and clients interleave, no request to stop is lost. -/
theorem keepsStops_of_reachable (h : Reachable s) : s.KeepsStops := by
  have hs := inOrder_of_reachable h
  refine ⟨(heedsStops_of_reachable h).agree,
    fun labels s' hrun e he => lasts_of_run? hs hrun he, ?_⟩
  intro label labels s' hrun e he hasks
  obtain ⟨p, hp, hrest⟩ := Option.bind_eq_some_iff.1 hrun
  have hp' := hs.of_taken (taken_of_step? hp)
  have hlasts := lasts_of_run? hp' hrest (stopping_of_asks hp he hasks)
  unfold Lasts at hlasts
  split at hlasts
  · rename_i hremoved
    left
    simp only [removals, hp]
    exact List.mem_append_right _ hremoved
  · obtain ⟨later, hlater, hprecedes⟩ := hlasts
    have hstopping := State.eq_stopping hprecedes.rank_le
    refine .inr ⟨later, hlater, hprecedes.ticket, hstopping, ?_⟩
    exact ((heedsStops_of_reachable (h.run? _ hrun)).agree later hlater).1 hstopping

/-- A tunnel that is asked to stop before its session has taken its first step. -/
def stoppedEarly : List Step :=
  let id : Id := ⟨"default/web", "app"⟩
  let spec : Spec := ⟨"127.0.0.1", 8080, 80⟩
  [.begin id spec, .probed 0 none, .checked 0, .prepared 0 (.ok {}), .entered 0 default, .stop id,
    .launched 0 none, .advance 0, .advance 0]

theorem keepsStops_stoppedEarly :
    ∃ s, run? {} stoppedEarly = some s ∧ s.registry.entries.map (·.state) = [.stopping] ∧
      s.KeepsStops :=
  ⟨_, rfl, rfl, keepsStops_of_reachable (Reachable.start.run? stoppedEarly rfl)⟩

end System

end ResourceBrowser.Tunnel
