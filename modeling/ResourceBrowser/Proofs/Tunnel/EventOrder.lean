import ResourceBrowser.Proofs.Tunnel.Ownership

/-!
# In what order events are delivered

A session delivers two events, one when its tunnel is active and one at its end. Of a single
session they always come in this order (`alternates_of_session`). The events of one id come from
many sessions, and there the order depends on the history: a session removes its entry one step
before it delivers its last event, so a new session for the id can be announced in between.
`alternates_iff_not_overtaken` says that nothing else upsets the order, and
`not_alternates_handover` shows a history that does.

* `System.log`: the events that a history delivers, each with the number of its session.
* `Alternates`: an announcement, the end of the same session, and so on.
* `System.overtaken`: a session is announced before the end of an older one has been reported.
-/

namespace ResourceBrowser.Tunnel

/-- True for the first event of a session. -/
def Event.announces : Event → Bool
  | .activated _ _ => true
  | _ => false

/-- Announcements and ends take turns, each end being that of the session announced before it. The
first argument is the session that has been announced and not ended so far. -/
def Alternates : Option Nat → List (Nat × Event) → Prop
  | _, [] => True
  | none, (n, e) :: rest => e.announces = true ∧ Alternates (some n) rest
  | some m, (n, e) :: rest => n = m ∧ e.announces = false ∧ Alternates none rest

/-- True once the first event of the session has been delivered. -/
def SessionStage.announced : SessionStage → Bool
  | .activating => false
  | .announcing => false
  | .running => true
  | .removing _ => true
  | .reporting _ => true

/-- A choice among sessions, by number and id. -/
abbrev Choice := Nat → Id → Bool

/-- The session with a number. -/
def Choice.ofNumber (n : Nat) : Choice := fun m _ => m == n

/-- The sessions of an id. -/
def Choice.ofId (id : Id) : Choice := fun _ other => other == id

namespace System

/-! ## Events of a history -/

/-- The events that the steps of a history deliver. -/
def log (s : System) : List Step → List (Nat × Event)
  | [] => []
  | label :: rest =>
    match s.step? label with
    | some p => (s.emits label).toList ++ p.system.log rest
    | none => []

/-- The events of the chosen sessions. -/
def logOf (picks : Choice) (log : List (Nat × Event)) : List (Nat × Event) :=
  log.filter fun e => picks e.1 e.2.id

/-- True when the event announces a chosen session while another one has yet to report its end. -/
def overtakes (s : System) (picks : Choice) : Option (Nat × Event) → Bool
  | some (n, .activated id _) =>
    picks n id && s.sessions.any fun x => picks x.number x.id && !x.stage.owns
  | _ => false

/-- True when a history announces a chosen session while another one has yet to report its end. -/
def overtaken (s : System) (picks : Choice) : List Step → Bool
  | [] => false
  | label :: rest =>
    s.overtakes picks (s.emits label) ||
      match s.step? label with
      | some p => p.system.overtaken picks rest
      | none => false

variable {s s' : System} {u : Upkeep} {o : Option (Nat × Event)} {picks : Choice}

theorem events_of_taken (h : Taken s u o s') : s'.events = s.events ++ o.toList.map (·.2) := by
  cases h with
  | announced | reported => exact rfl
  | begun | moved | ended | entered | rolledBack | launched | activated | returned | removed
  | raised => exact (List.append_nil _).symm

/-- The notifier receives the events of the log, in the order of the log. -/
theorem events_of_run? {labels : List Step} (h : s.run? labels = some s') :
    s'.events = s.events ++ (s.log labels).map (·.2) := by
  induction labels generalizing s with
  | nil =>
    obtain rfl := Option.some.inj h
    exact (List.append_nil _).symm
  | cons label rest ih =>
    obtain ⟨p, hp, hrest⟩ := Option.bind_eq_some_iff.1 h
    rw [ih hrest, events_of_taken (taken_of_step? hp)]
    simp [log, hp]

/-! ## Announced sessions -/

/-- The chosen session with a number has been announced and has not reported its end. -/
def Announced (s : System) (picks : Choice) (n : Nat) : Prop :=
  ∃ x ∈ s.sessions, picks x.number x.id = true ∧ x.stage.announced = true ∧ x.number = n

/-- Whose end comes next among the chosen sessions. -/
def Turn (s : System) (picks : Choice) (turn : Option Nat) : Prop :=
  ∀ n, turn = some n ↔ s.Announced picks n

/-- Of the chosen sessions at most one owns an entry. -/
def OneOwner (s : System) (picks : Choice) : Prop :=
  ∀ x ∈ s.sessions, ∀ y ∈ s.sessions, picks x.number x.id = true → picks y.number y.id = true →
    x.stage.owns = true → y.stage.owns = true → x.number = y.number

theorem announced_number (hn : Numbered s.calls s.sessions s.next) {x : Session}
    (hx : x ∈ s.sessions) (h : s.Announced picks x.number) :
    picks x.number x.id = true ∧ x.stage.announced = true := by
  obtain ⟨y, hy, hpicks, hannounced, hnumber⟩ := h
  obtain rfl := eq_of_number hn.ofSessions hx hy hnumber
  exact ⟨hpicks, hannounced⟩

/-- Nobody is announced under the number of a session that is not chosen. -/
theorem number_ne_of_unchosen (hn : Numbered s.calls s.sessions s.next) {x : Session}
    (hx : x ∈ s.sessions) (hpicks : picks x.number x.id = false) {n : Nat}
    (h : s.Announced picks n) : n ≠ x.number := by
  rintro rfl
  have hchosen := (announced_number hn hx h).1
  rw [hpicks] at hchosen
  exact absurd hchosen (by simp)

/-- The announced sessions after one of them has moved. -/
theorem announced_moveSession (hn : Numbered s.calls s.sessions s.next) {x : Session}
    (hx : x ∈ s.sessions) (stage : SessionStage) (n : Nat) :
    (s.moveSession x stage).Announced picks n ↔
      (picks x.number x.id = true ∧ stage.announced = true ∧ x.number = n) ∨
        s.Announced picks n ∧ n ≠ x.number := by
  constructor
  · rintro ⟨y, hy, hpicks, hannounced, rfl⟩
    rcases (mem_moveSession hn.ofSessions hx stage).1 hy with rfl | ⟨hy, hnumber⟩
    · exact .inl ⟨hpicks, hannounced, rfl⟩
    · exact .inr ⟨⟨y, hy, hpicks, hannounced, rfl⟩, hnumber⟩
  · rintro (⟨hpicks, hannounced, rfl⟩ | ⟨⟨y, hy, hpicks, hannounced, rfl⟩, hnumber⟩)
    · exact ⟨_, (mem_moveSession hn.ofSessions hx stage).2 (.inl rfl), hpicks, hannounced, rfl⟩
    · exact ⟨y, (mem_moveSession hn.ofSessions hx stage).2 (.inr ⟨hy, hnumber⟩), hpicks,
        hannounced, rfl⟩

/-- A step of a session that delivers nothing. -/
theorem announced_moveSession_same (hn : Numbered s.calls s.sessions s.next) {x : Session}
    (hx : x ∈ s.sessions) {stage : SessionStage} (h : stage.announced = x.stage.announced)
    (n : Nat) : (s.moveSession x stage).Announced picks n ↔ s.Announced picks n := by
  rw [announced_moveSession hn hx stage]
  constructor
  · rintro (⟨hpicks, hannounced, rfl⟩ | ⟨hn, -⟩)
    · exact ⟨x, hx, hpicks, h ▸ hannounced, rfl⟩
    · exact hn
  · intro hold
    by_cases hnumber : n = x.number
    · subst hnumber
      obtain ⟨hpicks, hannounced⟩ := announced_number hn hx hold
      exact .inl ⟨hpicks, h ▸ hannounced, rfl⟩
    · exact .inr ⟨hold, hnumber⟩

/-- The announced sessions after one of them has ended. -/
theorem announced_ended (s : System) (events : List Event) (m n : Nat) :
    { s with events, sessions := s.sessions.filter (·.number ≠ m) }.Announced picks n ↔
      s.Announced picks n ∧ n ≠ m := by
  constructor
  · rintro ⟨y, hy, hpicks, hannounced, rfl⟩
    obtain ⟨hy, hnumber⟩ := List.mem_filter.1 hy
    exact ⟨⟨y, hy, hpicks, hannounced, rfl⟩, of_decide_eq_true hnumber⟩
  · rintro ⟨⟨y, hy, hpicks, hannounced, rfl⟩, hnumber⟩
    exact ⟨y, List.mem_filter.2 ⟨hy, decide_eq_true hnumber⟩, hpicks, hannounced, rfl⟩

/-- Steps that deliver nothing announce nobody. -/
theorem announced_of_silent (hn : Numbered s.calls s.sessions s.next) (h : Taken s u none s')
    (n : Nat) : s'.Announced picks n ↔ s.Announced picks n := by
  cases h with
  | begun | moved | ended | entered | rolledBack | raised => exact Iff.rfl
  | @launched c x result hc before ticket stage =>
    constructor
    · rintro ⟨y, hy, hpicks, hannounced, hnumber⟩
      rcases List.mem_append.1 hy with hy | hy
      · exact ⟨y, hy, hpicks, hannounced, hnumber⟩
      · obtain rfl := List.mem_singleton.1 hy
        rw [stage] at hannounced
        exact absurd hannounced (by simp [SessionStage.announced])
    · rintro ⟨y, hy, hrest⟩
      exact ⟨y, List.mem_append.2 (.inl hy), hrest⟩
  | activated hx stage => exact announced_moveSession_same hn hx (by rw [stage]; rfl) n
  | returned hx stage => exact announced_moveSession_same hn hx (by rw [stage]; rfl) n
  | removed hx stage => exact announced_moveSession_same hn hx (by rw [stage]; rfl) n

/-! ## One step of the log -/

@[simp] theorem endEvent_id (id : Id) (failure : Option Fault) : (endEvent id failure).id = id := by
  cases failure <;> rfl

@[simp] theorem endEvent_announces (id : Id) (failure : Option Fault) :
    (endEvent id failure).announces = false := by
  cases failure <;> rfl

@[simp] theorem overtakes_endEvent (n : Nat) (id : Id) (failure : Option Fault) :
    s.overtakes picks (some (n, endEvent id failure)) = false := by
  cases failure <;> rfl

/-- What a step comes to for the order: it overtakes, or the log goes on in the right order with
`next` to end. -/
def Follows (s s' : System) (picks : Choice) (o : Option (Nat × Event)) (turn : Option Nat) :
    Prop :=
  ∃ next, (s.overtakes picks o = false → s'.Turn picks next) ∧
    ∀ rest, Alternates turn (logOf picks o.toList ++ rest) ↔
      s.overtakes picks o = false ∧ Alternates next rest

variable {turn : Option Nat}

/-- A step that delivers nothing of the chosen sessions. -/
theorem follows_of_unchosen (ht : s.Turn picks turn) (hlog : logOf picks o.toList = [])
    (hpass : s.overtakes picks o = false)
    (hsame : ∀ n, s'.Announced picks n ↔ s.Announced picks n) : s.Follows s' picks o turn := by
  refine ⟨turn, fun _ n => (ht n).trans (hsame n).symm, fun rest => ?_⟩
  rw [hlog, List.nil_append]
  exact (and_iff_right hpass).symm

/-- Announcing a chosen session is in order just when no other one has been announced. -/
theorem follows_of_announced (hn : Numbered s.calls s.sessions s.next)
    (hone : s.OneOwner picks) (ht : s.Turn picks turn) {x : Session} (hx : x ∈ s.sessions)
    (stage : x.stage = .announcing) (hpicks : picks x.number x.id = true)
    (hmoved : ∀ n, s'.Announced picks n ↔ x.number = n ∨ s.Announced picks n ∧ n ≠ x.number) :
    s.Follows s' picks (some (x.number, .activated x.id x.spec)) turn := by
  have hlog : logOf picks (some (x.number, Event.activated x.id x.spec)).toList =
      [(x.number, .activated x.id x.spec)] := by
    simp [logOf, Event.id, hpicks]
  have howns : x.stage.owns = true := by rw [stage]; rfl
  cases turn with
  | none =>
    -- a session that is late with its end would have been announced
    have hnobody : ∀ n, ¬ s.Announced picks n := fun n h => nomatch (ht n).2 h
    have hpass : s.overtakes picks (some (x.number, .activated x.id x.spec)) = false := by
      simp only [overtakes, hpicks, Bool.true_and, List.any_eq_false, Bool.and_eq_true]
      rintro y hy ⟨hpicksy, hreports⟩
      refine hnobody y.number ⟨y, hy, hpicksy, ?_, rfl⟩
      cases hstage : y.stage <;> simp [hstage, SessionStage.owns] at hreports
      rfl
    refine ⟨some x.number, fun _ n => ?_, fun rest => ?_⟩
    · rw [hmoved, Option.some_inj]
      exact ⟨.inl, fun h => h.resolve_right fun h => hnobody n h.1⟩
    · rw [hlog]
      exact ⟨fun h => ⟨hpass, h.2⟩, fun h => ⟨rfl, h.2⟩⟩
  | some m =>
    -- the session announced before no longer owns its entry, as this one does
    obtain ⟨y, hy, hpicksy, hannounced, rfl⟩ := (ht m).1 rfl
    have hreports : y.stage.owns = false := by
      rw [Bool.eq_false_iff]
      intro hownsy
      have hnumber := hone x hx y hy hpicks hpicksy howns hownsy
      obtain rfl := eq_of_number hn.ofSessions hx hy hnumber.symm
      rw [stage] at hannounced
      exact absurd hannounced (by simp [SessionStage.announced])
    have hover : s.overtakes picks (some (x.number, .activated x.id x.spec)) = true := by
      simp only [overtakes, hpicks, Bool.true_and, List.any_eq_true, Bool.and_eq_true]
      exact ⟨y, hy, hpicksy, by simp [hreports]⟩
    refine ⟨none, fun h => ?_, fun rest => ?_⟩
    · rw [hover] at h
      exact absurd h (by simp)
    · rw [hlog, hover]
      simp [Alternates, Event.announces]

/-- The end of a chosen session is always in order. -/
theorem follows_of_reported (ht : s.Turn picks turn) {x : Session} {failure : Option Fault}
    (hx : x ∈ s.sessions) (stage : x.stage = .reporting failure)
    (hpicks : picks x.number x.id = true)
    (hended : ∀ n, s'.Announced picks n ↔ s.Announced picks n ∧ n ≠ x.number) :
    s.Follows s' picks (some (x.number, endEvent x.id failure)) turn := by
  have hlog : logOf picks (some (x.number, endEvent x.id failure)).toList =
      [(x.number, endEvent x.id failure)] := by
    simp [logOf, hpicks]
  obtain rfl := (ht x.number).2 ⟨x, hx, hpicks, by rw [stage]; rfl, rfl⟩
  refine ⟨none, fun _ n => ?_, fun rest => ?_⟩
  · rw [hended]
    constructor
    · intro h
      cases h
    · rintro ⟨h, hne⟩
      exact absurd (Option.some.inj ((ht n).2 h)).symm hne
  · rw [hlog, overtakes_endEvent]
    simp [Alternates]

theorem follows_of_taken (hn : Numbered s.calls s.sessions s.next) (hone : s.OneOwner picks)
    (ht : s.Turn picks turn) (h : Taken s u o s') : s.Follows s' picks o turn := by
  cases o with
  | none => exact follows_of_unchosen ht rfl rfl (announced_of_silent hn h)
  | some event =>
    cases h with
    | @announced x hx stage =>
      cases hpicks : picks x.number x.id with
      | true =>
        refine follows_of_announced hn hone ht hx stage hpicks fun n => ?_
        refine (announced_moveSession hn hx .running n).trans (or_congr_left ?_)
        exact ⟨fun h => h.2.2, fun h => ⟨hpicks, rfl, h⟩⟩
      | false =>
        refine follows_of_unchosen ht (by simp [logOf, Event.id, hpicks])
          (by simp [overtakes, hpicks]) fun n => ?_
        refine (announced_moveSession hn hx .running n).trans ⟨?_, ?_⟩
        · rintro (⟨hchosen, -⟩ | ⟨h, -⟩)
          · exact absurd hchosen (by simp [hpicks])
          · exact h
        · exact fun h => .inr ⟨h, number_ne_of_unchosen hn hx hpicks h⟩
    | @reported x failure hx stage =>
      cases hpicks : picks x.number x.id with
      | true => exact follows_of_reported ht hx stage hpicks (announced_ended s _ x.number)
      | false =>
        refine follows_of_unchosen ht (by simp [logOf, hpicks]) (overtakes_endEvent _ _ _)
          fun n => (announced_ended s _ x.number n).trans ⟨And.left, fun h => ⟨h, ?_⟩⟩
        exact number_ne_of_unchosen hn hx hpicks h

/-! ## The log of a history -/

/-- From any reachable system on, the log is in order just when nobody overtakes. -/
theorem alternates_iff_of_turn (hone : ∀ s, Reachable s → s.OneOwner picks) (hs : Reachable s)
    (ht : s.Turn picks turn) {labels : List Step} (hrun : s.run? labels = some s') :
    Alternates turn (logOf picks (s.log labels)) ↔ s.overtaken picks labels = false := by
  induction labels generalizing s turn with
  | nil => cases turn <;> simp [log, logOf, Alternates, overtaken]
  | cons label rest ih =>
    obtain ⟨p, hp, hrest⟩ := Option.bind_eq_some_iff.1 hrun
    obtain ⟨next, hnext, hlog⟩ :=
      follows_of_taken (numbered_of_reachable hs) (hone s hs) ht (taken_of_step? hp)
    have hsplit : logOf picks (s.log (label :: rest)) =
        logOf picks (s.emits label).toList ++ logOf picks (p.system.log rest) := by
      simp [log, hp, logOf]
    -- what is left after a step that does not overtake is the statement for the rest
    rw [hsplit, hlog]
    simp only [overtaken, hp, Bool.or_eq_false_iff]
    refine and_congr_right fun hpass => ?_
    exact ih (hs.step label hp) (hnext hpass) hrest

/-- Sessions with one number are one session. -/
theorem oneOwner_ofNumber (s : System) (n : Nat) : s.OneOwner (.ofNumber n) := by
  intro x _ y _ hpicksx hpicksy _ _
  rw [eq_of_beq hpicksx, eq_of_beq hpicksy]

/-- Of the sessions of an id at most one owns an entry. -/
theorem oneOwner_ofId (hs : Reachable s) (id : Id) : s.OneOwner (.ofId id) := by
  intro x hx y hy hpicksx hpicksy hownsx hownsy
  have hids : x.ticket.id = y.ticket.id := (eq_of_beq hpicksx).trans (eq_of_beq hpicksy).symm
  have htickets : x.ticket = y.ticket :=
    List.inj_on_of_nodup_map (nodup_id_owners hs) (ticket_mem_owners_session hx hownsx)
      (ticket_mem_owners_session hy hownsy) hids
  exact congrArg Ticket.number htickets

/-- A session never overtakes itself. -/
theorem overtakes_ofNumber (hn : Numbered s.calls s.sessions s.next) (h : Taken s u o s')
    (n : Nat) : s.overtakes (.ofNumber n) o = false := by
  cases h with
  | @announced x hx stage =>
    rw [Bool.eq_false_iff]
    intro hover
    simp only [overtakes, Bool.and_eq_true, List.any_eq_true] at hover
    obtain ⟨hpicksx, y, hy, hpicksy, hreports⟩ := hover
    have hnumber : y.number = x.number := (eq_of_beq hpicksy).trans (eq_of_beq hpicksx).symm
    obtain rfl := eq_of_number hn.ofSessions hx hy hnumber
    rw [stage] at hreports
    exact absurd hreports (by simp [SessionStage.owns])
  | reported => exact overtakes_endEvent _ _ _
  | begun | moved | ended | entered | rolledBack | launched | activated | returned | removed
  | raised => rfl

theorem overtaken_ofNumber (hs : Reachable s) {labels : List Step}
    (hrun : s.run? labels = some s') (n : Nat) : s.overtaken (.ofNumber n) labels = false := by
  induction labels generalizing s with
  | nil => rfl
  | cons label rest ih =>
    obtain ⟨p, hp, hrest⟩ := Option.bind_eq_some_iff.1 hrun
    have hpass := overtakes_ofNumber (numbered_of_reachable hs) (taken_of_step? hp) n
    simp only [overtaken, hp, hpass, Bool.false_or]
    exact ih (hs.step label hp) hrest

/-- Nobody has been announced at the start. -/
theorem turn_start (picks : Choice) : ({} : System).Turn picks none :=
  fun _ => ⟨nofun, fun ⟨_, hx, _⟩ => nomatch hx⟩

/-- A session is announced before its end is reported, and each of it once. -/
theorem alternates_of_session (labels : List Step) (hrun : run? {} labels = some s) (n : Nat) :
    Alternates none (logOf (.ofNumber n) (log {} labels)) := by
  refine (alternates_iff_of_turn ?_ .start (turn_start _) hrun).2 ?_
  · exact fun s _ => oneOwner_ofNumber s n
  · exact overtaken_ofNumber .start hrun n

/-- The notifier receives the events of an id in order just when none of its sessions has been
announced while an older one had yet to report its end. -/
theorem alternates_iff_not_overtaken (labels : List Step) (hrun : run? {} labels = some s)
    (id : Id) :
    s.events = (log {} labels).map (·.2) ∧
      (Alternates none (logOf (.ofId id) (log {} labels)) ↔
        overtaken {} (.ofId id) labels = false) := by
  refine ⟨?_, ?_⟩
  · rw [events_of_run? hrun]
    exact List.nil_append _
  · exact alternates_iff_of_turn (fun s hs => oneOwner_ofId hs id) .start (turn_start _) hrun

/-! ## Two sessions of one tunnel -/

/-- Two starts of one tunnel. The first session has removed its entry when the second start checks
the registry; at the end of the history it has its last event to deliver, and the second session
its first. -/
def handover : List Step :=
  let id : Id := ⟨"default/web", "app"⟩
  let spec : Spec := ⟨"127.0.0.1", 8080, 80⟩
  [.begin id spec, .probed 0 none, .checked 0, .prepared 0 (.ok {}), .entered 0 default,
    .launched 0 none, .advance 0, .advance 0, .stop id, .returns 0 none, .advance 0,
    .begin id spec, .probed 1 none, .checked 1, .prepared 1 (.ok {}), .entered 1 default,
    .launched 1 none, .advance 1]

/-- When the first session goes first, the events come in order. -/
theorem alternates_handover :
    ∃ s, run? {} (handover ++ [.advance 0, .advance 1]) = some s ∧
      s.events = (log {} (handover ++ [.advance 0, .advance 1])).map (·.2) ∧
      Alternates none
        (logOf (.ofId ⟨"default/web", "app"⟩) (log {} (handover ++ [.advance 0, .advance 1]))) := by
  refine ⟨_, rfl, ?_⟩
  have horder := alternates_iff_not_overtaken (handover ++ [.advance 0, .advance 1]) rfl
    ⟨"default/web", "app"⟩
  exact ⟨horder.1, horder.2.2 rfl⟩

/-- When the second session goes first, its announcement comes before the end of the first, so the
order does not survive every history. -/
theorem not_alternates_handover :
    (∃ s, run? {} (handover ++ [.advance 1, .advance 0]) = some s ∧
      s.events = [.activated ⟨"default/web", "app"⟩ ⟨"127.0.0.1", 8080, 80⟩,
        .activated ⟨"default/web", "app"⟩ ⟨"127.0.0.1", 8080, 80⟩,
        .stopped ⟨"default/web", "app"⟩]) ∧
    ¬ ∀ (labels : List Step) (s : System), run? {} labels = some s →
      ∀ id, Alternates none (logOf (.ofId id) (log {} labels)) := by
  refine ⟨⟨_, rfl, rfl⟩, fun h => ?_⟩
  have horder := h (handover ++ [.advance 1, .advance 0]) _ rfl ⟨"default/web", "app"⟩
  exact absurd horder.2.1 (by decide)

end System

end ResourceBrowser.Tunnel
