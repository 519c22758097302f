import Mathlib.Data.List.Nodup
import ResourceBrowser.Cluster.Request
import ResourceBrowser.Cluster.Typical

/-!
# What changes are told against

A listing tells for every row what changed since the listing before. The cluster keeps the rows of
that listing for it, and forgets them when another kind or namespace is asked for. Here somebody
watches the requests and the listings that come out, without a look at what the cluster keeps, and
knows against which row every change is told.

* `exists_serve?`: only a step of the simulation can fail.
* `Watched`: a cluster with its last listing, and whether the listing is of another scope by now.
* `Watched.known?`: the row of an id that is still known from the last listing.
* `serve?_previous`: what a request does to the rows that the cluster keeps.
* `tellsChanges_run`: after any requests, the next listing tells changes against the known rows.
-/

namespace ResourceBrowser

open Number Table

/-! ## Runs that may stop -/

/-- What holds of a state and is kept by every step holds wherever steps lead. -/
theorem of_foldlM_eq_some {α β : Type} {step : β → α → Option β} {P : β → Prop}
    (hstep : ∀ b a, P b → ∀ b', step b a = some b' → P b') {b c : β} (h : P b) {l : List α}
    (hrun : l.foldlM step b = some c) : P c := by
  induction l generalizing b with
  | nil => exact Option.some.inj hrun ▸ h
  | cons a l ih =>
    rw [List.foldlM_cons] at hrun
    obtain ⟨b', hb', hrest⟩ := Option.bind_eq_some_iff.1 hrun
    exact ih (hstep b a h b' hb') hrest

/-! ## Events of rows -/

@[simp] theorem Table.RowEvent.diff_row (header : Header) (prev : Option Row) (row : Row) :
    (RowEvent.diff header prev row).row = row := by
  cases prev <;> rfl

namespace Table.Snapshot

/-- The rows without their histories. -/
def plainRows (s : Snapshot) : List Row := s.rows.map (·.row)

/-- The last row with an id. -/
def lastRow? (s : Snapshot) (id : String) : Option Row := s.plainRows.reverse.find? (·.id == id)

variable {s : Snapshot}

theorem lastRow?_eq_none_iff {id : String} : s.lastRow? id = none ↔ id ∉ s.ids := by
  unfold lastRow? plainRows ids
  rw [List.find?_eq_none]
  simp

/-- Where every row has an id of its own, each of them is the last one with its id. -/
theorem lastRow?_of_mem (hids : s.ids.Nodup) {e : RowEvent} (he : e ∈ s.rows) :
    s.lastRow? e.row.id = some e.row := by
  have hmem : e.row ∈ s.plainRows.reverse := by
    rw [List.mem_reverse]
    exact List.mem_map_of_mem he
  cases hfound : s.lastRow? e.row.id with
  | none => exact absurd (List.mem_map_of_mem he) (lastRow?_eq_none_iff.1 hfound)
  | some row =>
    have hrow : row ∈ s.plainRows := List.mem_reverse.1 (List.mem_of_find?_eq_some hfound)
    obtain ⟨f, hf, rfl⟩ := List.mem_map.1 hrow
    have hid : f.row.id = e.row.id := by simpa using List.find?_some hfound
    rw [List.inj_on_of_nodup_map hids hf he hid]

end Table.Snapshot

namespace Cluster

/-! ## Listings -/

/-- A step of the simulation is about pods. -/
theorem advance?_frame {c d : Cluster} {now : Int} (h : c.advance? now = some d) :
    ∃ step pods, sum64? c.step 1 = some step ∧
      stepPods? c.metrics step now c.pods = some pods ∧ d = { c with step, pods } := by
  unfold advance? at h
  obtain ⟨step, hstep, h⟩ := Option.bind_eq_some_iff.1 h
  obtain ⟨pods, hpods, h⟩ := Option.bind_eq_some_iff.1 h
  exact ⟨step, pods, hstep, hpods, (Option.some.inj h).symm⟩

/-- What is listed next differs from the cluster by a step of the simulation at most. -/
theorem tick?_frame {c d : Cluster} {now : Int} (h : c.tick? now = some d) :
    ∃ step pods, d = { c with step, pods } := by
  unfold tick? at h
  split at h
  · obtain ⟨step, pods, -, -, rfl⟩ := advance?_frame h
    exact ⟨step, pods, rfl⟩
  · exact ⟨c.step, c.pods, (Option.some.inj h).symm⟩

theorem tick?_of_not_churn {c : Cluster} (h : c.churn = false) (now : Int) :
    c.tick? now = some c := by
  rw [tick?, h, if_neg Bool.false_ne_true]

theorem refresh?_eq_some_iff {c : Cluster} {now : Int} {p : Cluster × Snapshot} :
    c.refresh? now = some p ↔ ∃ d, c.tick? now = some d ∧ d.record now = p :=
  Option.map_eq_some_iff

/-- Every row of a listing is told against the row of its id that the cluster keeps. -/
theorem refresh?_rows {c d : Cluster} {now : Int} {s : Snapshot}
    (h : c.refresh? now = some (d, s)) {e : RowEvent} (he : e ∈ s.rows) :
    e = RowEvent.diff s.header (c.previousRow? e.row.id) e.row := by
  obtain ⟨ticked, hticked, hrecord⟩ := refresh?_eq_some_iff.1 h
  obtain ⟨-, rfl⟩ := Prod.mk.inj hrecord
  have hkept : ∀ id, ticked.previousRow? id = c.previousRow? id := by
    obtain ⟨step, pods, rfl⟩ := tick?_frame hticked
    exact fun _ => rfl
  obtain ⟨row, -, rfl⟩ := List.mem_map.1 he
  rw [hkept, RowEvent.diff_row]
  rfl

/-- From then on the cluster keeps the rows of the listing. -/
theorem refresh?_previous {c d : Cluster} {now : Int} {s : Snapshot}
    (h : c.refresh? now = some (d, s)) : d.previous = s.plainRows := by
  obtain ⟨ticked, -, hrecord⟩ := refresh?_eq_some_iff.1 h
  obtain ⟨rfl, rfl⟩ := Prod.mk.inj hrecord
  simp [snapshot, Snapshot.plainRows, Function.comp_def]

/-! ## Requests -/

/-- True for the requests that move the simulation forward; a listing does so if the simulation goes
on with every listing. -/
def Request.advances (churn : Bool) : Request → Bool
  | .advance _ => true
  | .refresh _ => churn
  | .setKind _ | .setNamespace _ | .setSelector _ | .peek | .get _ _ _ => false

/-- Only a step of the simulation can fail. -/
theorem exists_serve? {c : Cluster} {r : Request} (h : r.advances c.churn = false) :
    ∃ p, c.serve? r = some p := by
  cases r with
  | advance now => cases h
  | refresh now =>
    have hlisted : c.refresh? now = some (c.record now) :=
      refresh?_eq_some_iff.2 ⟨c, tick?_of_not_churn h now, rfl⟩
    exact ⟨_, by rw [serve?, hlisted, Option.map_some]⟩
  | setKind _ | setNamespace _ | setSelector _ | peek | get _ _ _ => exact ⟨_, rfl⟩

/-- True if another kind or namespace is listed than before. -/
def moves (c d : Cluster) : Bool :=
  decide (d.kind ≠ c.kind ∨ d.namespaceName ≠ c.namespaceName)

@[simp] theorem moves_self (c : Cluster) : c.moves c = false := by simp [moves]

@[simp] theorem settle_ok (c next : Cluster) : c.settle (.ok next) = (next, .done) := rfl

@[simp] theorem settle_error (c : Cluster) (e : SourceError) :
    c.settle (.error e) = (c, .refused e) := rfl

theorem settle_of_refused {c : Cluster} {result : Except SourceError Cluster} {e : SourceError}
    (h : (c.settle result).2 = .refused e) : (c.settle result).1 = c := by
  cases result with
  | ok next => cases h
  | error e => rfl

@[simp] theorem settle_listing? (c : Cluster) (result : Except SourceError Cluster) :
    (c.settle result).2.listing? = none := by
  cases result <;> rfl

@[simp] theorem ofLookup_listing? (result : Except SourceError Resource) :
    (Answer.ofLookup result).listing? = none := by
  cases result <;> rfl

variable {c : Cluster} {r : Request} {p : Cluster × Answer}

/-- A request that is refused changes nothing. -/
theorem serve?_of_refused (h : c.serve? r = some p) {e : SourceError} (he : p.2 = .refused e) :
    p.1 = c := by
  cases r with
  | setKind kind =>
    obtain rfl := Option.some.inj h
    exact settle_of_refused he
  | setSelector selector =>
    obtain rfl := Option.some.inj h
    exact settle_of_refused he
  | get _ _ _ =>
    obtain rfl := Option.some.inj h
    rfl
  | setNamespace _ | peek =>
    obtain rfl := Option.some.inj h
    cases he
  | advance _ | refresh _ =>
    obtain ⟨q, -, rfl⟩ := Option.map_eq_some_iff.1 h
    cases he

/-- Asking for a kind is refused, changes nothing, or starts the listing of another kind. -/
theorem setKind_cases (c : Cluster) (kind : String) :
    (∃ e, c.setKind kind = .error e) ∨ c.setKind kind = .ok c ∨
      ∃ k, k ≠ c.kind ∧ c.setKind kind =
        .ok { c with kind := k, selector := .empty, previous := [], latest := .empty } := by
  unfold setKind
  cases Kind.ofAlias? kind with
  | none => exact .inl ⟨_, rfl⟩
  | some k =>
    by_cases hk : k = c.kind
    · exact .inr (.inl (if_pos hk))
    · exact .inr (.inr ⟨k, hk, if_neg hk⟩)

/-- Asking for another kind makes the cluster forget the rows of the last listing. -/
theorem setKind_previous (c : Cluster) (kind : String) :
    (c.settle (c.setKind kind)).1.previous =
      if c.moves (c.settle (c.setKind kind)).1 then [] else c.previous := by
  rcases setKind_cases c kind with ⟨e, h⟩ | h | ⟨k, hk, h⟩
  · simp [h]
  · simp [h]
  · simp [moves, h, hk]

/-- Asking for another namespace makes the cluster forget the rows of the last listing. -/
theorem setNamespace_previous (c : Cluster) (ns : String) :
    (c.setNamespace ns).previous = if c.moves (c.setNamespace ns) then [] else c.previous := by
  unfold moves setNamespace
  by_cases hns : (if Scope.isAll ns then Scope.all else ns) = c.namespaceName
  · simp [hns]
  · simp [hns]

/-- A selector is about which rows are listed, and not about what is known of them. -/
theorem setSelector_previous (c : Cluster) (selector : Option String) :
    (c.settle (c.setSelector selector)).1.previous = c.previous ∧
      c.moves (c.settle (c.setSelector selector)).1 = false := by
  cases selector with
  | none => simp [moves, setSelector]
  | some text => cases h : Selector.read text <;> simp [moves, setSelector, Except.map, h]

/-- The rows that the cluster keeps: those of a new listing, none after a move, and else those it
had. -/
theorem serve?_previous (h : c.serve? r = some p) : p.1.previous =
    match p.2.listing? with
    | some s => s.plainRows
    | none => if c.moves p.1 then [] else c.previous := by
  cases r with
  | setKind kind =>
    obtain rfl := Option.some.inj h
    simp only [settle_listing?]
    exact setKind_previous c kind
  | setNamespace ns =>
    obtain rfl := Option.some.inj h
    exact setNamespace_previous c ns
  | setSelector selector =>
    obtain rfl := Option.some.inj h
    obtain ⟨hkept, hstays⟩ := setSelector_previous c selector
    simp only [settle_listing?, hstays]
    exact hkept
  | refresh now =>
    obtain ⟨⟨d, s⟩, hd, rfl⟩ := Option.map_eq_some_iff.1 h
    exact refresh?_previous hd
  | advance now =>
    obtain ⟨d, hd, rfl⟩ := Option.map_eq_some_iff.1 h
    obtain ⟨step, pods, -, -, rfl⟩ := advance?_frame hd
    simp [moves, Answer.listing?]
  | get kind path selector =>
    obtain rfl := Option.some.inj h
    simp
  | peek =>
    obtain rfl := Option.some.inj h
    simp [Answer.listing?]

end Cluster

/-! ## A cluster that is watched -/

/-- True for the requests that ask neither for a listing nor for another kind or namespace. -/
def Cluster.Request.isAside : Cluster.Request → Bool
  | .setSelector _ | .advance _ | .peek | .get _ _ _ => true
  | .setKind _ | .setNamespace _ | .refresh _ => false

/-- A cluster, and what somebody knows who has seen its requests and listings. -/
structure Watched where
  cluster : Cluster
  /-- The last listing. -/
  shown : Option Snapshot := none
  /-- Another kind or namespace has been asked for since the last listing. -/
  moved : Bool := false

namespace Watched

open Cluster

/-- A new cluster, before any listing. -/
def start (pods : List Pod) (nodes : List Node) (metrics churn : Bool) : Watched :=
  { cluster := (({ pods, nodes } : Cluster).withMetrics metrics).withChurn churn }

/-- Sees what a request has led to, and the listing if one came out. -/
def see (w : Watched) (p : Cluster × Answer) : Watched :=
  match p.2.listing? with
  | some s => ⟨p.1, some s, false⟩
  | none => ⟨p.1, w.shown, w.moved || w.cluster.moves p.1⟩

def serve? (w : Watched) (r : Request) : Option Watched := (w.cluster.serve? r).map w.see

/-- Sees requests one after the other. -/
def run? (w : Watched) (requests : List Request) : Option Watched := requests.foldlM serve? w

/-- The row with an id in the last listing, as long as that is of the scope asked for. -/
def known? (w : Watched) (id : String) : Option Row :=
  if w.moved then none else w.shown.bind (·.lastRow? id)

/-- What somebody can tell about changes who has only watched. -/
structure TellsChanges (w : Watched) : Prop where
  /-- Every row of the next listing is told against the known row of its id. -/
  told (now : Int) (d : Cluster) (s : Snapshot) (e : RowEvent) :
    w.cluster.refresh? now = some (d, s) → e ∈ s.rows →
      e = RowEvent.diff s.header (w.known? e.row.id) e.row
  /-- Nothing is known of a row that was not listed, or was listed before a move. -/
  unknown (id : String) :
    w.known? id = none ↔ w.moved = true ∨ ∀ s, w.shown = some s → id ∉ s.ids
  /-- A row that was listed is known by its id, if the other rows had other ids. -/
  known (s : Snapshot) (e : RowEvent) : w.moved = false → w.shown = some s → s.ids.Nodup →
    e ∈ s.rows → w.known? e.row.id = some e.row
  /-- What is known does not change with a refused request, another selector, or time. -/
  kept (r : Request) (p : Cluster × Answer) : w.cluster.serve? r = some p →
    (∃ e, p.2 = .refused e) ∨ r.isAside = true → (w.see p).known? = w.known?
  /-- Every request that does not move the simulation forward is answered. -/
  answered (r : Request) : r.advances w.cluster.churn = false → ∃ p, w.cluster.serve? r = some p

variable {w : Watched}

/-! ## What the cluster keeps -/

/-- The cluster keeps the rows of the last listing, unless there was a move. -/
def Remembers (w : Watched) : Prop :=
  w.cluster.previous = if w.moved then [] else (w.shown.map (·.plainRows)).getD []

theorem remembers_start (pods : List Pod) (nodes : List Node) (metrics churn : Bool) :
    (start pods nodes metrics churn).Remembers := by
  cases metrics <;> rfl

theorem remembers_see (h : w.Remembers) {r : Request} {p : Cluster × Answer}
    (hp : w.cluster.serve? r = some p) : (w.see p).Remembers := by
  have hprevious := serve?_previous hp
  unfold see Remembers at *
  cases hanswer : p.2.listing? with
  | some s =>
    rw [hanswer] at hprevious
    simpa using hprevious
  | none =>
    rw [hanswer, h] at hprevious
    simp only [hprevious]
    cases w.cluster.moves p.1 <;> cases w.moved <;> rfl

theorem remembers_run (h : w.Remembers) {requests : List Request} {v : Watched}
    (hv : w.run? requests = some v) : v.Remembers := by
  refine of_foldlM_eq_some (fun w r hw v hv => ?_) h hv
  obtain ⟨p, hp, rfl⟩ := Option.map_eq_some_iff.1 hv
  exact remembers_see hw hp

/-- What the cluster keeps of a row is what is known of it. -/
theorem previousRow?_eq (h : w.Remembers) (id : String) :
    w.cluster.previousRow? id = w.known? id := by
  unfold Cluster.previousRow? known?
  rw [h]
  cases w.moved with
  | true => rfl
  | false => cases w.shown <;> rfl

/-! ## What is known -/

theorem known?_eq_none_iff (w : Watched) (id : String) :
    w.known? id = none ↔ w.moved = true ∨ ∀ s, w.shown = some s → id ∉ s.ids := by
  unfold known?
  cases w.moved with
  | true => simp
  | false => cases w.shown <;> simp [Snapshot.lastRow?_eq_none_iff]

/-- What has led to no listing and to no move leaves what is known. -/
theorem known?_see {p : Cluster × Answer} (hanswer : p.2.listing? = none)
    (hstays : w.cluster.moves p.1 = false) : (w.see p).known? = w.known? := by
  unfold see
  simp only [hanswer, hstays, Bool.or_false]
  rfl

theorem known?_see_of_refused {r : Request} {p : Cluster × Answer}
    (hp : w.cluster.serve? r = some p) {e : SourceError} (he : p.2 = .refused e) :
    (w.see p).known? = w.known? := by
  apply known?_see
  · rw [he]
    rfl
  · rw [serve?_of_refused hp he, moves_self]

theorem known?_see_of_isAside {r : Request} {p : Cluster × Answer}
    (hp : w.cluster.serve? r = some p) (h : r.isAside = true) : (w.see p).known? = w.known? := by
  cases r with
  | setSelector selector =>
    obtain rfl := Option.some.inj hp
    exact known?_see (settle_listing? _ _) (setSelector_previous w.cluster selector).2
  | advance now =>
    obtain ⟨d, hd, rfl⟩ := Option.map_eq_some_iff.1 hp
    obtain ⟨step, pods, -, -, rfl⟩ := advance?_frame hd
    exact known?_see rfl (by simp [moves])
  | peek =>
    obtain rfl := Option.some.inj hp
    exact known?_see rfl (moves_self _)
  | get kind path selector =>
    obtain rfl := Option.some.inj hp
    refine known?_see ?_ (moves_self w.cluster)
    simp only [ofLookup_listing?]
  | setKind _ | setNamespace _ | refresh _ => cases h

/-- Whatever a cluster has been asked for, changes are told against the last listing. -/
theorem tellsChanges_run (pods : List Pod) (nodes : List Node) (metrics churn : Bool)
    (requests : List Request) {w : Watched}
    (hw : (start pods nodes metrics churn).run? requests = some w) : w.TellsChanges := by
  have h := remembers_run (remembers_start pods nodes metrics churn) hw
  refine ⟨?_, known?_eq_none_iff w, ?_, ?_, fun _ hr => exists_serve? hr⟩
  · intro now d s e hlisted he
    rw [← previousRow?_eq h]
    exact Cluster.refresh?_rows hlisted he
  · intro s e hmoved hshown hids he
    unfold known?
    rw [hmoved, hshown]
    exact Snapshot.lastRow?_of_mem hids he
  · rintro r p hp (⟨e, he⟩ | haside)
    · exact known?_see_of_refused hp he
    · exact known?_see_of_isAside hp haside

/-- A look at the nodes between two looks at the pods. -/
def lookAtNodes : List Request := [.refresh 0, .setKind "no", .refresh 0, .setKind "po"]

/-- Nothing is known of the pods any more after a look at the nodes. -/
theorem tellsChanges_lookAtNodes : ∃ w,
    (start (typicalPods 0) (typicalNodes 0) true true).run? lookAtNodes = some w ∧
      w.TellsChanges ∧ w.moved = true := by
  have hmoved : ((start (typicalPods 0) (typicalNodes 0) true true).run? lookAtNodes).map
      (fun w => w.moved) = some true := by
    decide +kernel
  cases hw : (start (typicalPods 0) (typicalNodes 0) true true).run? lookAtNodes with
  | none =>
    rw [hw] at hmoved
    cases hmoved
  | some w =>
    rw [hw, Option.map_some, Option.some.injEq] at hmoved
    exact ⟨w, rfl, tellsChanges_run (typicalPods 0) (typicalNodes 0) true true lookAtNodes hw,
      hmoved⟩

end Watched

end ResourceBrowser
