import ResourceBrowser.Proofs.Cluster.Changes

/-!
# Requests and the world behind them

Most requests are about what is listed, and leave the pods and nodes themselves alone. Only the
simulation changes them, when a request moves it forward.

* `forward?`: the cluster, a step further if the request moves the simulation forward.
* `SameWorld`: what a request leaves of it apart from that, `exists_forward?_of_serve?`.
* `start` and `run?`: a new cluster, and one that has answered requests.
-/

namespace ResourceBrowser

open Table

namespace Cluster

/-- The cluster, a step further if the request moves the simulation forward. -/
def forward? (c : Cluster) : Request → Option Cluster
  | .advance now => c.advance? now
  | .refresh now => c.tick? now
  | .setKind _ | .setNamespace _ | .setSelector _ | .peek | .get _ _ _ => some c

theorem forward?_of_not_advances {c : Cluster} {r : Request} (h : r.advances c.churn = false) :
    c.forward? r = some c := by
  cases r with
  | advance now => cases h
  | refresh now => exact tick?_of_not_churn h now
  | setKind _ | setNamespace _ | setSelector _ | peek | get _ _ _ => rfl

/-- A step is about pods. -/
theorem forward?_frame {c d : Cluster} {r : Request} (h : c.forward? r = some d) :
    d.kind = c.kind ∧ d.nodes = c.nodes ∧ d.churn = c.churn := by
  cases r with
  | advance now =>
    obtain ⟨step, pods, -, -, rfl⟩ := advance?_frame h
    exact ⟨rfl, rfl, rfl⟩
  | refresh now =>
    obtain ⟨step, pods, rfl⟩ := tick?_frame h
    exact ⟨rfl, rfl, rfl⟩
  | setKind _ | setNamespace _ | setSelector _ | peek | get _ _ _ =>
    obtain rfl := Option.some.inj h
    exact ⟨rfl, rfl, rfl⟩

theorem exists_advance?_of_advances {c : Cluster} {r : Request} (h : r.advances c.churn = true) :
    ∃ now, c.forward? r = c.advance? now := by
  cases r with
  | advance now => exact ⟨now, rfl⟩
  | refresh now => exact ⟨now, if_pos h⟩
  | setKind _ | setNamespace _ | setSelector _ | peek | get _ _ _ => cases h

/-- What two states of a cluster have in common when at most another listing was asked for. -/
structure SameWorld (c d : Cluster) : Prop where
  pods : c.pods = d.pods
  nodes : c.nodes = d.nodes
  metrics : c.metrics = d.metrics
  churn : c.churn = d.churn
  step : c.step = d.step

theorem SameWorld.refl (c : Cluster) : SameWorld c c := ⟨rfl, rfl, rfl, rfl, rfl⟩

theorem SameWorld.trans {c d e : Cluster} (h : SameWorld c d) (h' : SameWorld d e) :
    SameWorld c e :=
  ⟨h.pods.trans h'.pods, h.nodes.trans h'.nodes, h.metrics.trans h'.metrics,
    h.churn.trans h'.churn, h.step.trans h'.step⟩

/-! ## Single requests -/

theorem refresh?_frame {c d : Cluster} {now : Int} {s : Snapshot}
    (h : c.refresh? now = some (d, s)) : d.kind = c.kind ∧ d.selector = c.selector := by
  obtain ⟨ticked, hticked, hrecord⟩ := refresh?_eq_some_iff.1 h
  obtain ⟨step, pods, rfl⟩ := tick?_frame hticked
  obtain ⟨rfl, -⟩ := Prod.mk.inj hrecord
  exact ⟨rfl, rfl⟩

/-- Asking for a namespace changes nothing, or starts the listing of another one. -/
theorem setNamespace_cases (c : Cluster) (ns : String) : c.setNamespace ns = c ∨
    ∃ name, c.setNamespace ns = { c with namespaceName := name, previous := [] } := by
  unfold setNamespace
  generalize (if Scope.isAll ns then Scope.all else ns) = name
  dsimp only
  split
  · exact .inl rfl
  · exact .inr ⟨name, rfl⟩

theorem setNamespace_selector (c : Cluster) (ns : String) :
    (c.setNamespace ns).selector = c.selector := by
  rcases setNamespace_cases c ns with h | ⟨name, h⟩ <;> rw [h]

/-- Setting a selector reads it. -/
theorem setSelector_eq (c : Cluster) (selector : Option String) : c.setSelector selector =
    (readSelector selector).map fun selector => { c with selector } := by
  cases selector <;> rfl

/-- Apart from moving the simulation forward, requests are only about what is listed. -/
theorem exists_forward?_of_serve? {c : Cluster} {r : Request} {p : Cluster × Answer}
    (h : c.serve? r = some p) : ∃ d, c.forward? r = some d ∧ SameWorld p.1 d := by
  cases r with
  | setKind kind =>
    obtain rfl := Option.some.inj h
    refine ⟨c, rfl, ?_⟩
    rcases setKind_cases c kind with ⟨e, h⟩ | h | ⟨k, -, h⟩
    all_goals
      simp only [h, settle_ok, settle_error]
      exact ⟨rfl, rfl, rfl, rfl, rfl⟩
  | setNamespace ns =>
    obtain rfl := Option.some.inj h
    refine ⟨c, rfl, ?_⟩
    rcases setNamespace_cases c ns with h | ⟨name, h⟩
    all_goals
      rw [h]
      exact ⟨rfl, rfl, rfl, rfl, rfl⟩
  | setSelector selector =>
    obtain rfl := Option.some.inj h
    refine ⟨c, rfl, ?_⟩
    rw [setSelector_eq]
    cases readSelector selector <;> exact ⟨rfl, rfl, rfl, rfl, rfl⟩
  | refresh now =>
    obtain ⟨⟨d, s⟩, hd, rfl⟩ := Option.map_eq_some_iff.1 h
    obtain ⟨ticked, hticked, hrecord⟩ := refresh?_eq_some_iff.1 hd
    obtain ⟨rfl, -⟩ := Prod.mk.inj hrecord
    exact ⟨ticked, hticked, rfl, rfl, rfl, rfl, rfl⟩
  | advance now =>
    obtain ⟨d, hd, rfl⟩ := Option.map_eq_some_iff.1 h
    exact ⟨d, hd, .refl d⟩
  | peek | get _ _ _ =>
    obtain rfl := Option.some.inj h
    exact ⟨c, rfl, .refl c⟩

/-- A request is answered if the simulation can move on for it. -/
theorem exists_serve?_of_forward? {c : Cluster} {r : Request} (h : c.forward? r ≠ none) :
    ∃ p, c.serve? r = some p := by
  obtain ⟨d, hd⟩ := Option.ne_none_iff_exists'.1 h
  cases r with
  | advance now => exact ⟨(d, .done), Option.map_eq_some_iff.2 ⟨d, hd, rfl⟩⟩
  | refresh now =>
    exact ⟨_, Option.map_eq_some_iff.2 ⟨_, refresh?_eq_some_iff.2 ⟨d, hd, rfl⟩, rfl⟩⟩
  | setKind _ | setNamespace _ | setSelector _ | peek | get _ _ _ => exact ⟨_, rfl⟩

theorem serve?_frame {c : Cluster} {r : Request} {p : Cluster × Answer}
    (h : c.serve? r = some p) : p.1.nodes = c.nodes ∧ p.1.churn = c.churn := by
  obtain ⟨d, hd, hsame⟩ := exists_forward?_of_serve? h
  obtain ⟨-, hnodes, hchurn⟩ := forward?_frame hd
  exact ⟨hsame.nodes.trans hnodes, hsame.churn.trans hchurn⟩

/-! ## Histories -/

/-- A new cluster, before any request. -/
def start (pods : List Pod) (nodes : List Node) (metrics churn : Bool) : Cluster :=
  (({ pods, nodes } : Cluster).withMetrics metrics).withChurn churn

/-- Answers requests one after the other. -/
def run? (c : Cluster) (requests : List Request) : Option Cluster :=
  requests.foldlM (fun c r => (c.serve? r).map (·.1)) c

theorem run?_cons_eq_some_iff {c d : Cluster} {r : Request} {rest : List Request} :
    c.run? (r :: rest) = some d ↔ ∃ p, c.serve? r = some p ∧ p.1.run? rest = some d := by
  unfold run?
  rw [List.foldlM_cons]
  simp [Option.bind_eq_some_iff, Option.map_eq_some_iff]

/-- Requests that do not move the simulation forward, even if it goes on with every listing, are all
answered. -/
theorem exists_run?_of_not_advances (c : Cluster) {requests : List Request}
    (h : ∀ r ∈ requests, r.advances true = false) :
    ∃ d, c.run? requests = some d ∧ d.SameWorld c := by
  induction requests generalizing c with
  | nil => exact ⟨c, rfl, .refl c⟩
  | cons r rest ih =>
    have hstill : r.advances c.churn = false := by
      have hr := h r List.mem_cons_self
      cases r with
      | advance _ | refresh _ => cases hr
      | setKind _ | setNamespace _ | setSelector _ | peek | get _ _ _ => rfl
    obtain ⟨p, hp⟩ := exists_serve? hstill
    obtain ⟨d, hd, hsame⟩ := exists_forward?_of_serve? hp
    obtain rfl : c = d := Option.some.inj ((forward?_of_not_advances hstill).symm.trans hd)
    obtain ⟨e, he, hrest⟩ := ih p.1 fun r' hr' => h r' (List.mem_cons_of_mem r hr')
    exact ⟨e, run?_cons_eq_some_iff.2 ⟨p, hp, he⟩, hrest.trans hsame⟩

theorem nodes_run? {c d : Cluster} {requests : List Request} (h : c.run? requests = some d) :
    d.nodes = c.nodes := by
  refine of_foldlM_eq_some (P := fun d => d.nodes = c.nodes) (fun b r hb d hd => ?_) rfl h
  obtain ⟨p, hp, rfl⟩ := Option.map_eq_some_iff.1 hd
  exact (serve?_frame hp).1.trans hb

end Cluster

end ResourceBrowser
