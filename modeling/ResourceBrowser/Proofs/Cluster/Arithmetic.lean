import ResourceBrowser.Cluster.Typical
import ResourceBrowser.Proofs.Cluster.Flapping

/-!
# The arithmetic of a step

A step of the simulation counts in machine words, and it fails where the result of an operation is
no such word. With room in the counters nothing fails, with one exception. The flapping workload
loses a ready container in every fourth step, and a pod without containers has none to lose.

* `stepPods?_eq_none_iff`, `advance?_eq_none_iff`: when a step fails.
* `HasRoom`: pods with room in their counters for a number of steps.
* `Bounded`: how far the counters can be after some of the steps, `bounded_advance?`.
* `CountsExactly`: what holds of all the steps, `countsExactly_of_hasRoom`.
* `exists_run?_of_hasRoom`: requests that are all answered.
-/

namespace ResourceBrowser

open Number Table

namespace Cluster

variable {step : UInt64} {restarts cpu : Nat} {pods next : List Pod}

/-! ## Counters with room -/

/-- Counters of a pod that are below bounds. -/
structure Pod.Within (restarts cpu : Nat) (p : Pod) : Prop where
  restarts : p.restarts.toNat < restarts
  cpu (x : UInt64) : p.cpuMilli = some x → x.toNat < cpu

theorem within_of_drifts {restarts' cpu' : Nat} {p q : Pod} (h : p.Within restarts cpu)
    (hdrift : p.Drifts restarts' cpu' q) : q.Within (restarts + restarts') (cpu + cpu') := by
  have hbefore := h.restarts
  have hafter := hdrift.restarts
  refine ⟨by omega, fun y hy => ?_⟩
  obtain ⟨x, hx, hyx⟩ := hdrift.cpu y hy
  have hlt := h.cpu x hx
  omega

theorem forall_within_of_drifts {restarts' cpu' : Nat} (h : ∀ p ∈ pods, p.Within restarts cpu)
    (hdrifts : List.Forall₂ (Pod.Drifts restarts' cpu') pods next) :
    ∀ q ∈ next, q.Within (restarts + restarts') (cpu + cpu') := by
  intro q hq
  obtain ⟨p, hp, hdrift⟩ := exists_of_mem_of_forall₂ hdrifts hq
  exact within_of_drifts (h p hp) hdrift

theorem dropFirst_sublist {α : Type} {p : α → Bool} (n : Nat) (l : List α) :
    (dropFirst p n l).Sublist l := by
  induction l generalizing n with
  | nil => cases n <;> exact List.Sublist.refl _
  | cons a l ih =>
    cases n with
    | zero => exact List.Sublist.refl _
    | succ n =>
      rw [dropFirst]
      split
      · exact (ih n).cons a
      · exact (ih (n + 1)).cons_cons a

theorem addBackup_sublist (step : UInt64) (now : Int) (pods : List Pod) :
    (addBackup step now pods).Sublist (pods ++ [backupPod step now]) :=
  dropFirst_sublist _ _

/-- A step moves the bounds by one restart and less than forty of a reading. -/
theorem within_stepPods? {metrics : Bool} {now : Int} (h : ∀ p ∈ pods, p.Within restarts cpu)
    (hnext : stepPods? metrics step now pods = some next) :
    ∀ q ∈ next, q.Within (restarts + 1) (cpu + 39) := by
  obtain ⟨ticked, hticked, rfl⟩ := exists_ticked hnext
  have hwithin := forall_within_of_drifts h hticked
  split
  · intro q hq
    rcases List.mem_append.1 ((addBackup_sublist step now ticked).subset hq) with hq | hq
    · exact hwithin q hq
    · obtain rfl := List.mem_singleton.1 hq
      exact ⟨Nat.succ_pos restarts, fun x hx => by cases hx⟩
  · exact hwithin

theorem length_stepPods?_le {metrics : Bool} {now : Int}
    (h : stepPods? metrics step now pods = some next) : next.length ≤ pods.length + 1 := by
  obtain ⟨ticked, hticked, rfl⟩ := exists_ticked h
  have hlength := hticked.length_eq
  split
  · have hle := (addBackup_sublist step now ticked).length_le
    rwa [List.length_append, List.length_singleton, ← hlength] at hle
  · omega

/-! ## When a step fails -/

theorem exists_wobble? {position : Nat} {x : UInt64} (hstep : step.toNat < 2 * UInt32.size)
    (hposition : position < UInt64.size / 16) (hx : x.toNat < UInt64.size - 40) :
    ∃ y, wobble? step position x = some y := by
  have hsize : UInt64.size = 2 ^ 64 := rfl
  have hsize32 : UInt32.size = 2 ^ 32 := rfl
  have hindex : (UInt64.ofNat position).toNat = position :=
    UInt64.toNat_ofNat_of_lt' (by omega)
  have htens : (x / 10).toNat = x.toNat / 10 := UInt64.toNat_div _ _
  -- the operations in the order in which they are made
  obtain ⟨a, ha, hvalue⟩ : ∃ a, product64? step 37 = some a ∧ a.toNat = step.toNat * 37 :=
    exists_product64? (show step.toNat * 37 < UInt64.size by omega)
  obtain ⟨b, hb, hvalue'⟩ : ∃ b, product64? (.ofNat position) 11 = some b ∧
      b.toNat = (UInt64.ofNat position).toNat * 11 :=
    exists_product64? (show (UInt64.ofNat position).toNat * 11 < UInt64.size by omega)
  obtain ⟨turn, hturn, -⟩ := exists_sum64? (show a.toNat + b.toNat < UInt64.size by omega)
  obtain ⟨tens, hproduct, hround⟩ : ∃ tens, product64? (x / 10) 10 = some tens ∧
      tens.toNat = (x / 10).toNat * 10 :=
    exists_product64? (show (x / 10).toNat * 10 < UInt64.size by omega)
  have hrest : (turn % 40).toNat < 40 := by
    rw [UInt64.toNat_mod]
    exact Nat.mod_lt _ (by decide)
  obtain ⟨y, hy, -⟩ := exists_sum64? (show tens.toNat + (turn % 40).toNat < UInt64.size by omega)
  refine ⟨y, ?_⟩
  unfold wobble?
  simp only [Option.bind_eq_bind, ha, hb, hturn, hproduct, Option.bind_some, hy]

theorem exists_wobbled? {position : Nat} {p : Pod} (hstep : step.toNat < 2 * UInt32.size)
    (hposition : position < UInt64.size / 16) (hcpu : cpu ≤ UInt64.size - 40)
    (h : p.Within restarts cpu) : ∃ q, p.wobbled? step position = some q := by
  unfold Pod.wobbled?
  split
  · exact ⟨p, rfl⟩
  · rename_i x hx
    obtain ⟨y, hy⟩ := exists_wobble? hstep hposition (Nat.lt_of_lt_of_le (h.cpu x hx) hcpu)
    exact ⟨_, by rw [hy, Option.map_some]⟩

/-- Readings do not fail for any number of pods that a memory can hold. -/
theorem exists_wobblePods? (metrics : Bool) (hstep : step.toNat < 2 * UInt32.size)
    (hlength : pods.length < UInt64.size / 16) (hcpu : cpu ≤ UInt64.size - 40)
    (h : ∀ p ∈ pods, p.Within restarts cpu) :
    ∃ next, wobblePods? metrics step pods = some next := by
  unfold wobblePods?
  split
  · refine exists_mapM ?_
    rintro ⟨p, i⟩ hp
    obtain ⟨-, hi, hget⟩ := List.mem_zipIdx hp
    have hmem : p ∈ pods := hget ▸ List.getElem_mem _
    exact exists_wobbled? hstep (by omega) hcpu (h p hmem)
  · exact ⟨pods, rfl⟩

theorem exists_restartPods? (step : UInt64) (hrestarts : restarts < UInt32.size)
    (h : ∀ p ∈ pods, p.Within restarts cpu) : ∃ next, restartPods? step pods = some next := by
  unfold restartPods?
  split
  · refine Option.ne_none_iff_exists'.1 fun hnone => ?_
    obtain ⟨p, hp, hfail⟩ := modifyFirst?_eq_none_iff.1 hnone
    have hlt := (h p (List.mem_of_find?_eq_some hp)).restarts
    obtain ⟨sum, hsum, -⟩ := exists_sum32? (a := p.restarts) (b := 1)
      (show p.restarts.toNat + 1 < UInt32.size by omega)
    unfold Pod.restarted? at hfail
    rw [hsum] at hfail
    cases hfail
  · exact ⟨pods, rfl⟩

theorem exists_progressPods? (step : UInt64) (pods : List Pod) :
    ∃ next, progressPods? step pods = some next := by
  refine exists_mapM fun p _ => ?_
  split
  · unfold Pod.progress?
    split
    · have hrest : (step % 100).toNat < 100 := by
        rw [UInt64.toNat_mod]
        exact Nat.mod_lt _ (by decide)
      obtain ⟨last, hlast, -⟩ := exists_sum64? (a := 100) (b := step % 100)
        (show 100 + (step % 100).toNat < 2 ^ 64 by omega)
      exact ⟨_, by rw [hlast, Option.map_some]⟩
    · exact ⟨_, rfl⟩
    · exact ⟨p, rfl⟩
  · exact ⟨p, rfl⟩

/-- A step with room in the counters fails exactly if it takes a container away from none. -/
theorem stepPods?_eq_none_iff (metrics : Bool) (now : Int) (hstep : step.toNat < 2 * UInt32.size)
    (hlength : pods.length < UInt64.size / 16) (hrestarts : restarts < UInt32.size)
    (hcpu : cpu ≤ UInt64.size - 40) (h : ∀ p ∈ pods, p.Within restarts cpu) :
    stepPods? metrics step now pods = none ↔ step % 4 = 2 ∧ unstaffed pods = true := by
  obtain ⟨wobbled, hwobbled⟩ := exists_wobblePods? metrics hstep hlength hcpu h
  have hdrifts := drifts_wobblePods? hwobbled
  obtain ⟨restarted, hrestarted⟩ :=
    exists_restartPods? step hrestarts (forall_within_of_drifts h hdrifts)
  -- the first pod of the workload is the one that was
  have hlasting :=
    map_lasting_of_drifts (drifts_of_forall₂ hdrifts (drifts_restartPods? hrestarted))
  rw [← unstaffed_congr (firstApi_congr hlasting), ← flapPods?_eq_none_iff]
  unfold stepPods?
  simp only [Option.bind_eq_bind, hwobbled, hrestarted, Option.bind_some]
  cases flapPods? step restarted with
  | none => exact iff_of_true rfl rfl
  | some flapped =>
    obtain ⟨ticked, hticked⟩ := exists_progressPods? step flapped
    rw [Option.bind_some, hticked]
    exact iff_of_false nofun nofun

/-! ## Any number of steps -/

/-- Pods that have room in their counters for a number of steps. No more than fit into half of an
address space, at sixteen bytes or more for each. -/
structure HasRoom (pods : List Pod) (n : Nat) : Prop where
  steps : n < UInt32.size
  length : pods.length < UInt64.size / 32
  restarts (p : Pod) : p ∈ pods → p.restarts.toNat < UInt32.size - 1 - n
  cpu (p : Pod) : p ∈ pods → ∀ x ∈ p.cpuMilli, x.toNat < UInt64.size / 2

/-- After `k` of at most `n` steps, no counter is further than `k` steps can bring it. -/
structure Bounded (n k : Nat) (c : Cluster) : Prop where
  step : c.step.toNat = k
  length : c.pods.length < UInt64.size / 32 + k
  pods (p : Pod) : p ∈ c.pods → p.Within (UInt32.size - 1 - n + k) (UInt64.size / 2 + 39 * k)

theorem bounded_start {n : Nat} (h : HasRoom pods n) (nodes : List Node)
    (metrics churn : Bool) : (start pods nodes metrics churn).Bounded n 0 := by
  cases metrics with
  | true => exact ⟨rfl, h.length, fun p hp => ⟨h.restarts p hp, h.cpu p hp⟩⟩
  | false =>
    refine ⟨rfl, ?_, ?_⟩
    · change (pods.map fun p => { p with cpuMilli := none, memoryBytes := none }).length < _
      rw [List.length_map]
      exact h.length
    · intro p hp
      obtain ⟨before, hbefore, rfl⟩ := List.mem_map.1 hp
      exact ⟨h.restarts before hbefore, fun x hx => by cases hx⟩

variable {n k : Nat} {c d : Cluster}

theorem bounded_advance? (h : c.Bounded n k) {now : Int} (hd : c.advance? now = some d) :
    d.Bounded n (k + 1) := by
  obtain ⟨step, pods, hstep, hpods, rfl⟩ := advance?_frame hd
  have hlength := h.length
  have hle := length_stepPods?_le hpods
  refine ⟨?_, ?_, within_stepPods? h.pods hpods⟩
  · rw [sum64?_eq_some_iff.1 hstep, h.step]
    rfl
  · show pods.length < _
    omega

theorem bounded_of_sameWorld (h : c.SameWorld d) (hd : d.Bounded n k) : c.Bounded n k := by
  obtain ⟨hpods, -, -, -, hstep⟩ := h
  exact ⟨hstep ▸ hd.step, hpods ▸ hd.length, hpods ▸ hd.pods⟩

/-- A step fails exactly if it takes a container away from none. -/
theorem advance?_eq_none_iff (hn : n < UInt32.size) (hk : k < n) (h : c.Bounded n k) (now : Int) :
    c.advance? now = none ↔ (k + 1) % 4 = 2 ∧ unstaffed c.pods = true := by
  have hsize : UInt32.size = 2 ^ 32 := rfl
  have hsize64 : UInt64.size = 2 ^ 64 := rfl
  have hvalue := h.step
  have hlength := h.length
  obtain ⟨step, hsum, hstep⟩ :
      ∃ step, sum64? c.step 1 = some step ∧ step.toNat = c.step.toNat + 1 :=
    exists_sum64? (show c.step.toNat + 1 < UInt64.size by omega)
  have hturn : step % 4 = 2 ↔ (k + 1) % 4 = 2 := by
    rw [← UInt64.toNat_inj, UInt64.toNat_mod, hstep, hvalue]
    rfl
  have hlt : step.toNat < 2 * UInt32.size := by omega
  have hpods := stepPods?_eq_none_iff c.metrics now hlt (by omega) (by omega) (by omega) h.pods
  rw [hturn] at hpods
  rw [← hpods]
  unfold advance?
  simp only [Option.bind_eq_bind, hsum, Option.bind_some]
  cases stepPods? c.metrics step now c.pods with
  | none => exact iff_of_true rfl rfl
  | some pods => exact iff_of_false nofun nofun

/-- Any number of steps succeeds if there is a container to take away, and so does the first. -/
theorem exists_foldlM_advance? (hn : n < UInt32.size) (h : c.Bounded n k) {times : List Int}
    (htimes : k + times.length ≤ n) (hfew : unstaffed c.pods = true → k + times.length < 2) :
    ∃ d, times.foldlM advance? c = some d := by
  induction times generalizing c k with
  | nil => exact ⟨c, rfl⟩
  | cons now times ih =>
    rw [List.length_cons] at htimes hfew
    -- the first step that loses a container is the second
    have hkept : c.advance? now ≠ none := by
      rw [Ne, advance?_eq_none_iff hn (by omega) h]
      rintro ⟨hturn, hunstaffed⟩
      have hlt := hfew hunstaffed
      omega
    obtain ⟨d, hd⟩ := Option.ne_none_iff_exists'.1 hkept
    have hsame := unstaffed_congr (firstApi_advance? hd)
    obtain ⟨e, he⟩ := ih (bounded_advance? h hd) (by omega) fun hunstaffed => by
      have hlt := hfew (hsame.symm.trans hunstaffed)
      omega
    refine ⟨e, ?_⟩
    rw [List.foldlM_cons, hd]
    exact he

/-- The second step takes away a container, and fails if there is none. -/
theorem foldlM_advance?_eq_none (hn : n < UInt32.size) (h : c.Bounded n 0)
    (hunstaffed : unstaffed c.pods = true) {times : List Int} (htimes : 2 ≤ times.length)
    (hle : times.length ≤ n) : times.foldlM advance? c = none := by
  match times with
  | [] | [_] => contradiction
  | now :: later :: times =>
    rw [List.length_cons, List.length_cons] at hle
    rw [List.foldlM_cons]
    cases hd : c.advance? now with
    | none => rfl
    | some d =>
      have hsecond : d.advance? later = none := by
        rw [advance?_eq_none_iff hn (by omega) (bounded_advance? h hd),
          unstaffed_congr (firstApi_advance? hd)]
        exact ⟨rfl, hunstaffed⟩
      rw [Option.bind_eq_bind, Option.bind_some, List.foldlM_cons, hsecond]
      rfl

/-- What is known of the arithmetic of steps that are made from a start. -/
structure CountsExactly (pods : List Pod) (first : Cluster) (times : List Int) : Prop where
  /-- No operation of any step overflows or goes below zero. The exception is the second step, if
  the workload that flaps counts no containers. -/
  exact : times.foldlM advance? first = none ↔ 2 ≤ times.length ∧ unstaffed pods = true
  /-- The pod that flaps stays the first of its workload. -/
  same (c : Cluster) : times.foldlM advance? first = some c → firstApi c.pods = firstApi pods
  /-- It never has more containers ready than there are. -/
  ready (c : Cluster) (p : Pod) : times ≠ [] → times.foldlM advance? first = some c →
    c.pods.find? Pod.isApi = some p → p.ready.toNat ≤ p.containers.length

/-- With room in the counters, the arithmetic of steps is exact, unless a container is lost where
there are none. -/
theorem countsExactly_of_hasRoom {pods : List Pod} {times : List Int}
    (h : HasRoom pods times.length) (nodes : List Node) (metrics churn : Bool) :
    CountsExactly pods (start pods nodes metrics churn) times := by
  have hstart := bounded_start h nodes metrics churn
  have hsame := firstApi_start pods nodes metrics churn
  have hstaffed : unstaffed (start pods nodes metrics churn).pods = unstaffed pods :=
    unstaffed_congr hsame
  refine ⟨⟨fun hnone => ?_, fun hlost => ?_⟩, fun c hc => (firstApi_run? hc).trans hsame, ?_⟩
  · by_contra hkept
    obtain ⟨c, hc⟩ := exists_foldlM_advance? h.steps hstart (Nat.le_of_eq (Nat.zero_add _))
      fun hunstaffed => by
        have hfew : ¬ 2 ≤ times.length := fun hlength =>
          hkept ⟨hlength, hstaffed.symm.trans hunstaffed⟩
        omega
    rw [hnone] at hc
    cases hc
  · exact foldlM_advance?_eq_none h.steps hstart (hstaffed.trans hlost.2) hlost.1 (Nat.le_refl _)
  · intro c p hne hc hp
    -- the last step alone says how many are ready
    obtain ⟨front, now, rfl⟩ := (List.eq_nil_or_concat' times).resolve_left hne
    rw [List.foldlM_append] at hc
    obtain ⟨before, -, hlast⟩ := Option.bind_eq_some_iff.1 hc
    rw [List.foldlM_cons] at hlast
    obtain ⟨d, hd, hlast⟩ := Option.bind_eq_some_iff.1 hlast
    obtain rfl := Option.some.inj hlast
    obtain ⟨step, pods, -, hpods, rfl⟩ := advance?_frame hd
    exact ready_le_of_stepPods? hpods hp

/-- The typical pods have room for a thousand steps. -/
theorem hasRoom_typicalPods (now : Int) {n : Nat} (h : n ≤ 1000) : HasRoom (typicalPods now) n := by
  have hlength : (typicalPods now).length < UInt64.size / 32 := by
    show 6 < UInt64.size / 32
    decide
  refine ⟨Nat.lt_of_le_of_lt h (by decide), hlength, ?_, ?_⟩
  · have hzero : ∀ p ∈ typicalPods now, p.restarts = 0 := by simp [typicalPods, typicalPod]
    intro p hp
    rw [hzero p hp, UInt32.toNat_zero]
    have hsize : UInt32.size = 2 ^ 32 := rfl
    omega
  · simp only [typicalPods, typicalPod, List.mem_cons, List.not_mem_nil, or_false,
      forall_eq_or_imp, forall_eq, Option.map_some, Option.map_none, Option.mem_some_iff,
      forall_eq', Option.not_mem_none, false_implies, implies_true, true_and]
    decide

/-- After six steps of the typical pods, one of two containers is ready. -/
theorem countsExactly_typicalPods :
    HasRoom (typicalPods 0) (List.replicate 6 (0 : Int)).length ∧
    CountsExactly (typicalPods 0) (start (typicalPods 0) [] true false) (List.replicate 6 0) ∧
    ((List.replicate 6 0).foldlM advance? (start (typicalPods 0) [] true false)).map
      (fun c => (c.pods.find? Pod.isApi).map fun p => (p.ready, p.containers.length)) =
        some (some (1, 2)) := by
  have hroom : HasRoom (typicalPods 0) (List.replicate 6 (0 : Int)).length :=
    hasRoom_typicalPods 0 (by decide)
  exact ⟨hroom, countsExactly_of_hasRoom hroom [] true false, by decide +kernel⟩

/-- A pod of the workload that flaps, without containers. -/
def emptyPod : Pod where
  ns := "default"
  name := "api-x"
  labels := .ofPairs []
  phase := .running
  ready := 0
  restarts := 0
  ip := none
  node := none
  containers := []
  cpuMilli := none
  memoryBytes := none
  created := none

/-- Without containers the second of two steps fails. -/
theorem not_exact_emptyPod :
    HasRoom [emptyPod] 2 ∧
    ([0].foldlM advance? (start [emptyPod] [] true false)).isSome = true ∧
    ([0, 0].foldlM advance? (start [emptyPod] [] true false)).isNone = true :=
  ⟨⟨by decide, by decide, by decide, by simp [emptyPod]⟩, by decide +kernel, by decide +kernel⟩

/-! ## Any requests -/

theorem bounded_serve? {r : Request} {p : Cluster × Answer} (h : c.Bounded n k)
    (hp : c.serve? r = some p) :
    p.1.Bounded n (k + if r.advances c.churn then 1 else 0) := by
  obtain ⟨d, hd, hsame⟩ := exists_forward?_of_serve? hp
  refine bounded_of_sameWorld hsame ?_
  cases hadvances : r.advances c.churn with
  | true =>
    obtain ⟨now, hforward⟩ := exists_advance?_of_advances hadvances
    exact bounded_advance? h (hforward.symm.trans hd)
  | false =>
    obtain rfl := Option.some.inj ((forward?_of_not_advances hadvances).symm.trans hd)
    exact h

/-- With room in the counters and a container to take away, all requests are answered. -/
theorem exists_run?_of_bounded (hn : n < UInt32.size) (h : c.Bounded n k)
    (hstaffed : unstaffed c.pods = false) {requests : List Request}
    (hsteps : k + requests.countP (·.advances c.churn) ≤ n) :
    ∃ d, c.run? requests = some d := by
  induction requests generalizing c k with
  | nil => exact ⟨c, rfl⟩
  | cons r rest ih =>
    rw [List.countP_cons] at hsteps
    obtain ⟨p, hp⟩ : ∃ p, c.serve? r = some p := by
      cases hadvances : r.advances c.churn with
      | false => exact exists_serve? hadvances
      | true =>
        rw [if_pos hadvances] at hsteps
        obtain ⟨now, hforward⟩ := exists_advance?_of_advances hadvances
        have hkept : c.forward? r ≠ none := by
          rw [hforward, Ne, advance?_eq_none_iff hn (by omega) h, hstaffed]
          exact fun hlost => Bool.false_ne_true hlost.2
        exact exists_serve?_of_forward? hkept
    have hbounded := bounded_serve? h hp
    obtain ⟨d, hd, hsame⟩ := exists_forward?_of_serve? hp
    have hapi : firstApi p.1.pods = firstApi c.pods := by
      rw [hsame.pods]
      exact firstApi_forward? hd
    obtain ⟨e, he⟩ := ih hbounded ((unstaffed_congr hapi).trans hstaffed) (by
      rw [(serve?_frame hp).2]
      omega)
    exact ⟨e, run?_cons_eq_some_iff.2 ⟨p, hp, he⟩⟩

theorem exists_run?_of_hasRoom {pods : List Pod} (nodes : List Node) (metrics churn : Bool)
    {requests : List Request} (h : HasRoom pods (requests.countP (·.advances churn)))
    (hstaffed : unstaffed pods = false) :
    ∃ c, (start pods nodes metrics churn).run? requests = some c := by
  have hchurn : (start pods nodes metrics churn).churn = churn := by cases metrics <;> rfl
  refine exists_run?_of_bounded h.steps (bounded_start h nodes metrics churn) ?_ ?_
  · rw [unstaffed_congr (firstApi_start pods nodes metrics churn), hstaffed]
  · exact Nat.le_of_eq (by rw [hchurn, Nat.zero_add])

end Cluster

end ResourceBrowser
