import ResourceBrowser.Proofs.Cluster.Requests
import ResourceBrowser.Proofs.Cluster.Stepping

/-!
# The workload that flaps

Of one workload, a step gives the first pod a number of ready containers: all of them, or all but
one in every fourth step. Nothing else of a step changes which pod that is. If it has no container
to lose, the step fails.

* `firstApi_run?`: the pod stays the first of its workload.
* `flapPods?_eq_none_iff`: when a container is lost where there are none.
* `ready_le_of_stepPods?`: no more containers are ready than there are.
-/

namespace ResourceBrowser

open Number

namespace Cluster

variable {step : UInt64} {pods next : List Pod}

/-- What lasts of the first pod of the workload. -/
def firstApi (pods : List Pod) : Option Lasting := (pods.find? Pod.isApi).map Pod.lasting

/-- True if the first pod of the workload counts no containers. -/
def unstaffed (pods : List Pod) : Bool := (pods.find? Pod.isApi).any (·.containerCount == 0)

theorem firstApi_congr {others : List Pod}
    (h : pods.map Pod.lasting = others.map Pod.lasting) : firstApi pods = firstApi others := by
  have hfind (pods : List Pod) : firstApi pods =
      (pods.map Pod.lasting).find? fun l => "api-".toList.isPrefixOf l.name.toList := by
    rw [List.find?_map]
    rfl
  rw [hfind, hfind, h]

theorem unstaffed_congr {others : List Pod} (h : firstApi pods = firstApi others) :
    unstaffed pods = unstaffed others := by
  have hcount (pods : List Pod) : unstaffed pods =
      (firstApi pods).any fun l => UInt32.ofNat l.containers.length == 0 := by
    unfold firstApi
    rw [Option.any_map]
    rfl
  rw [hcount, hcount, h]

/-- The pods of the workload are no backup jobs. -/
theorem isBackup_of_isApi {p : Pod} (h : p.isApi = true) : p.isBackup = false := by
  have hapi : "api-".toList = ['a', 'p', 'i', '-'] := by decide
  have hbackup : backupStem.toList = ['b', 'a', 'c', 'k', 'u', 'p', '-'] := by decide
  unfold Pod.isApi at h
  unfold Pod.isBackup
  rw [hapi] at h
  rw [hbackup]
  cases hname : p.name.toList with
  | nil => rfl
  | cons a rest =>
    rw [hname, List.isPrefixOf_cons_cons, Bool.and_eq_true, beq_iff_eq] at h
    rw [List.isPrefixOf_cons_cons, ← h.1]
    rfl

/-! ## Which pod is the first -/

section Lists

variable {α : Type} {p q : α → Bool}

theorem find?_dropFirst (h : ∀ a, q a = true → p a = false) (n : Nat) (l : List α) :
    (dropFirst p n l).find? q = l.find? q := by
  induction l generalizing n with
  | nil => cases n <;> rfl
  | cons a l ih =>
    cases n with
    | zero => rfl
    | succ n =>
      rw [dropFirst]
      split
      · -- what is dropped is not looked for
        rename_i ha
        have hq : ¬ q a = true := by
          intro hq
          rw [h a hq] at ha
          exact Bool.false_ne_true ha
        rw [List.find?_cons_of_neg hq, ih]
      · rw [List.find?_cons, List.find?_cons, ih]

/-- Where items that are looked for are not changed, and no other one becomes such an item, the same
one is found. -/
theorem find?_of_forall₂ {R : α → α → Prop} {l m : List α} (h : List.Forall₂ R l m)
    (hsame : ∀ a b, R a b → p b = p a ∧ (p a = true → b = a)) : m.find? p = l.find? p := by
  induction h with
  | nil => rfl
  | @cons a b _ _ hab _ ih =>
    obtain ⟨hp, hb⟩ := hsame a b hab
    by_cases ha : p a = true
    · rw [List.find?_cons_of_pos ha, List.find?_cons_of_pos (hp.trans ha), hb ha]
    · rw [List.find?_cons_of_neg ha, List.find?_cons_of_neg (hp ▸ ha), ih]

end Lists

theorem isBackup_backupPod (step : UInt64) (now : Int) : (backupPod step now).isBackup = true := by
  unfold Pod.isBackup backupPod
  rw [List.isPrefixOf_iff_prefix, String.toList_append]
  exact List.prefix_append _ _

theorem find?_progressPods? (h : progressPods? step pods = some next) :
    next.find? Pod.isApi = pods.find? Pod.isApi := by
  refine find?_of_forall₂ (forall₂_of_mapM h) fun p q hq => ?_
  split at hq
  · -- a backup job is no pod of the workload, and stays none
    rename_i hbackup
    obtain ⟨phase, ready, ip, rfl⟩ := progress?_frame hq
    refine ⟨rfl, fun hapi => ?_⟩
    rw [isBackup_of_isApi hapi] at hbackup
    cases hbackup
  · obtain rfl := Option.some.inj hq
    exact ⟨rfl, fun _ => rfl⟩

theorem find?_addBackup (step : UInt64) (now : Int) (pods : List Pod) :
    (addBackup step now pods).find? Pod.isApi = pods.find? Pod.isApi := by
  have hjob : (backupPod step now).isApi = false := by
    rw [Bool.eq_false_iff]
    intro hapi
    have hbackup := isBackup_backupPod step now
    rw [isBackup_of_isApi hapi] at hbackup
    cases hbackup
  unfold addBackup
  dsimp only
  rw [find?_dropFirst fun _ => isBackup_of_isApi, List.find?_append, List.find?_singleton, hjob,
    if_neg Bool.false_ne_true, Option.or_none]

theorem firstApi_stepPods? {metrics : Bool} {now : Int}
    (h : stepPods? metrics step now pods = some next) : firstApi next = firstApi pods := by
  obtain ⟨ticked, hticked, rfl⟩ := exists_ticked h
  have hsame := firstApi_congr (map_lasting_of_drifts hticked)
  split
  · unfold firstApi at hsame ⊢
    rw [find?_addBackup, hsame]
  · exact hsame

theorem firstApi_advance? {c d : Cluster} {now : Int} (h : c.advance? now = some d) :
    firstApi d.pods = firstApi c.pods := by
  obtain ⟨step, pods, -, hpods, rfl⟩ := advance?_frame h
  exact firstApi_stepPods? hpods

theorem firstApi_forward? {c d : Cluster} {r : Request} (h : c.forward? r = some d) :
    firstApi d.pods = firstApi c.pods := by
  cases hadvances : r.advances c.churn with
  | true =>
    obtain ⟨now, hforward⟩ := exists_advance?_of_advances hadvances
    exact firstApi_advance? (hforward.symm.trans h)
  | false =>
    obtain rfl := Option.some.inj ((forward?_of_not_advances hadvances).symm.trans h)
    rfl

theorem firstApi_run? {c d : Cluster} {times : List Int} (h : times.foldlM advance? c = some d) :
    firstApi d.pods = firstApi c.pods :=
  of_foldlM_eq_some (P := fun d => firstApi d.pods = firstApi c.pods)
    (fun _ _ hb _ hd => (firstApi_advance? hd).trans hb) rfl h

theorem firstApi_start (pods : List Pod) (nodes : List Node) (metrics churn : Bool) :
    firstApi (start pods nodes metrics churn).pods = firstApi pods := by
  cases metrics with
  | true => rfl
  | false =>
    apply firstApi_congr
    change (pods.map _).map Pod.lasting = _
    rw [List.map_map]
    rfl

/-! ## How many containers are ready -/

theorem flapped?_eq_none_iff {p : Pod} :
    p.flapped? step = none ↔ step % 4 = 2 ∧ p.containerCount = 0 := by
  have hzero : p.containerCount < 1 ↔ p.containerCount = 0 := by
    rw [UInt32.lt_iff_toNat_lt, ← UInt32.toNat_inj]
    exact Nat.lt_one_iff
  unfold Pod.flapped?
  rw [Option.map_eq_none_iff]
  by_cases hturn : step % 4 = 2
  · rw [if_pos hturn, difference32?_eq_none_iff, hzero]
    simp [hturn]
  · simp [hturn]

/-- The only operation that fails is to take a container away from none. -/
theorem flapPods?_eq_none_iff :
    flapPods? step pods = none ↔ step % 4 = 2 ∧ unstaffed pods = true := by
  unfold flapPods? unstaffed
  rw [modifyFirst?_eq_none_iff]
  simp only [flapped?_eq_none_iff, Option.any_eq_true, beq_iff_eq]
  grind

theorem ready_le_of_flapped? {p q : Pod} (h : p.flapped? step = some q) :
    q.ready.toNat ≤ q.containers.length := by
  have hcount : p.containerCount.toNat ≤ p.containers.length := by
    unfold Pod.containerCount
    rw [UInt32.toNat_ofNat']
    exact Nat.mod_le _ _
  obtain ⟨ready, hready, rfl⟩ := Option.map_eq_some_iff.1 h
  refine Nat.le_trans ?_ hcount
  split at hready
  · have hless := difference32?_eq_some_iff.1 hready
    show ready.toNat ≤ p.containerCount.toNat
    omega
  · exact Nat.le_of_eq (congrArg UInt32.toNat (Option.some.inj hready)).symm

/-- After a step, the first pod of the workload has no more containers ready than there are. -/
theorem ready_le_of_stepPods? {metrics : Bool} {now : Int} {p : Pod}
    (h : stepPods? metrics step now pods = some next) (hp : next.find? Pod.isApi = some p) :
    p.ready.toNat ≤ p.containers.length := by
  obtain ⟨wobbled, restarted, flapped, ticked, -, -, hflapped, hticked, rfl⟩ :=
    stepPods?_eq_some_iff.1 h
  have hname : ∀ a b : Pod, a.flapped? step = some b → b.isApi = a.isApi := by
    intro a b hb
    obtain ⟨ready, -, rfl⟩ := Option.map_eq_some_iff.1 hb
    rfl
  -- of the changes that come later none is about this pod
  have hfound : flapped.find? Pod.isApi = some p := by
    rw [← find?_progressPods? hticked, ← hp]
    split
    · rw [find?_addBackup]
    · rfl
  rw [find?_modifyFirst? hname hflapped] at hfound
  obtain ⟨before, -, hbefore⟩ := Option.bind_eq_some_iff.1 hfound
  exact ready_le_of_flapped? hbefore

end Cluster

end ResourceBrowser
