import Mathlib.Data.List.Nodup
import ResourceBrowser.Cluster.Typical
import ResourceBrowser.Proofs.Cluster.Listing
import ResourceBrowser.Proofs.Cluster.Arithmetic
import ResourceBrowser.Proofs.Number.Decimal

/-!
# Pods that come and go

The simulation changes readings and counters of the pods it was started with, and never what
identifies them. Behind them come the backup jobs: one every fifth step, the latest two of which are
kept. Their names hold the number of the step, so that paths stay different.

* `latestBackups`: the steps whose jobs are there after some number of steps.
* `Stepped`: the pods after some number of steps, `stepped_run?`.
* `Distinct`: pods that are told apart by their paths, `nodup_paths`.
* `KeepsPods`: what holds of the pods and their listings, `keepsPods_run`.
-/

namespace ResourceBrowser

open Table Number

namespace Cluster

/-! ## Backup jobs -/

/-- What lasts of the backup job of a step. -/
def backupLasting (step : Nat) : Lasting where
  ns := "default"
  name := backupStem ++ toString step
  labels := .ofPairs [("job-name", "backup")]
  containers := [⟨"backup", []⟩]
  phase := none

theorem isBackup_backupLasting (step : Nat) : (backupLasting step).isBackup = true := by
  unfold Lasting.isBackup backupLasting
  rw [List.isPrefixOf_iff_prefix, String.toList_append]
  exact List.prefix_append _ _

theorem lasting_backupPod (step : UInt64) (now : Int) :
    (backupPod step now).lasting = backupLasting step.toNat := by
  have hbackup : (backupPod step now).isBackup = true := isBackup_backupLasting step.toNat
  unfold Pod.lasting
  rw [hbackup]
  rfl

/-! ## Dropping items of lists -/

section Lists

variable {α β : Type} {p : α → Bool} {g : α → β}

theorem dropFirst_zero (l : List α) : dropFirst p 0 l = l := by
  cases l <;> rfl

theorem map_dropFirst {q : β → Bool} (h : ∀ a, p a = q (g a)) (n : Nat) (l : List α) :
    (dropFirst p n l).map g = dropFirst q n (l.map g) := by
  induction l generalizing n with
  | nil => cases n <;> rfl
  | cons a l ih =>
    cases n with
    | zero => rfl
    | succ n =>
      rw [List.map_cons, dropFirst, dropFirst, ← h a]
      split
      · exact ih n
      · rw [List.map_cons, ih (n + 1)]

/-- Items that are not asked for are not dropped. -/
theorem dropFirst_append {kept : List α} (h : ∀ a ∈ kept, p a = false) (n : Nat) (l : List α) :
    dropFirst p n (kept ++ l) = kept ++ dropFirst p n l := by
  induction kept with
  | nil => rfl
  | cons a kept ih =>
    cases n with
    | zero => rw [dropFirst_zero, dropFirst_zero]
    | succ n =>
      rw [List.cons_append, dropFirst, h a List.mem_cons_self,
        ih fun b hb => h b (List.mem_cons_of_mem a hb)]
      rfl

theorem dropFirst_of_forall {l : List α} (h : ∀ a ∈ l, p a = true) (n : Nat) :
    dropFirst p n l = l.drop n := by
  induction l generalizing n with
  | nil => cases n <;> rfl
  | cons a l ih =>
    cases n with
    | zero => rfl
    | succ n =>
      rw [dropFirst, h a List.mem_cons_self, if_pos rfl, List.drop_succ_cons]
      exact ih (fun b hb => h b (List.mem_cons_of_mem a hb)) n

/-- The last two items after an item has been added. -/
theorem drop_append_singleton (l : List α) (a : α) :
    (l ++ [a]).drop (l.length + 1 - 2) = l.getLast?.toList ++ [a] := by
  rcases List.eq_nil_or_concat' l with rfl | ⟨front, b, rfl⟩
  · rfl
  · have hlength : (front ++ [b]).length + 1 - 2 = front.length := by simp
    rw [hlength, List.append_assoc, List.drop_left, List.getLast?_concat]
    rfl

end Lists

/-- Of the backup jobs behind other pods, adding one keeps the latest before it. -/
theorem map_lasting_addBackup {pods : List Pod} {others : List Lasting} {kept : List Nat}
    (hothers : ∀ l ∈ others, l.isBackup = false)
    (h : pods.map Pod.lasting = others ++ kept.map backupLasting) (step : UInt64) (now : Int) :
    (addBackup step now pods).map Pod.lasting =
      others ++ (kept.getLast?.toList ++ [step.toNat]).map backupLasting := by
  have hall : (pods ++ [backupPod step now]).map Pod.lasting =
      others ++ (kept ++ [step.toNat]).map backupLasting := by
    rw [List.map_append, h, List.map_singleton, lasting_backupPod, List.map_append,
      List.map_singleton, List.append_assoc]
  have hjobs : ∀ l ∈ (kept ++ [step.toNat]).map backupLasting, l.isBackup = true := by
    intro l hl
    obtain ⟨k, -, rfl⟩ := List.mem_map.1 hl
    exact isBackup_backupLasting k
  have hcount : (pods ++ [backupPod step now]).countP Pod.isBackup = kept.length + 1 := by
    have hmap : (pods ++ [backupPod step now]).countP Pod.isBackup =
        ((pods ++ [backupPod step now]).map Pod.lasting).countP Lasting.isBackup := by
      rw [List.countP_map, funext isBackup_lasting]
      rfl
    have hnone : others.countP Lasting.isBackup = 0 := by
      rw [List.countP_eq_zero]
      intro l hl
      rw [hothers l hl]
      decide
    rw [hmap, hall, List.countP_append, hnone, List.countP_eq_length.2 hjobs]
    simp
  -- of the jobs, as many are dropped from the front as there are more than two
  unfold addBackup
  dsimp only
  rw [hcount, map_dropFirst isBackup_lasting, hall, dropFirst_append hothers,
    dropFirst_of_forall hjobs, ← List.map_drop, drop_append_singleton]

/-! ## The backup jobs that are kept -/

/-- The positive multiples of five up to `n`. -/
def backupSteps (n : Nat) : List Nat :=
  (List.range (n + 1)).filter fun k => decide (0 < k ∧ k % 5 = 0)

/-- The last two of the positive multiples of five up to `n`, or as many as there are. -/
def latestBackups (n : Nat) : List Nat := (backupSteps n).drop ((backupSteps n).length - 2)

theorem backupSteps_succ (n : Nat) : backupSteps (n + 1) =
    if (n + 1) % 5 = 0 then backupSteps n ++ [n + 1] else backupSteps n := by
  unfold backupSteps
  rw [List.range_succ, List.filter_append, List.filter_singleton]
  by_cases h : (n + 1) % 5 = 0
  · simp [h]
  · simp [h]

theorem length_backupSteps (n : Nat) : (backupSteps n).length = n / 5 := by
  induction n with
  | zero => rfl
  | succ n ih =>
    rw [backupSteps_succ]
    split
    · rw [List.length_append, ih, List.length_singleton]
      omega
    · rw [ih]
      omega

theorem length_latestBackups (n : Nat) : (latestBackups n).length = min 2 (n / 5) := by
  unfold latestBackups
  rw [List.length_drop, length_backupSteps]
  omega

theorem pairwise_latestBackups (n : Nat) : (latestBackups n).Pairwise (· < ·) :=
  (List.pairwise_lt_range.filter _).drop

theorem getLast?_latestBackups (n : Nat) :
    (latestBackups n).getLast? = (backupSteps n).getLast? := by
  unfold latestBackups
  rw [List.getLast?_drop]
  split
  · have hnil : backupSteps n = [] := by
      apply List.eq_nil_of_length_eq_zero
      omega
    rw [hnil]
    rfl
  · rfl

theorem latestBackups_succ (n : Nat) : latestBackups (n + 1) =
    if (n + 1) % 5 = 0 then (latestBackups n).getLast?.toList ++ [n + 1] else latestBackups n := by
  rw [getLast?_latestBackups]
  unfold latestBackups
  rw [backupSteps_succ]
  split
  · rw [List.length_append, List.length_singleton, drop_append_singleton]
  · rfl

theorem mod_five_eq_zero_iff (step : UInt64) : step % 5 = 0 ↔ step.toNat % 5 = 0 := by
  rw [← UInt64.toNat_inj, UInt64.toNat_mod]
  rfl

/-! ## The pods after any number of steps -/

/-- The pods after `n` steps are the ones of the start, followed by the latest backup jobs. -/
structure Stepped (initial : List Pod) (n : Nat) (c : Cluster) : Prop where
  step : c.step.toNat = n
  pods : c.pods.map Pod.lasting = initial.map Pod.lasting ++ (latestBackups n).map backupLasting

theorem stepped_advance? {initial : List Pod} {n : Nat} {c d : Cluster}
    (hinitial : ∀ p ∈ initial, p.isBackup = false) (h : c.Stepped initial n) {now : Int}
    (hd : c.advance? now = some d) : d.Stepped initial (n + 1) := by
  have hothers : ∀ l ∈ initial.map Pod.lasting, l.isBackup = false := by
    intro l hl
    obtain ⟨p, hp, rfl⟩ := List.mem_map.1 hl
    exact hinitial p hp
  obtain ⟨step, pods, hsum, hpods, rfl⟩ := advance?_frame hd
  have hstep : step.toNat = n + 1 := by
    rw [sum64?_eq_some_iff.1 hsum, h.step]
    rfl
  refine ⟨hstep, ?_⟩
  -- what lasts is as before, but for the backup job that a due step adds
  obtain ⟨ticked, hticked, rfl⟩ := exists_ticked hpods
  have hlasting := (map_lasting_of_drifts hticked).trans h.pods
  have hdue : step % 5 = 0 ↔ (n + 1) % 5 = 0 := by rw [mod_five_eq_zero_iff, hstep]
  rw [latestBackups_succ]
  by_cases hmod : (n + 1) % 5 = 0
  · rw [if_pos (hdue.2 hmod), if_pos hmod, ← hstep]
    exact map_lasting_addBackup hothers hlasting step now
  · rw [if_neg fun hzero => hmod (hdue.1 hzero), if_neg hmod]
    exact hlasting

theorem stepped_of_sameWorld {initial : List Pod} {n : Nat} {c d : Cluster} (h : c.SameWorld d)
    (hd : d.Stepped initial n) : c.Stepped initial n := by
  obtain ⟨hpods, -, -, -, hstep⟩ := h
  exact ⟨hstep ▸ hd.step, hpods ▸ hd.pods⟩

theorem stepped_start {pods : List Pod} (nodes : List Node) (metrics churn : Bool) :
    (start pods nodes metrics churn).Stepped pods 0 := by
  refine ⟨by cases metrics <;> rfl, ?_⟩
  cases metrics with
  | true => simp [start, withMetrics, withChurn, latestBackups, backupSteps]
  | false =>
    rw [show latestBackups 0 = [] from rfl, List.map_nil, List.append_nil]
    exact List.map_map

theorem stepped_serve? {initial : List Pod} {n : Nat} {c : Cluster}
    (hinitial : ∀ p ∈ initial, p.isBackup = false) (h : c.Stepped initial n) {r : Request}
    {p : Cluster × Answer} (hp : c.serve? r = some p) :
    p.1.Stepped initial (n + if r.advances c.churn then 1 else 0) := by
  obtain ⟨d, hd, hsame⟩ := exists_forward?_of_serve? hp
  refine stepped_of_sameWorld hsame ?_
  cases hadvances : r.advances c.churn with
  | true =>
    obtain ⟨now, hforward⟩ := exists_advance?_of_advances hadvances
    exact stepped_advance? hinitial h (hforward.symm.trans hd)
  | false =>
    obtain rfl := Option.some.inj ((forward?_of_not_advances hadvances).symm.trans hd)
    exact h

/-- The pods after any requests depend on the number of steps among them. -/
theorem stepped_run? {initial : List Pod} {n : Nat} {c d : Cluster}
    (hinitial : ∀ p ∈ initial, p.isBackup = false) (h : c.Stepped initial n)
    {requests : List Request} (hd : c.run? requests = some d) :
    d.Stepped initial (n + requests.countP (·.advances c.churn)) := by
  induction requests generalizing c n with
  | nil => exact Option.some.inj hd ▸ h
  | cons r rest ih =>
    obtain ⟨p, hp, hrest⟩ := run?_cons_eq_some_iff.1 hd
    have hrun := ih (stepped_serve? hinitial h hp) hrest
    rw [(serve?_frame hp).2, Nat.add_assoc] at hrun
    rw [List.countP_cons, Nat.add_comm (rest.countP _)]
    exact hrun

/-! ## Paths -/

theorem path_backupLasting (step : Nat) :
    (backupLasting step).path = "default/backup-" ++ toString step := by
  have hstem : "default/backup-" = "default" ++ "/" ++ backupStem := by decide +kernel
  rw [hstem, String.append_assoc]
  rfl

theorem path_backupLasting_injective :
    Function.Injective fun step => (backupLasting step).path := by
  intro j k h
  simp only [path_backupLasting, String.append_right_inj] at h
  exact toString_injective h

/-- Pods that are told apart by their paths, from each other and from any backup job. -/
structure Distinct (pods : List Pod) : Prop where
  paths : (pods.map Pod.path).Nodup
  names (p : Pod) : p ∈ pods → p.isBackup = false
  unreserved (p : Pod) : p ∈ pods → ¬ "default/backup-".toList <+: p.path.toList

theorem nodup_paths {initial : List Pod} (hinitial : Distinct initial) {n : Nat} {c : Cluster}
    (h : c.Stepped initial n) : (c.pods.map Pod.path).Nodup := by
  have hpaths : c.pods.map Pod.path = initial.map Pod.path ++
      (latestBackups n).map fun step => (backupLasting step).path := by
    have hlasting := congrArg (List.map Lasting.path) h.pods
    simpa only [List.map_append, List.map_map, Function.comp_def, path_lasting] using hlasting
  rw [hpaths, List.nodup_append]
  have hsteps : (latestBackups n).Nodup := (pairwise_latestBackups n).imp Nat.ne_of_lt
  refine ⟨hinitial.paths, hsteps.map path_backupLasting_injective, ?_⟩
  -- a path that is both would be one of the start that is reserved for backup jobs
  intro path hpath other hother heq
  obtain ⟨p, hp, rfl⟩ := List.mem_map.1 hpath
  obtain ⟨step, -, rfl⟩ := List.mem_map.1 hother
  apply hinitial.unreserved p hp
  rw [heq, path_backupLasting, String.toList_append]
  exact List.prefix_append _ _

/-- Pods that are listed have the paths that they have in the cluster. -/
theorem paths_resources_sublist {c : Cluster} (h : c.kind = .pods) :
    (c.resources.map Resource.path).Sublist (c.pods.map Pod.path) := by
  unfold resources
  rw [h]
  dsimp only
  rw [List.map_map]
  exact (List.filter_sublist.trans List.filter_sublist).map Pod.path

/-- The ids of a listing of pods differ. -/
theorem nodup_ids_refresh? {initial : List Pod} (hinitial : Distinct initial) {n : Nat}
    {c d : Cluster} (h : c.Stepped initial n) (hkind : c.kind = .pods) {now : Int} {s : Snapshot}
    (hd : c.refresh? now = some (d, s)) : s.ids.Nodup := by
  obtain ⟨ticked, hticked, hrecord⟩ := refresh?_eq_some_iff.1 hd
  obtain ⟨rfl, rfl⟩ := Prod.mk.inj hrecord
  have hserved : c.serve? (.refresh now) =
      some ((ticked.record now).1, .listed (ticked.record now).2) := by
    rw [serve?, hd]
    rfl
  have hpaths := nodup_paths hinitial (stepped_serve? hinitial.names h hserved)
  have hlisted : ticked.kind = .pods := by
    obtain ⟨step, pods, rfl⟩ := tick?_frame hticked
    exact hkind
  rw [ids_snapshot]
  exact hpaths.sublist (paths_resources_sublist hlisted)

/-! ## What stays -/

/-- What is known of the pods, and of a listing of pods, after `n` steps. -/
structure KeepsPods (initial : List Pod) (n : Nat) (c : Cluster) : Prop where
  /-- The pods of the start stay as they are, apart from readings and counters. Behind them are the
  backup jobs of the latest two steps that were due, or of all of these if there are less. -/
  pods : ∃ others backups : List Pod, c.pods = others ++ backups ∧
    (∀ p ∈ others, p.isBackup = false) ∧ others.map Pod.lasting = initial.map Pod.lasting ∧
    (∀ p ∈ backups, p.isBackup = true) ∧ backups.length = min 2 (n / 5) ∧
    backups.map (·.name) = (latestBackups n).map fun k => backupStem ++ toString k
  /-- The steps of the backup jobs are in order. -/
  ordered : (latestBackups n).Pairwise (· < ·)
  paths : (c.pods.map Pod.path).Nodup
  listing (now : Int) (d : Cluster) (s : Snapshot) : c.kind = .pods →
    c.refresh? now = some (d, s) → s.ids.Nodup

theorem isBackup_of_map_lasting {pods : List Pod} {known : List Lasting} {b : Bool}
    (h : pods.map Pod.lasting = known) (hknown : ∀ l ∈ known, l.isBackup = b) :
    ∀ p ∈ pods, p.isBackup = b := by
  intro p hp
  rw [isBackup_lasting]
  apply hknown
  rw [← h]
  exact List.mem_map_of_mem hp

theorem keepsPods_of_stepped {initial : List Pod} (hinitial : Distinct initial) {n : Nat}
    {c : Cluster} (h : c.Stepped initial n) : c.KeepsPods initial n := by
  obtain ⟨others, backups, hpods, hothers, hbackups⟩ := List.map_eq_append_iff.1 h.pods
  have hnames : backups.map (·.name) =
      (latestBackups n).map fun k => backupStem ++ toString k := by
    have hlasting := congrArg (List.map Lasting.name) hbackups
    rwa [List.map_map, List.map_map] at hlasting
  refine ⟨⟨others, backups, hpods, ?_, hothers, ?_, ?_, hnames⟩, pairwise_latestBackups n,
    nodup_paths hinitial h, fun now d s hkind hd => nodup_ids_refresh? hinitial h hkind hd⟩
  · refine isBackup_of_map_lasting hothers fun l hl => ?_
    obtain ⟨p, hp, rfl⟩ := List.mem_map.1 hl
    exact hinitial.names p hp
  · refine isBackup_of_map_lasting hbackups fun l hl => ?_
    obtain ⟨k, -, rfl⟩ := List.mem_map.1 hl
    exact isBackup_backupLasting k
  · have hlength := congrArg List.length hnames
    rw [List.length_map, List.length_map, length_latestBackups] at hlength
    exact hlength

/-- Whatever a cluster has been asked for, its pods are told apart, and only backup jobs come and
go. With room in the counters and a container to take away it has answered all of it. -/
theorem keepsPods_run {pods : List Pod} (h : Distinct pods) (nodes : List Node)
    (metrics churn : Bool) (requests : List Request) :
    (∀ c, (start pods nodes metrics churn).run? requests = some c →
      c.KeepsPods pods (requests.countP (·.advances churn))) ∧
    (HasRoom pods (requests.countP (·.advances churn)) → unstaffed pods = false →
      ∃ c, (start pods nodes metrics churn).run? requests = some c) := by
  refine ⟨fun c hc => ?_, fun hroom => exists_run?_of_hasRoom nodes metrics churn hroom⟩
  have hchurn : (start pods nodes metrics churn).churn = churn := by cases metrics <;> rfl
  have hrun := stepped_run? h.names (stepped_start nodes metrics churn) hc
  rw [Nat.zero_add, hchurn] at hrun
  exact keepsPods_of_stepped h hrun

/-- The requests of somebody who watches the backup jobs of one namespace for a while. -/
def watchBackups : List Request :=
  .setNamespace "default" :: .setSelector (some "job-name=backup") ::
    List.replicate 11 (.refresh 1700000000000000000)

/-- After eleven listings, the jobs of the fifth and of the tenth are there. -/
theorem keepsPods_watchBackups :
    Distinct (typicalPods 1700000000000000000) ∧
    ∃ c, (start (typicalPods 1700000000000000000) [] true true).run? watchBackups = some c ∧
      c.KeepsPods (typicalPods 1700000000000000000) (watchBackups.countP (·.advances true)) ∧
      latestBackups (watchBackups.countP (·.advances true)) = [5, 10] := by
  have hdistinct : Distinct (typicalPods 1700000000000000000) :=
    ⟨by decide +kernel, by decide +kernel, by decide +kernel⟩
  obtain ⟨hkeeps, hanswers⟩ := keepsPods_run hdistinct [] true true watchBackups
  obtain ⟨c, hc⟩ := hanswers (hasRoom_typicalPods _ (by decide)) (by decide +kernel)
  exact ⟨hdistinct, c, hc, hkeeps c hc, by decide⟩

end Cluster

end ResourceBrowser
