import Mathlib.Data.List.Forall2
import ResourceBrowser.Cluster.Simulation
import ResourceBrowser.Proofs.Number.Word

/-!
# What a step does to the pods

A step goes through the pods several times, and each time it changes some of them a little or fails.
What it never changes is what identifies a pod, and counters and readings do not get far. A backup
job may come at the end.

* `forall₂_of_mapM`, `forall₂_of_modifyFirst?`: lists that are changed item by item.
* `Lasting`: what the simulation leaves of a pod.
* `Pod.Drifts`: how far a pod is from what it was.
* `exists_ticked`: what a step does to the pods.
-/

namespace ResourceBrowser

open Number

/-! ## Lists changed item by item -/

section Lists

variable {α β γ : Type} {f : α → Option β} {l : List α}

theorem forall₂_of_mapM {m : List β} (h : l.mapM f = some m) :
    List.Forall₂ (fun a b => f a = some b) l m := by
  induction l generalizing m with
  | nil => exact Option.some.inj h ▸ .nil
  | cons a l ih =>
    rw [List.mapM_cons] at h
    obtain ⟨b, hb, h⟩ := Option.bind_eq_some_iff.1 h
    obtain ⟨rest, hrest, h⟩ := Option.bind_eq_some_iff.1 h
    exact Option.some.inj h ▸ .cons hb (ih hrest)

/-- A list is changed if each of its items can be. -/
theorem exists_mapM (h : ∀ a ∈ l, ∃ b, f a = some b) : ∃ m, l.mapM f = some m := by
  induction l with
  | nil => exact ⟨[], rfl⟩
  | cons a l ih =>
    obtain ⟨b, hb⟩ := h a List.mem_cons_self
    obtain ⟨m, hm⟩ := ih fun a' ha' => h a' (List.mem_cons_of_mem a ha')
    exact ⟨b :: m, by rw [List.mapM_cons, hb, hm]; rfl⟩

theorem map_eq_of_forall₂ {g : α → γ} {k : β → γ} {m : List β}
    (h : List.Forall₂ (fun a b => k b = g a) l m) : m.map k = l.map g := by
  induction h with
  | nil => rfl
  | cons hab _ ih => rw [List.map_cons, List.map_cons, hab, ih]

theorem exists_of_mem_of_forall₂ {R : α → β → Prop} {m : List β} (h : List.Forall₂ R l m) {b : β}
    (hb : b ∈ m) : ∃ a ∈ l, R a b := by
  induction h with
  | nil => cases hb
  | cons hab _ ih =>
    rcases List.mem_cons.1 hb with rfl | hb
    · exact ⟨_, List.mem_cons_self, hab⟩
    · obtain ⟨a, ha, hr⟩ := ih hb
      exact ⟨a, List.mem_cons_of_mem _ ha, hr⟩

theorem forall₂_trans {R : α → β → Prop} {S : β → γ → Prop} {m : List β} {n : List γ}
    (h : List.Forall₂ R l m) (h' : List.Forall₂ S m n) :
    List.Forall₂ (fun a c => ∃ b, R a b ∧ S b c) l n := by
  induction h generalizing n with
  | nil =>
    cases h'
    exact .nil
  | cons hab _ ih =>
    cases h' with
    | cons hbc hrest => exact .cons ⟨_, hab, hbc⟩ (ih hrest)

end Lists

namespace Cluster

section Lists

variable {α : Type} {p : α → Bool} {f : α → Option α} {l m : List α}

/-- One item is changed at most. -/
theorem forall₂_of_modifyFirst? (h : modifyFirst? p f l = some m) :
    List.Forall₂ (fun a b => b = a ∨ f a = some b) l m := by
  induction l generalizing m with
  | nil => exact Option.some.inj h ▸ .nil
  | cons a l ih =>
    unfold modifyFirst? at h
    split at h
    · obtain ⟨b, hb, rfl⟩ := Option.map_eq_some_iff.1 h
      exact .cons (.inr hb) (List.forall₂_same.2 fun _ _ => .inl rfl)
    · obtain ⟨rest, hrest, rfl⟩ := Option.map_eq_some_iff.1 h
      exact .cons (.inl rfl) (ih hrest)

/-- Whether the change can be made is up to the first item that is meant. -/
theorem modifyFirst?_eq_none_iff :
    modifyFirst? p f l = none ↔ ∃ a, l.find? p = some a ∧ f a = none := by
  induction l with
  | nil => exact iff_of_false nofun (by simp)
  | cons a l ih =>
    unfold modifyFirst?
    by_cases ha : p a = true
    · rw [if_pos ha, List.find?_cons_of_pos ha, Option.map_eq_none_iff]
      simp
    · rw [if_neg ha, List.find?_cons_of_neg ha, Option.map_eq_none_iff, ih]

/-- The first item that is meant is changed. -/
theorem find?_modifyFirst? (hf : ∀ a b, f a = some b → p b = p a)
    (h : modifyFirst? p f l = some m) : m.find? p = (l.find? p).bind f := by
  induction l generalizing m with
  | nil => exact Option.some.inj h ▸ rfl
  | cons a l ih =>
    unfold modifyFirst? at h
    split at h
    · rename_i ha
      obtain ⟨b, hb, rfl⟩ := Option.map_eq_some_iff.1 h
      rw [List.find?_cons_of_pos ha, List.find?_cons_of_pos ((hf a b hb).trans ha), Option.bind_some,
        hb]
    · rename_i ha
      obtain ⟨rest, hrest, rfl⟩ := Option.map_eq_some_iff.1 h
      rw [List.find?_cons_of_neg ha, List.find?_cons_of_neg ha, ih hrest]

end Lists

/-! ## What a step leaves of a pod -/

/-- What the simulation never changes about a pod. The phase of a backup job is none of it. -/
structure Lasting where
  ns : String
  name : String
  labels : Labels
  containers : List Container
  phase : Option Phase
deriving DecidableEq

def Lasting.path (l : Lasting) : String := Scope.path l.ns l.name

def Lasting.isBackup (l : Lasting) : Bool := backupStem.toList.isPrefixOf l.name.toList

def Pod.lasting (p : Pod) : Lasting where
  ns := p.ns
  name := p.name
  labels := p.labels
  containers := p.containers
  phase := if p.isBackup then none else some p.phase

theorem isBackup_lasting (p : Pod) : p.isBackup = p.lasting.isBackup := rfl

theorem path_lasting (p : Pod) : p.lasting.path = p.path := rfl

variable {p q : Pod} {step : UInt64} {pods next : List Pod}

theorem lasting_of_isBackup (h : p.isBackup = true) :
    p.lasting = ⟨p.ns, p.name, p.labels, p.containers, none⟩ := by
  unfold Pod.lasting
  rw [h]
  rfl

/-- A pod that is what it was, with so many restarts more at most, and a reading that is at most so
much higher. -/
structure Pod.Drifts (restarts cpu : Nat) (p q : Pod) : Prop where
  lasting : q.lasting = p.lasting
  restarts : q.restarts.toNat ≤ p.restarts.toNat + restarts
  cpu (y : UInt64) : q.cpuMilli = some y → ∃ x, p.cpuMilli = some x ∧ y.toNat ≤ x.toNat + cpu

theorem Pod.Drifts.refl (restarts cpu : Nat) (p : Pod) : Drifts restarts cpu p p :=
  ⟨rfl, Nat.le_add_right _ _, fun y hy => ⟨y, hy, Nat.le_add_right _ _⟩⟩

theorem Pod.Drifts.trans {r : Pod} {restarts cpu restarts' cpu' : Nat}
    (h : Drifts restarts cpu p q) (h' : Drifts restarts' cpu' q r) :
    Drifts (restarts + restarts') (cpu + cpu') p r := by
  have hbefore := h.restarts
  have hafter := h'.restarts
  refine ⟨h'.lasting.trans h.lasting, by omega, fun z hz => ?_⟩
  obtain ⟨y, hy, hzy⟩ := h'.cpu z hz
  obtain ⟨x, hx, hyx⟩ := h.cpu y hy
  exact ⟨x, hx, by omega⟩

theorem drifts_of_forall₂ {restarts cpu restarts' cpu' : Nat} {between : List Pod}
    (h : List.Forall₂ (Pod.Drifts restarts cpu) pods between)
    (h' : List.Forall₂ (Pod.Drifts restarts' cpu') between next) :
    List.Forall₂ (Pod.Drifts (restarts + restarts') (cpu + cpu')) pods next :=
  (forall₂_trans h h').imp fun _ _ ⟨_, hfirst, hsecond⟩ => hfirst.trans hsecond

/-- The pods that are found by what lasts of them are the same as before. -/
theorem map_lasting_of_drifts {restarts cpu : Nat}
    (h : List.Forall₂ (Pod.Drifts restarts cpu) pods next) :
    next.map Pod.lasting = pods.map Pod.lasting :=
  map_eq_of_forall₂ (h.imp fun _ _ hdrift => hdrift.lasting)

/-! ## The parts of a step -/

/-- A new reading is less than forty above the old one. -/
theorem toNat_wobble?_le {position : Nat} {x y : UInt64} (h : wobble? step position x = some y) :
    y.toNat ≤ x.toNat + 39 := by
  unfold wobble? at h
  obtain ⟨a, -, h⟩ := Option.bind_eq_some_iff.1 h
  obtain ⟨b, -, h⟩ := Option.bind_eq_some_iff.1 h
  obtain ⟨turn, -, h⟩ := Option.bind_eq_some_iff.1 h
  obtain ⟨tens, htens, h⟩ := Option.bind_eq_some_iff.1 h
  rw [product64?_eq_some_iff, UInt64.toNat_div] at htens
  rw [sum64?_eq_some_iff, UInt64.toNat_mod] at h
  have hten : (10 : UInt64).toNat = 10 := rfl
  have hforty : (40 : UInt64).toNat = 40 := rfl
  rw [hten] at htens
  rw [hforty] at h
  omega

theorem drifts_wobbled? {position : Nat} (h : p.wobbled? step position = some q) :
    p.Drifts 0 39 q := by
  unfold Pod.wobbled? at h
  split at h
  · rename_i hnone
    obtain rfl := Option.some.inj h
    exact ⟨rfl, Nat.le_refl _, fun y hy => by rw [hnone] at hy; cases hy⟩
  · rename_i x hx
    obtain ⟨reading, hreading, rfl⟩ := Option.map_eq_some_iff.1 h
    refine ⟨rfl, Nat.le_refl _, fun y hy => ⟨x, hx, ?_⟩⟩
    obtain rfl := Option.some.inj hy
    exact toNat_wobble?_le hreading

theorem drifts_restarted? (h : p.restarted? = some q) : p.Drifts 1 0 q := by
  obtain ⟨restarts, hrestarts, rfl⟩ := Option.map_eq_some_iff.1 h
  exact ⟨rfl, Nat.le_of_eq (sum32?_eq_some_iff.1 hrestarts), fun y hy => ⟨y, hy, Nat.le_refl _⟩⟩

theorem drifts_flapped? (h : p.flapped? step = some q) : p.Drifts 0 0 q := by
  obtain ⟨ready, -, rfl⟩ := Option.map_eq_some_iff.1 h
  exact ⟨rfl, Nat.le_refl _, fun y hy => ⟨y, hy, Nat.le_refl _⟩⟩

theorem progress?_frame (h : p.progress? step = some q) :
    ∃ phase ready ip, q = { p with phase, ready, ip } := by
  unfold Pod.progress? at h
  split at h
  · obtain ⟨last, -, rfl⟩ := Option.map_eq_some_iff.1 h
    exact ⟨_, _, _, rfl⟩
  · exact ⟨_, _, _, (Option.some.inj h).symm⟩
  · exact ⟨p.phase, p.ready, p.ip, (Option.some.inj h).symm⟩

/-- A backup job in progress stays the job it is. -/
theorem drifts_progress? (hbackup : p.isBackup = true) (h : p.progress? step = some q) :
    p.Drifts 0 0 q := by
  obtain ⟨phase, ready, ip, rfl⟩ := progress?_frame h
  have hstill : Pod.isBackup { p with phase, ready, ip } = true := hbackup
  refine ⟨?_, Nat.le_refl _, fun y hy => ⟨y, hy, Nat.le_refl _⟩⟩
  rw [lasting_of_isBackup hstill, lasting_of_isBackup hbackup]

theorem drifts_wobblePods? {metrics : Bool} (h : wobblePods? metrics step pods = some next) :
    List.Forall₂ (Pod.Drifts 0 39) pods next := by
  unfold wobblePods? at h
  split at h
  · have hdrifts : List.Forall₂ (fun (a : Pod × Nat) q => a.1.Drifts 0 39 q) pods.zipIdx next :=
      (forall₂_of_mapM h).imp fun a q hq => drifts_wobbled? hq
    have hpods := List.forall₂_map_left_iff.2 hdrifts
    rwa [List.zipIdx_map_fst] at hpods
  · obtain rfl := Option.some.inj h
    exact List.forall₂_same.2 fun p _ => .refl 0 39 p

theorem drifts_restartPods? (h : restartPods? step pods = some next) :
    List.Forall₂ (Pod.Drifts 1 0) pods next := by
  unfold restartPods? at h
  split at h
  · refine (forall₂_of_modifyFirst? h).imp ?_
    rintro p q (rfl | hq)
    · exact .refl 1 0 q
    · exact drifts_restarted? hq
  · obtain rfl := Option.some.inj h
    exact List.forall₂_same.2 fun p _ => .refl 1 0 p

theorem drifts_flapPods? (h : flapPods? step pods = some next) :
    List.Forall₂ (Pod.Drifts 0 0) pods next := by
  refine (forall₂_of_modifyFirst? h).imp ?_
  rintro p q (rfl | hq)
  · exact .refl 0 0 q
  · exact drifts_flapped? hq

theorem drifts_progressPods? (h : progressPods? step pods = some next) :
    List.Forall₂ (Pod.Drifts 0 0) pods next := by
  refine (forall₂_of_mapM h).imp fun p q hq => ?_
  split at hq
  · rename_i hbackup
    exact drifts_progress? hbackup hq
  · exact Option.some.inj hq ▸ .refl 0 0 p

/-! ## A step -/

/-- What a step is made of. -/
theorem stepPods?_eq_some_iff {metrics : Bool} {now : Int} :
    stepPods? metrics step now pods = some next ↔ ∃ wobbled restarted flapped ticked,
      wobblePods? metrics step pods = some wobbled ∧ restartPods? step wobbled = some restarted ∧
      flapPods? step restarted = some flapped ∧ progressPods? step flapped = some ticked ∧
      (if step % 5 = 0 then addBackup step now ticked else ticked) = next := by
  simp only [stepPods?, Option.bind_eq_bind, Option.bind_eq_some_iff, Option.some.injEq]
  grind

/-- A step changes nothing that lasts, and may add a backup job then. -/
theorem exists_ticked {metrics : Bool} {now : Int}
    (h : stepPods? metrics step now pods = some next) : ∃ ticked,
      List.Forall₂ (Pod.Drifts 1 39) pods ticked ∧
        next = if step % 5 = 0 then addBackup step now ticked else ticked := by
  obtain ⟨wobbled, restarted, flapped, ticked, hwobbled, hrestarted, hflapped, hticked, rfl⟩ :=
    stepPods?_eq_some_iff.1 h
  exact ⟨ticked, drifts_of_forall₂ (drifts_of_forall₂ (drifts_of_forall₂
    (drifts_wobblePods? hwobbled) (drifts_restartPods? hrestarted)) (drifts_flapPods? hflapped))
    (drifts_progressPods? hticked), rfl⟩

end Cluster

end ResourceBrowser
