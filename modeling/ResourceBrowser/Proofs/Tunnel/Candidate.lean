import Mathlib.Data.List.Basic
import Mathlib.Data.Prod.Lex
import ResourceBrowser.Tunnel.Candidate

/-!
# The candidates of a pod

The candidates for tunnels to a pod are the TCP ports that its containers declare, in the order in
which they are declared. Two containers may declare the same port and a container may declare a port
twice, so this is a statement about the places of declarations and not about the ports.

* `declaredAt?`: the TCP port that is declared at a place.
* `OffersDeclared`: each place is offered once and in order, `offersDeclared_of_candidates`.
-/

namespace ResourceBrowser.Tunnel

open Cluster

/-- The positions of the members that `f` keeps, in order. -/
theorem exists_positions {α β : Type} (f : α → Option β) (l : List α) :
    ∃ js : List Nat, js.Pairwise (· < ·) ∧ (∀ j, j ∈ js ↔ (l[j]?.bind f).isSome) ∧
      js.map (fun j => l[j]?.bind f) = (l.filterMap f).map some := by
  induction l with
  | nil => exact ⟨[], by simp⟩
  | cons a l ih =>
    obtain ⟨js, hordered, hmem, hmap⟩ := ih
    have hshifted : (js.map (· + 1)).Pairwise (· < ·) :=
      List.pairwise_map.2 (hordered.imp fun h => Nat.succ_lt_succ h)
    cases ha : f a with
    | none =>
      refine ⟨js.map (· + 1), hshifted, fun j => ?_, ?_⟩
      · cases j with
        | zero => simp [ha]
        | succ j => simp [hmem]
      · simp [ha, hmap, Function.comp_def]
    | some b =>
      refine ⟨0 :: js.map (· + 1), List.pairwise_cons.2 ⟨by simp, hshifted⟩, fun j => ?_, ?_⟩
      · cases j with
        | zero => simp [ha]
        | succ j => simp [hmem]
      · simp [ha, hmap, Function.comp_def]

/-- What a port of a container offers: only TCP ports offer something. -/
def Candidate.ofPort? (co : Container) (p : Port) : Option Candidate :=
  if p.protocol = .tcp then some ⟨co.name, p.name, p.number⟩ else none

theorem Candidate.ofContainer_eq (co : Container) :
    Candidate.ofContainer co = co.ports.filterMap (Candidate.ofPort? co) := by
  unfold Candidate.ofContainer
  induction co.ports with
  | nil => rfl
  | cons p ports ih => by_cases hp : p.protocol = .tcp <;> simp [Candidate.ofPort?, hp, ih]

/-- The TCP port that is declared at a place: the position of the container, and that of the port
among those of the container. -/
def declaredAt? (containers : List Container) (place : Nat × Nat) : Option Candidate :=
  containers[place.1]?.bind fun co => co.ports[place.2]?.bind (Candidate.ofPort? co)

/-- Every TCP port that is declared is offered once, in order of declaration, and nothing else is
offered. -/
def OffersDeclared (containers : List Container) (offered : List Candidate) : Prop :=
  ∃ places : List (Nat × Nat), places.Pairwise (Prod.Lex (· < ·) (· < ·)) ∧
    (∀ place, place ∈ places ↔ (declaredAt? containers place).isSome) ∧
    places.map (declaredAt? containers) = offered.map some

theorem offersDeclared_flatMap (containers : List Container) :
    OffersDeclared containers (containers.flatMap Candidate.ofContainer) := by
  induction containers with
  | nil => exact ⟨[], by simp [declaredAt?]⟩
  | cons co containers ih =>
    obtain ⟨places, hordered, hmem, hmap⟩ := ih
    obtain ⟨js, hjs, hmemjs, hmapjs⟩ := exists_positions (Candidate.ofPort? co) co.ports
    -- the places in the first container come before those in the others
    refine ⟨js.map (0, ·) ++ places.map (fun q => (q.1 + 1, q.2)), ?_, ?_, ?_⟩
    · rw [List.pairwise_append, List.pairwise_map, List.pairwise_map]
      refine ⟨hjs.imp fun h => .right 0 h, hordered.imp fun h => ?_, ?_⟩
      · rw [Prod.lex_def] at h ⊢
        simpa using h
      · intro first hfirst later hlater
        obtain ⟨j, -, rfl⟩ := List.mem_map.1 hfirst
        obtain ⟨q, -, rfl⟩ := List.mem_map.1 hlater
        exact .left j q.2 (Nat.succ_pos q.1)
    · rintro ⟨_ | i, j⟩
      · simp [declaredAt?, hmemjs]
      · have hplace := hmem (i, j)
        simpa [declaredAt?] using hplace
    · have hrest : places.map (fun q => declaredAt? (co :: containers) (q.1 + 1, q.2)) =
          places.map (declaredAt? containers) := rfl
      have hfirst : js.map (fun j => declaredAt? (co :: containers) (0, j)) =
          js.map fun j => co.ports[j]?.bind (Candidate.ofPort? co) := rfl
      simp [Function.comp_def, hrest, hfirst, hmap, hmapjs, Candidate.ofContainer_eq]

variable {path : String} {containers : List Container} {offered : List Candidate} {c : Candidate}

theorem offersDeclared_of_candidates (h : candidates path containers = .ok offered) :
    OffersDeclared containers offered := by
  have hoffers := offersDeclared_flatMap containers
  unfold candidates at h
  split at h
  · cases h
  · cases h
    exact hoffers

/-- What is offered is a TCP port that a container declares. -/
theorem exists_port_of_mem (h : OffersDeclared containers offered) (hc : c ∈ offered) :
    ∃ co ∈ containers, co.name = c.container ∧
      ∃ p ∈ co.ports, p.protocol = .tcp ∧ p.number = c.port := by
  obtain ⟨places, -, -, hmap⟩ := h
  have hsome : some c ∈ places.map (declaredAt? containers) := by
    rw [hmap]
    exact List.mem_map_of_mem hc
  obtain ⟨place, -, hplace⟩ := List.mem_map.1 hsome
  obtain ⟨co, hco, hport⟩ := Option.bind_eq_some_iff.1 hplace
  obtain ⟨p, hp, hoffer⟩ := Option.bind_eq_some_iff.1 hport
  obtain ⟨htcp, hcandidate⟩ := Option.ite_none_right_eq_some.1 hoffer
  obtain rfl := Option.some.inj hcandidate
  exact ⟨co, List.mem_of_getElem? hco, rfl, p, List.mem_of_getElem? hp, htcp, rfl⟩

/-- A pod that declares a TCP port has something to offer. -/
theorem exists_candidates (h : ∃ co ∈ containers, ∃ p ∈ co.ports, p.protocol = .tcp) :
    ∃ first rest, candidates path containers = .ok (first :: rest) := by
  obtain ⟨co, hco, p, hp, htcp⟩ := h
  have hmem : ⟨co.name, p.name, p.number⟩ ∈ containers.flatMap Candidate.ofContainer := by
    refine List.mem_flatMap.2 ⟨co, hco, ?_⟩
    exact List.mem_map.2 ⟨p, List.mem_filter.2 ⟨hp, by simpa using htcp⟩, rfl⟩
  unfold candidates
  split
  · rename_i hnil
    rw [hnil] at hmem
    cases hmem
  · obtain ⟨first, rest, hfound⟩ := List.exists_cons_of_ne_nil (List.ne_nil_of_mem hmem)
    exact ⟨first, rest, by rw [hfound]⟩

end ResourceBrowser.Tunnel
