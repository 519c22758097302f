import Mathlib.Data.List.Nodup
import ResourceBrowser.Proofs.Tunnel.Step

/-!
# Numbers of calls and sessions

A number is given out once, by `System.begin`, and then belongs to the call and after it to the
session that the call launches. So a number picks out at most one call or session, and moving or
ending one of them leaves all the others as they are.

* `Numbered`: no two calls or sessions share a number, `numbered_of_reachable`.
* `mem_goOn`, `mem_moveSession`: what is left after a call or a session has moved.
-/

namespace ResourceBrowser.Tunnel

/-! ## Replacing by number -/

section Replace

variable {α : Type} {number : α → Nat} {l : List α} {x y : α}

/-- Two members with one number are the same. -/
theorem eq_of_number (hl : (l.map number).Nodup) (hx : x ∈ l) (hy : y ∈ l)
    (h : number y = number x) : y = x :=
  List.inj_on_of_nodup_map hl hy hx h

/-- What is in a list after the member with the number of `x` has been replaced. -/
theorem mem_replace (hl : (l.map number).Nodup) (hx : x ∈ l) (f : α → α) :
    y ∈ l.map (fun z => if number z = number x then f z else z) ↔
      y = f x ∨ y ∈ l ∧ number y ≠ number x := by
  rw [List.mem_map]
  constructor
  · rintro ⟨z, hz, rfl⟩
    by_cases h : number z = number x
    · left
      rw [if_pos h, eq_of_number hl hx hz h]
    · right
      rw [if_neg h]
      exact ⟨hz, h⟩
  · rintro (rfl | ⟨hy, h⟩)
    · exact ⟨x, hx, if_pos rfl⟩
    · exact ⟨y, hy, if_neg h⟩

/-- Replacing keeps the numbers. -/
theorem map_number_replace (number : α → Nat) (l : List α) (f : α → α)
    (hf : ∀ z, number (f z) = number z) (n : Nat) :
    (l.map fun z => if number z = n then f z else z).map number = l.map number := by
  rw [List.map_map]
  refine List.map_congr_left fun z _ => ?_
  rw [Function.comp_apply]
  split
  · exact hf z
  · rfl

end Replace

namespace System

variable {s s' : System}

/-! ## Numbers in use -/

/-- The numbers in use are below the next one, and none is used twice. -/
structure Numbered (calls : List Call) (sessions : List Session) (next : Nat) : Prop where
  ofCalls : (calls.map (·.number)).Nodup
  ofSessions : (sessions.map (·.number)).Nodup
  apart : ∀ c ∈ calls, ∀ x ∈ sessions, c.number ≠ x.number
  callsBelow : ∀ c ∈ calls, c.number < next
  sessionsBelow : ∀ x ∈ sessions, x.number < next

/-- What is there after a call has moved. -/
theorem mem_goOn (hs : (s.calls.map (·.number)).Nodup) {c d : Call} (hc : c ∈ s.calls)
    (stage : CallStage) :
    d ∈ (s.goOn c stage).system.calls ↔
      d = { c with stage } ∨ d ∈ s.calls ∧ d.number ≠ c.number :=
  mem_replace hs hc _

theorem mem_finish (s : System) (c d : Call) (result : Except Fault Unit) :
    d ∈ (s.finish c result).system.calls ↔ d ∈ s.calls ∧ d.number ≠ c.number := by
  simp [finish]

/-- What is there after a session has moved. -/
theorem mem_moveSession (hs : (s.sessions.map (·.number)).Nodup) {x y : Session}
    (hx : x ∈ s.sessions) (stage : SessionStage) :
    y ∈ (s.moveSession x stage).sessions ↔
      y = { x with stage } ∨ y ∈ s.sessions ∧ y.number ≠ x.number :=
  mem_replace hs hx _

theorem numbered_goOn (h : Numbered s.calls s.sessions s.next) {c : Call} (hc : c ∈ s.calls)
    (stage : CallStage) :
    Numbered (s.goOn c stage).system.calls s.sessions s.next := by
  refine ⟨?_, h.ofSessions, ?_, ?_, h.sessionsBelow⟩
  · have hkeep : (s.goOn c stage).system.calls.map (·.number) = s.calls.map (·.number) :=
      map_number_replace _ _ (fun d : Call => { d with stage }) (fun _ => rfl) c.number
    rw [hkeep]
    exact h.ofCalls
  · intro d hd x hx
    rcases (mem_goOn h.ofCalls hc stage).1 hd with rfl | ⟨hd, -⟩
    · exact h.apart c hc x hx
    · exact h.apart d hd x hx
  · intro d hd
    rcases (mem_goOn h.ofCalls hc stage).1 hd with rfl | ⟨hd, -⟩
    · exact h.callsBelow c hc
    · exact h.callsBelow d hd

theorem numbered_finish (h : Numbered s.calls s.sessions s.next) (c : Call)
    (result : Except Fault Unit) :
    Numbered (s.finish c result).system.calls s.sessions s.next := by
  have hsub : (s.finish c result).system.calls.Sublist s.calls := List.filter_sublist
  exact ⟨h.ofCalls.sublist (hsub.map _), h.ofSessions, fun d hd => h.apart d (hsub.mem hd),
    fun d hd => h.callsBelow d (hsub.mem hd), h.sessionsBelow⟩

theorem numbered_moveSession (h : Numbered s.calls s.sessions s.next) {x : Session}
    (hx : x ∈ s.sessions) (stage : SessionStage) :
    Numbered s.calls (s.moveSession x stage).sessions s.next := by
  refine ⟨h.ofCalls, ?_, ?_, h.callsBelow, ?_⟩
  · have hkeep : (s.moveSession x stage).sessions.map (·.number) = s.sessions.map (·.number) :=
      map_number_replace _ _ (fun y : Session => { y with stage }) (fun _ => rfl) x.number
    rw [hkeep]
    exact h.ofSessions
  · intro c hc y hy
    rcases (mem_moveSession h.ofSessions hx stage).1 hy with rfl | ⟨hy, -⟩
    · exact h.apart c hc x hx
    · exact h.apart c hc y hy
  · intro y hy
    rcases (mem_moveSession h.ofSessions hx stage).1 hy with rfl | ⟨hy, -⟩
    · exact h.sessionsBelow x hx
    · exact h.sessionsBelow y hy

/-- The next number is free. -/
theorem numbered_begin (h : Numbered s.calls s.sessions s.next) (id : Id) (spec : Spec) :
    Numbered (s.begin id spec).1.calls s.sessions (s.next + 1) := by
  have hnew : ∀ c ∈ (s.begin id spec).1.calls, c ∈ s.calls ∨ c.number = s.next := by
    intro c hc
    rcases List.mem_append.1 hc with hc | hc
    · exact .inl hc
    · exact .inr (by rw [List.mem_singleton.1 hc])
  refine ⟨?_, h.ofSessions, ?_, ?_, ?_⟩
  · -- the new number is above all that are in use
    have hnot : s.next ∉ s.calls.map (·.number) := by
      intro hin
      obtain ⟨c, hc, hnumber⟩ := List.mem_map.1 hin
      have hlt := h.callsBelow c hc
      omega
    simpa [begin, List.nodup_append] using ⟨h.ofCalls, by simpa using hnot⟩
  · intro c hc x hx
    have hlt := h.sessionsBelow x hx
    rcases hnew c hc with hc | hc
    · exact h.apart c hc x hx
    · omega
  · intro c hc
    rcases hnew c hc with hc | hc
    · have hlt := h.callsBelow c hc
      omega
    · omega
  · intro x hx
    have hlt := h.sessionsBelow x hx
    omega

/-- A session takes over the number of the call that launches it. -/
theorem numbered_launched (h : Numbered s.calls s.sessions s.next) {c : Call} (hc : c ∈ s.calls)
    {x : Session} (hx : x.number = c.number) (result : Except Fault Unit) :
    Numbered (s.finish c result).system.calls (s.sessions ++ [x]) s.next := by
  have hfinish := numbered_finish h c result
  have hnew : ∀ y ∈ s.sessions ++ [x], y ∈ s.sessions ∨ y.number = c.number := by
    intro y hy
    rcases List.mem_append.1 hy with hy | hy
    · exact .inl hy
    · exact .inr (by rw [List.mem_singleton.1 hy, hx])
  refine ⟨hfinish.ofCalls, ?_, ?_, hfinish.callsBelow, ?_⟩
  · have hnot : ∀ y ∈ s.sessions, y.number ≠ x.number := by
      intro y hy heq
      exact h.apart c hc y hy (by rw [heq, hx])
    simpa [List.nodup_append] using ⟨h.ofSessions, hnot⟩
  · intro d hd y hy
    rcases hnew y hy with hy | hy
    · exact hfinish.apart d hd y hy
    · rw [hy]
      exact ((mem_finish s c d result).1 hd).2
  · intro y hy
    rcases hnew y hy with hy | hy
    · exact h.sessionsBelow y hy
    · rw [hy]
      exact h.callsBelow c hc

theorem numbered_of_taken {u : Upkeep} {e : Option (Nat × Event)}
    (h : Numbered s.calls s.sessions s.next) (hstep : Taken s u e s') :
    Numbered s'.calls s'.sessions s'.next := by
  cases hstep with
  | begun id spec => exact numbered_begin h id spec
  | moved hc => exact numbered_goOn h hc _
  | @ended c result => exact numbered_finish h c result
  | entered hc => exact numbered_goOn h hc _
  | @rolledBack c result => exact numbered_finish h c result
  | @launched c x result hc _ ticket =>
    exact numbered_launched h hc (congrArg Ticket.number ticket) result
  | activated hx => exact numbered_moveSession h hx _
  | announced hx => exact numbered_moveSession h hx _
  | returned hx => exact numbered_moveSession h hx _
  | removed hx => exact numbered_moveSession h hx _
  | @reported x =>
    have hsub : (s.sessions.filter (·.number ≠ x.number)).Sublist s.sessions :=
      List.filter_sublist
    exact ⟨h.ofCalls, h.ofSessions.sublist (hsub.map _), fun c hc y hy => h.apart c hc y (hsub.mem hy),
      h.callsBelow, fun y hy => h.sessionsBelow y (hsub.mem hy)⟩
  | raised => exact h

/-- Numbers are given out once. -/
theorem numbered_of_reachable (h : Reachable s) : Numbered s.calls s.sessions s.next := by
  induction h with
  | start => exact ⟨by simp, by simp, by simp, by simp, by simp⟩
  | step label _ hp ih => exact numbered_of_taken ih (taken_of_step? hp)

end System

end ResourceBrowser.Tunnel
