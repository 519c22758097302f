import Mathlib.Data.List.Nodup
import ResourceBrowser.Key.Keymap

/-!
# What a keymap binds

A keymap is read by its keys. Binding a key and taking a binding away change what is found under
that key and nothing else, and no key is ever bound twice.

* `get?_insert`, `get?_erase`: what a change does to every key.
* `nodup_keys_insert`, `nodup_keys_erase`: every key stays bound at most once.
* `get?_eq_some_iff`: what is found under a key is what is listed with it.
-/

namespace ResourceBrowser.Key.Keymap

variable {α : Type} {m : Keymap α}

/-! ## Changes -/

theorem lookup_bindings (k : Binding) (b : Bound α) (rest : List (Binding × Bound α))
    (key : Binding) :
    ((k, b) :: rest).lookup key = if key = k then some b else rest.lookup key := by
  rw [List.lookup_cons]
  by_cases hkey : key = k
  · rw [beq_iff_eq.2 hkey, if_pos hkey]
  · rw [beq_false_of_ne hkey, if_neg hkey]

theorem lookup_eq_none {bindings : List (Binding × Bound α)} {key : Binding}
    (h : key ∉ bindings.map (·.1)) : bindings.lookup key = none := by
  induction bindings with
  | nil => rfl
  | cons e rest ih =>
    obtain ⟨k, bound⟩ := e
    obtain ⟨hne, hrest⟩ := List.ne_and_not_mem_of_not_mem_cons h
    rw [lookup_bindings, if_neg hne, ih hrest]

@[simp] theorem get?_empty (key : Binding) : (empty : Keymap α).get? key = none := rfl

theorem get?_erase (m : Keymap α) (gone key : Binding) :
    (m.erase gone).get? key = if key = gone then none else m.get? key := by
  obtain ⟨entries⟩ := m
  show (entries.filter fun e => e.1 != gone).lookup key =
    if key = gone then none else entries.lookup key
  induction entries with
  | nil => simp
  | cons e rest ih =>
    obtain ⟨k, bound⟩ := e
    by_cases hk : k = gone
    · -- the binding in front goes away, and it is not that of another key
      have hdropped : ((k, bound) :: rest).filter (fun e => e.1 != gone) =
          rest.filter fun e => e.1 != gone := by simp [hk]
      rw [hdropped, ih, lookup_bindings, hk]
      split <;> rfl
    · have hkept : ((k, bound) :: rest).filter (fun e => e.1 != gone) =
          (k, bound) :: rest.filter fun e => e.1 != gone := by simp [hk]
      rw [hkept, lookup_bindings, lookup_bindings, ih]
      by_cases hkey : key = k
      · have hne : key ≠ gone := hkey ▸ hk
        rw [if_pos hkey, if_neg hne, if_pos hkey]
      · rw [if_neg hkey, if_neg hkey]

theorem get?_insert (m : Keymap α) (new : Binding) (bound : Bound α) (key : Binding) :
    (m.insert new bound).get? key = if key = new then some bound else m.get? key := by
  have hfirst : (m.insert new bound).get? key =
      if key = new then some bound else (m.erase new).get? key := lookup_bindings ..
  rw [hfirst, get?_erase]
  split <;> rfl

theorem contains_eq_false_iff (m : Keymap α) (key : Binding) :
    m.contains key = false ↔ m.get? key = none := by
  unfold contains
  rw [← Bool.not_eq_true, Option.not_isSome_iff_eq_none]

/-! ## Every key once -/

/-- The bound keys. -/
def keys (m : Keymap α) : List Binding := m.entries.map (·.1)

theorem nodup_keys_erase (h : m.keys.Nodup) (key : Binding) : (m.erase key).keys.Nodup :=
  h.sublist (List.filter_sublist.map _)

theorem not_mem_keys_erase (m : Keymap α) (key : Binding) : key ∉ (m.erase key).keys := by
  intro hmem
  obtain ⟨e, he, hkey⟩ := List.mem_map.1 hmem
  have hne := (List.mem_filter.1 he).2
  rw [hkey, bne_self_eq_false] at hne
  cases hne

theorem nodup_keys_insert (h : m.keys.Nodup) (key : Binding) (bound : Bound α) :
    (m.insert key bound).keys.Nodup :=
  List.nodup_cons.2 ⟨not_mem_keys_erase m key, nodup_keys_erase h key⟩

/-- Where every key is bound once, what is found under a key is what is listed with it. -/
theorem get?_eq_some_iff (h : m.keys.Nodup) {key : Binding} {bound : Bound α} :
    m.get? key = some bound ↔ (key, bound) ∈ m.entries := by
  obtain ⟨entries⟩ := m
  show entries.lookup key = some bound ↔ (key, bound) ∈ entries
  replace h : (entries.map (·.1)).Nodup := h
  induction entries with
  | nil => simp
  | cons e rest ih =>
    obtain ⟨k, b⟩ := e
    obtain ⟨hnew, hrest⟩ := List.nodup_cons.1 h
    rw [lookup_bindings, List.mem_cons]
    by_cases hkey : key = k
    · rw [if_pos hkey]
      constructor
      · intro hb
        exact .inl (Prod.ext hkey (Option.some.inj hb).symm)
      · rintro (hfirst | hlater)
        · exact congrArg some (Prod.mk.inj hfirst).2.symm
        · -- the key would be listed twice
          exact absurd (List.mem_map_of_mem (f := (·.1)) hlater) (hkey ▸ hnew)
    · rw [if_neg hkey]
      refine (ih hrest).trans ⟨.inr, ?_⟩
      rintro (hfirst | hlater)
      · exact absurd (Prod.mk.inj hfirst).1 hkey
      · exact hlater

end ResourceBrowser.Key.Keymap
