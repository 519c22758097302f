import ResourceBrowser.Config

/-!
# Names in a configuration

Views and hotkeys stand in order of their names, each name once, however the file lists them.

* `KeyList.InOrder`: the keys of a list stand in order.
* `KeyList.find?_eq_some_iff`: what is found first is what has the least key.
* `Config.inOrder_of_read?`: the views and hotkeys of every configuration that is read.
-/

namespace ResourceBrowser

/-! ## Lists in order of keys -/

namespace KeyList

variable {α : Type} {l : KeyList α}

/-- The keys stand in order, and so each of them stands there once. -/
def InOrder (l : KeyList α) : Prop := l.Pairwise fun e e' => e.1 < e'.1

theorem eq_or_mem_of_mem_insert {key : String} {value : α} {e : String × α}
    (h : e ∈ insert key value l) : e = (key, value) ∨ e ∈ l := by
  induction l with
  | nil => exact .inl (List.mem_singleton.1 h)
  | cons first rest ih =>
    unfold insert at h
    split at h
    · rcases List.mem_cons.1 h with heq | hrest
      · exact .inl heq
      · exact .inr (List.mem_cons_of_mem _ hrest)
    · split at h
      · exact List.mem_cons.1 h
      · rcases List.mem_cons.1 h with heq | hrest
        · exact .inr (heq ▸ List.mem_cons_self)
        · exact (ih hrest).imp_right (List.mem_cons_of_mem _)

theorem inOrder_insert (h : l.InOrder) (key : String) (value : α) :
    (insert key value l).InOrder := by
  induction l with
  | nil => exact List.pairwise_singleton _ _
  | cons first rest ih =>
    obtain ⟨hfirst, hrest⟩ := List.pairwise_cons.1 h
    unfold insert
    split
    · rename_i heq
      obtain rfl := beq_iff_eq.1 heq
      exact List.pairwise_cons.2 ⟨hfirst, hrest⟩
    · rename_i hne
      split
      · rename_i hlt
        refine List.pairwise_cons.2 ⟨fun e he => ?_, h⟩
        rcases List.mem_cons.1 he with rfl | he
        · exact hlt
        · exact String.lt_trans hlt (hfirst e he)
      · rename_i hle
        -- the new pair goes somewhere behind the first one
        have hlt : first.1 < key :=
          Std.lt_of_le_of_ne (Std.not_lt.mp hle) fun heq => hne (beq_iff_eq.2 heq.symm)
        refine List.pairwise_cons.2 ⟨fun e he => ?_, ih hrest⟩
        rcases eq_or_mem_of_mem_insert he with rfl | he
        · exact hlt
        · exact hfirst e he

theorem inOrder_ofPairs (pairs : List (String × α)) : (ofPairs pairs).InOrder := by
  unfold ofPairs
  -- the pairs so far stand in order, whatever follows
  generalize hsorted : ([] : KeyList α) = sorted
  have h : InOrder sorted := hsorted ▸ List.Pairwise.nil
  clear hsorted
  induction pairs generalizing sorted with
  | nil => exact h
  | cons e rest ih => exact ih _ (inOrder_insert h e.1 e.2)

/-- What is found first is what has the least key. -/
theorem find?_eq_some_iff (h : l.InOrder) {p : String × α → Bool} {e : String × α} :
    l.find? p = some e ↔ e ∈ l ∧ p e = true ∧ ∀ e' ∈ l, p e' = true → e.1 ≤ e'.1 := by
  induction l with
  | nil => simp
  | cons first rest ih =>
    obtain ⟨hfirst, hrest⟩ := List.pairwise_cons.1 h
    rw [List.find?_cons]
    cases hp : p first with
    | true =>
      constructor
      · intro heq
        obtain rfl := Option.some.inj heq
        refine ⟨List.mem_cons_self, hp, List.forall_mem_cons.2 ⟨fun _ => ?_, fun e' he' _ => ?_⟩⟩
        · exact Std.le_refl _
        · exact Std.le_of_lt (hfirst e' he')
      · rintro ⟨hmem, -, hleast⟩
        rcases List.mem_cons.1 hmem with rfl | hmem
        · rfl
        · -- the first pair has a smaller key
          exact absurd (hleast first List.mem_cons_self hp) (Std.not_le.2 (hfirst e hmem))
    | false =>
      refine (ih hrest).trans ⟨?_, ?_⟩
      · rintro ⟨hmem, he, hleast⟩
        refine ⟨List.mem_cons_of_mem _ hmem, he, List.forall_mem_cons.2 ⟨fun hpos => ?_, hleast⟩⟩
        rw [hp] at hpos
        cases hpos
      · rintro ⟨hmem, he, hleast⟩
        rcases List.mem_cons.1 hmem with rfl | hmem
        · rw [hp] at he
          cases he
        · exact ⟨hmem, he, (List.forall_mem_cons.1 hleast).2⟩

end KeyList

/-! ## Reading -/

theorem Json.inOrder_of_map? {α : Type} {read : Json → Option α} {value : Json} {l : KeyList α}
    (h : value.map? read = some l) : l.InOrder := by
  unfold map? at h
  obtain ⟨members, -, h⟩ := Option.bind_eq_some_iff.1 h
  obtain ⟨entries, -, h⟩ := Option.bind_eq_some_iff.1 h
  obtain rfl := Option.some.inj h
  exact KeyList.inOrder_ofPairs entries

/-- A field that lists by name may also be absent. -/
theorem Json.inOrder_of_optional {α : Type} {read : Json → Option α} {field : Option Json}
    {l : KeyList α} (h : Json.optional [] (Json.map? read) field = some l) : l.InOrder := by
  cases field with
  | none =>
    obtain rfl := Option.some.inj h
    exact List.Pairwise.nil
  | some value => exact inOrder_of_map? h

/-- The views and the hotkeys of a configuration stand in order of their names. -/
theorem Config.inOrder_of_read? {text : String} {c : Config} (h : Config.read? text = some c) :
    c.views.InOrder ∧ c.hotkeys.InOrder := by
  obtain ⟨value, -, h⟩ := Option.bind_eq_some_iff.1 h
  unfold ofJson? at h
  obtain ⟨fields, -, h⟩ := Option.bind_eq_some_iff.1 h
  split at h
  · obtain ⟨dumpDir, -, h⟩ := Option.bind_eq_some_iff.1 h
    obtain ⟨seconds, -, h⟩ := Option.bind_eq_some_iff.1 h
    obtain ⟨views, hviews, h⟩ := Option.bind_eq_some_iff.1 h
    obtain ⟨hotkeys, hhotkeys, h⟩ := Option.bind_eq_some_iff.1 h
    obtain ⟨forward, -, h⟩ := Option.bind_eq_some_iff.1 h
    obtain rfl := Option.some.inj h
    exact ⟨Json.inOrder_of_optional hviews, Json.inOrder_of_optional hhotkeys⟩
  · cases h

end ResourceBrowser
