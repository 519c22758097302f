import ResourceBrowser.Table.Row

/-!
# What the event of a row tells

The event of a row keeps the previous values of the fields that changed, and an empty one in place
of every other field. So a change is told as long as there is something to keep: a field that was
empty before counts as unchanged, whatever it holds now.

* `Row.Differs`: the fields that changed, ages left out.
* `RowEvent.Tells`: an event tells that certain fields changed, and no others.
* `tells_replaces`: the fields that the event of a row tells of.
* `tellsDifferences_iff`: they are all that changed exactly if no empty field was filled.
-/

namespace ResourceBrowser.Table

namespace Row

/-- Field `i` has another value in `new` than in `old`, and does not hold an age. -/
def Differs (header : Header) (old new : Row) (i : Nat) : Prop :=
  header.isTime i = false ∧ new.fields[i]? ≠ old.fields[i]?

/-- Field `i` differs, and was not empty before. -/
def Replaces (header : Header) (old new : Row) (i : Nat) : Prop :=
  Differs header old new i ∧ old.fields[i]? ≠ some ""

variable {header : Header} {old new : Row} {i : Nat}

/-- In rows of one length, a field is there in both or in neither. -/
theorem values_cases (hlength : new.fields.length = old.fields.length) (i : Nat) :
    (∃ value field, old.fields[i]? = some value ∧ new.fields[i]? = some field) ∨
      old.fields[i]? = none ∧ new.fields[i]? = none := by
  rcases Nat.lt_or_ge i old.fields.length with hlt | hge
  · have hlt' : i < new.fields.length := by omega
    exact .inl ⟨_, _, List.getElem?_eq_getElem hlt, List.getElem?_eq_getElem hlt'⟩
  · have hge' : new.fields.length ≤ i := by omega
    exact .inr ⟨List.getElem?_eq_none hge, List.getElem?_eq_none hge'⟩

/-- What differs had a value before. -/
theorem Differs.exists_value (hlength : new.fields.length = old.fields.length)
    (h : Differs header old new i) : ∃ value, old.fields[i]? = some value := by
  rcases values_cases hlength i with ⟨value, field, hold, hnew⟩ | ⟨hold, hnew⟩
  · exact ⟨value, hold⟩
  · exact absurd (hnew.trans hold.symm) h.2

end Row

namespace RowEvent

/-! ## Previous values -/

theorem delta?_eq_some_iff {e : RowEvent} {i : Nat} {old : String} :
    e.delta? i = some old ↔ e.deltas[i]? = some old ∧ old ≠ "" := by
  simp [delta?, Option.filter_eq_some_iff]

/-- A blank event is one without previous values. -/
theorem isBlank_iff {e : RowEvent} : e.isBlank = true ↔ ∀ i value, e.delta? i ≠ some value := by
  unfold isBlank
  rw [List.all_eq_true]
  constructor
  · intro h i value hdelta
    obtain ⟨hvalue, hne⟩ := delta?_eq_some_iff.1 hdelta
    exact hne (beq_iff_eq.1 (h value (List.mem_of_getElem? hvalue)))
  · intro h value hmem
    obtain ⟨i, hi⟩ := List.getElem?_of_mem hmem
    rw [beq_iff_eq]
    apply Decidable.byContradiction
    intro hne
    exact h i value (delta?_eq_some_iff.2 ⟨hi, hne⟩)

variable (header : Header) {old new : Row}

/-- A field that is there in both rows keeps its previous value if that has changed. -/
theorem getElem?_deltasFrom {before now : List String} {i : Nat} {value field : String}
    (hvalue : before[i]? = some value) (hfield : now[i]? = some field) :
    (deltasFrom header before now)[i]? =
      some (if value ≠ field ∧ header.isTime i = false then value else "") := by
  unfold deltasFrom
  rw [List.getElem?_mapIdx, hfield, Option.map_some, hvalue]
  simp

/-- The event of a row has the previous values of the fields that replace one. -/
theorem delta?_diff_eq_some_iff (hlength : new.fields.length = old.fields.length) (i : Nat)
    (previous : String) : (diff header (some old) new).delta? i = some previous ↔
      Row.Replaces header old new i ∧ old.fields[i]? = some previous := by
  rw [delta?_eq_some_iff]
  show (deltasFrom header old.fields new.fields)[i]? = some previous ∧ previous ≠ "" ↔ _
  unfold Row.Replaces Row.Differs
  rcases Row.values_cases hlength i with ⟨value, field, hold, hnew⟩ | ⟨hold, hnew⟩
  · rw [getElem?_deltasFrom header hold hnew, hold, hnew]
    by_cases hchanged : value ≠ field ∧ header.isTime i = false
    · rw [if_pos hchanged]
      constructor
      · rintro ⟨hvalue, hne⟩
        obtain rfl : value = previous := by simpa using hvalue
        have hdiffers : some field ≠ some value := by simpa using hchanged.1.symm
        have hfull : some value ≠ some "" := by simpa using hne
        exact ⟨⟨⟨hchanged.2, hdiffers⟩, hfull⟩, rfl⟩
      · rintro ⟨⟨-, hfull⟩, hvalue⟩
        obtain rfl : value = previous := by simpa using hvalue
        exact ⟨rfl, by simpa using hfull⟩
    · -- an empty value stands for one that is not told
      rw [if_neg hchanged]
      constructor
      · rintro ⟨hempty, hne⟩
        obtain rfl : "" = previous := by simpa using hempty
        exact absurd rfl hne
      · rintro ⟨⟨⟨htime, hdiffers⟩, -⟩, -⟩
        have hne : value ≠ field := fun heq => hdiffers (by rw [heq])
        exact absurd ⟨hne, htime⟩ hchanged
  · have hnone : (deltasFrom header old.fields new.fields)[i]? = none := by
      unfold deltasFrom
      rw [List.getElem?_mapIdx, hnew, Option.map_none]
    rw [hnone, hold, hnew]
    simp

/-- The event of a row is blank or modified. -/
theorem diff_change (old new : Row) :
    (diff header (some old) new).change =
      if (diff header (some old) new).isBlank then .unchanged else .modified :=
  rfl

/-! ## What an event tells -/

/-- The event tells that the fields of `changed` changed since `old`, and no others. -/
structure Tells (e : RowEvent) (old : Row) (changed : Nat → Prop) : Prop where
  unchanged : e.change = .unchanged ↔ ∀ i, ¬changed i
  modified : e.change = .modified ↔ ∃ i, changed i
  delta (i : Nat) (value : String) :
    e.delta? i = some value ↔ changed i ∧ old.fields[i]? = some value

/-- The event of a row tells of the fields that replace a value. -/
theorem tells_replaces (hlength : new.fields.length = old.fields.length) :
    (diff header (some old) new).Tells old (Row.Replaces header old new) := by
  have hdelta := delta?_diff_eq_some_iff header hlength
  have hblank : (diff header (some old) new).isBlank = true ↔
      ∀ i, ¬Row.Replaces header old new i := by
    rw [isBlank_iff]
    constructor
    · intro h i hreplaces
      obtain ⟨value, hvalue⟩ := hreplaces.1.exists_value hlength
      exact h i value ((hdelta i value).2 ⟨hreplaces, hvalue⟩)
    · intro h i value hsome
      exact h i ((hdelta i value).1 hsome).1
  refine ⟨?_, ?_, hdelta⟩
  · rw [diff_change header, ← hblank]
    split
    · rename_i hyes
      simp [hyes]
    · rename_i hno
      simp [hno]
  · rw [diff_change header, ← Classical.not_forall_not, ← hblank]
    split
    · rename_i hyes
      simp [hyes]
    · rename_i hno
      simp [hno]

/-- The event of a row tells of the fields that replace a value, and these are all that changed
exactly if no empty field was filled. -/
theorem tellsDifferences_iff (hlength : new.fields.length = old.fields.length) :
    (diff header (some old) new).Tells old (Row.Replaces header old new) ∧
      ((diff header (some old) new).Tells old (Row.Differs header old new) ↔
        ∀ i, Row.Differs header old new i → old.fields[i]? ≠ some "") := by
  have htells := tells_replaces header hlength
  refine ⟨htells, ?_, ?_⟩
  · -- the previous value that ought to be told is one that no event has
    intro h i hdiffers hempty
    have hdelta := (h.delta i "").2 ⟨hdiffers, hempty⟩
    exact (delta?_eq_some_iff.1 hdelta).2 rfl
  · intro hfull
    have hsame : Row.Replaces header old new = Row.Differs header old new := by
      funext i
      exact propext ⟨And.left, fun hdiffers => ⟨hdiffers, hfull i hdiffers⟩⟩
    rw [← hsame]
    exact htells

/-! ## Two pods -/

/-- The columns of pods that have a name, restarts, an address and an age. -/
def addressHeader : Header :=
  [{ name := "NAME" }, { name := "RESTARTS" }, { name := "IP" }, { name := "AGE", time := true }]

/-- A pod that restarts while it gets older. -/
theorem tellsDifferences_restart :
    let old : Row := ⟨"default/web", ["web", "1", "10.0.0.7", "5m"]⟩
    let new : Row := ⟨"default/web", ["web", "2", "10.0.0.7", "6m"]⟩
    new.fields.length = old.fields.length ∧
      (diff addressHeader (some old) new).Tells old (Row.Differs addressHeader old new) := by
  intro old new
  have hlength : new.fields.length = old.fields.length := rfl
  have hfull : "" ∉ old.fields := by decide
  refine ⟨hlength, (tellsDifferences_iff addressHeader hlength).2.2 ?_⟩
  intro i _ hempty
  exact hfull (List.mem_of_getElem? hempty)

/-- A pod that is given an address changes without a word about it. -/
theorem not_tellsDifferences_newAddress :
    let old : Row := ⟨"default/web", ["web", "1", "", "5m"]⟩
    let new : Row := ⟨"default/web", ["web", "1", "10.0.0.7", "5m"]⟩
    new.fields.length = old.fields.length ∧ Row.Differs addressHeader old new 2 ∧
      (diff addressHeader (some old) new).change = .unchanged ∧
      ¬(diff addressHeader (some old) new).Tells old (Row.Differs addressHeader old new) := by
  intro old new
  have hdiffers : Row.Differs addressHeader old new 2 := by
    refine ⟨rfl, ?_⟩
    decide
  have hchange : (diff addressHeader (some old) new).change = .unchanged := by decide
  refine ⟨rfl, hdiffers, hchange, ?_⟩
  intro h
  exact h.unchanged.1 hchange 2 hdiffers

end RowEvent

end ResourceBrowser.Table
