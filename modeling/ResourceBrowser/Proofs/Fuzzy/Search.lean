import ResourceBrowser.Proofs.Table.Filter

/-!
# Fuzzy searches are complete

A fuzzy search takes each character of a value for the next one of the query as soon as it can.
Nothing is lost by that: whenever the characters of the query stand somewhere in the value, in
order and with the first one beginning a word, the search finds such places. So the rows that a
search keeps are told by where the characters of the query can stand, however matches are valued.

* `StandsAt`: the places of a query in a text, `exists_standsAt_iff`.
* `foldl_crossOff_eq_nil_iff`: what is found by taking the next character as soon as possible.
* `Occurs`: a query that begins a word of a text, `isAnchored_iff`.
* `FindsAll`: what a search keeps, `findsAll_search`.
-/

namespace ResourceBrowser.Fuzzy

open Text Table

/-! ## Places of a query -/

/-- The characters of `query` stand at `places` of `text`, which come in order. -/
structure StandsAt (query text : List Char) (places : List Nat) : Prop where
  rising : places.Pairwise (· < ·)
  same : places.map (text[·]?) = query.map some

theorem standsAt_nil (text : List Char) : StandsAt [] text [] := ⟨.nil, rfl⟩

theorem standsAt_cons_iff {first : Char} {rest text : List Char} {p : Nat} {places : List Nat} :
    StandsAt (first :: rest) text (p :: places) ↔
      text[p]? = some first ∧ (∀ q ∈ places, p < q) ∧ StandsAt rest text places := by
  constructor
  · rintro ⟨hrising, hsame⟩
    obtain ⟨hlt, hrising⟩ := List.pairwise_cons.1 hrising
    obtain ⟨hfirst, hsame⟩ := List.cons.inj hsame
    exact ⟨hfirst, hlt, hrising, hsame⟩
  · rintro ⟨hfirst, hlt, hrising, hsame⟩
    exact ⟨List.pairwise_cons.2 ⟨hlt, hrising⟩, congrArg₂ List.cons hfirst hsame⟩

/-- A query with a first character has a first place. -/
theorem StandsAt.exists_cons {first : Char} {rest text : List Char} {places : List Nat}
    (h : StandsAt (first :: rest) text places) : ∃ p after, places = p :: after := by
  cases places with
  | nil => cases h.same
  | cons p after => exact ⟨p, after, rfl⟩

/-- The first character of a sublist stands somewhere, and the others stand after it. -/
theorem cons_sublist_iff_getElem? {first : Char} {rest text : List Char} :
    (first :: rest).Sublist text ↔
      ∃ k, text[k]? = some first ∧ rest.Sublist (text.drop (k + 1)) := by
  induction text with
  | nil => simp
  | cons c text ih =>
    constructor
    · intro h
      cases h with
      | cons _ h =>
        obtain ⟨k, hfirst, hrest⟩ := ih.1 h
        exact ⟨k + 1, hfirst, hrest⟩
      | cons_cons _ h => exact ⟨0, rfl, h⟩
    · rintro ⟨k, hfirst, hrest⟩
      cases k with
      | zero =>
        obtain rfl : c = first := Option.some.inj hfirst
        exact hrest.cons_cons c
      | succ k => exact (ih.2 ⟨k, hfirst, hrest⟩).cons c

/-- A query has places from position `n` on exactly if it is a sublist of what is there. -/
theorem exists_standsAt_iff (query text : List Char) (n : Nat) :
    (∃ places, (∀ p ∈ places, n ≤ p) ∧ StandsAt query text places) ↔
      query.Sublist (text.drop n) := by
  induction query generalizing n with
  | nil => exact ⟨fun _ => List.nil_sublist _, fun _ => ⟨[], nofun, standsAt_nil text⟩⟩
  | cons first rest ih =>
    rw [cons_sublist_iff_getElem?]
    constructor
    · rintro ⟨places, hfrom, hplaces⟩
      obtain ⟨p, after, rfl⟩ := hplaces.exists_cons
      obtain ⟨hfirst, hlt, hafter⟩ := standsAt_cons_iff.1 hplaces
      obtain ⟨k, rfl⟩ := Nat.exists_eq_add_of_le (hfrom p List.mem_cons_self)
      refine ⟨k, List.getElem?_drop ▸ hfirst, ?_⟩
      rw [List.drop_drop]
      exact (ih _).1 ⟨after, hlt, hafter⟩
    · rintro ⟨k, hfirst, hrest⟩
      rw [List.getElem?_drop] at hfirst
      rw [List.drop_drop] at hrest
      obtain ⟨after, hlt, hafter⟩ := (ih _).2 hrest
      refine ⟨(n + k) :: after, ?_, standsAt_cons_iff.2 ⟨hfirst, hlt, hafter⟩⟩
      intro p hp
      rcases List.mem_cons.1 hp with rfl | hp
      · exact Nat.le_add_right n k
      · have hle := hlt p hp
        omega

/-! ## Taking the next character -/

/-- Taking each character as soon as possible, all that is wanted is found if it is there at all.
When the next wanted character comes, any way to find the others that waits for a later one could
as well have taken this one. -/
theorem foldl_crossOff_eq_nil_iff (wanted text : List Char) :
    text.foldl crossOff wanted = [] ↔ wanted.Sublist text := by
  induction text generalizing wanted with
  | nil => exact List.sublist_nil.symm
  | cons c text ih =>
    rw [List.foldl_cons, ih]
    cases wanted with
    | nil => simp [crossOff]
    | cons d wanted =>
      by_cases h : c = d
      · subst h
        simp [crossOff]
      · have hskip : (d :: wanted).Sublist (c :: text) ↔ (d :: wanted).Sublist text := by
          refine ⟨fun hsub => ?_, fun hsub => hsub.cons c⟩
          cases hsub with
          | cons _ hsub => exact hsub
          | cons_cons _ _ => exact absurd rfl h
        rw [hskip, crossOff, if_neg (by simpa using h)]

/-- Every place is tried as the beginning. -/
theorem anchoredFrom_iff (first : Char) (rest : List Char) (before : Option Char)
    (text : List Char) : anchoredFrom first rest before text = true ↔
      ∃ p, text[p]? = some first ∧
        startsWord (if p = 0 then before else text[p - 1]?) = true ∧
          rest.Sublist (text.drop (p + 1)) := by
  induction text generalizing before with
  | nil => simp [anchoredFrom]
  | cons c text ih =>
    have hhere : (c == first && startsWord before && (text.foldl crossOff rest).isEmpty) = true ↔
        c = first ∧ startsWord before = true ∧ rest.Sublist text := by
      simp [foldl_crossOff_eq_nil_iff, and_assoc]
    have hbefore : ∀ p, (if p = 0 then some c else text[p - 1]?) = (c :: text)[p]? := by
      intro p
      cases p <;> rfl
    rw [anchoredFrom, Bool.or_eq_true, hhere, ih]
    simp only [hbefore]
    constructor
    · rintro (⟨rfl, hword, hrest⟩ | ⟨p, hp⟩)
      · exact ⟨0, rfl, hword, hrest⟩
      · exact ⟨p + 1, hp⟩
    · rintro ⟨p, hp⟩
      cases p with
      | zero => exact .inl ⟨Option.some.inj hp.1, hp.2⟩
      | succ p => exact .inr ⟨p, hp⟩

/-! ## Queries that occur -/

/-- A word begins at a position of a text: there is nothing before it, or a separator. -/
def BeginsWord (text : List Char) (p : Nat) : Prop :=
  p = 0 ∨ ∃ c ∈ ['-', '_', '.', '/', ' ', ':'], text[p - 1]? = some c

/-- A query occurs in a text: its characters stand there in order, and the first one begins a
word. -/
def Occurs (query text : List Char) : Prop :=
  query = [] ∨ ∃ places, StandsAt query text places ∧ ∀ p ∈ places.head?, BeginsWord text p

theorem startsWord_iff {text : List Char} {p : Nat} {c : Char} (h : text[p]? = some c) :
    startsWord (if p = 0 then none else text[p - 1]?) = true ↔ BeginsWord text p := by
  unfold BeginsWord
  cases p with
  | zero => simp [startsWord]
  | succ p =>
    obtain ⟨hlt, -⟩ := List.getElem?_eq_some_iff.1 h
    have hp : p < text.length := by omega
    have hbefore : text[p]? = some text[p] := List.getElem?_eq_getElem hp
    simp [startsWord, hbefore, or_assoc]

theorem occurs_cons_iff (first : Char) (rest text : List Char) :
    Occurs (first :: rest) text ↔
      ∃ p, text[p]? = some first ∧ BeginsWord text p ∧ rest.Sublist (text.drop (p + 1)) := by
  constructor
  · rintro (h | ⟨places, hplaces, hword⟩)
    · cases h
    · obtain ⟨p, after, rfl⟩ := hplaces.exists_cons
      obtain ⟨hfirst, hlt, hafter⟩ := standsAt_cons_iff.1 hplaces
      exact ⟨p, hfirst, hword p rfl, (exists_standsAt_iff _ _ _).1 ⟨after, hlt, hafter⟩⟩
  · rintro ⟨p, hfirst, hword, hrest⟩
    obtain ⟨after, hlt, hafter⟩ := (exists_standsAt_iff _ _ _).2 hrest
    refine .inr ⟨p :: after, standsAt_cons_iff.2 ⟨hfirst, hlt, hafter⟩, ?_⟩
    intro q hq
    exact Option.some.inj hq ▸ hword

/-- The characters of a value that are compared with those of a query. -/
def valueChars (value : String) : List Char := value.toList.flatMap lowercase

theorem isAnchored_iff (query value : String) :
    isAnchored query value = true ↔ Occurs (queryChars query) (valueChars value) := by
  unfold isAnchored
  split
  · rename_i hempty
    simp [Occurs, hempty]
  · rename_i first rest hcons
    rw [hcons, occurs_cons_iff, anchoredFrom_iff]
    refine exists_congr fun p => and_congr_right fun hfirst => ?_
    rw [startsWord_iff hfirst]
    rfl

/-! ## Rows of a search -/

/-- The rows of a search are those that have a rank, but for their order. -/
theorem rankedBy_perm (score? : String → String → Option Nat) (s : Snapshot) {text : String}
    (i : Nat) (h : text ≠ "") : (s.rankedBy score? text i).rows.Perm
      (s.rows.filter fun e => (e.rankBy? score? text i).isSome) := by
  simp only [Snapshot.rankedBy, beq_iff_eq, h, if_false, Snapshot.withRows]
  rw [← Snapshot.map_filterMap_rank]
  exact (List.mergeSort_perm _ _).map _

theorem isSome_rankBy?_iff (score? : String → String → Option Nat) (text : String) (i : Nat)
    (e : RowEvent) : (e.rankBy? score? text i).isSome = true ↔ ∃ value,
      e.row.fields[i]? = some value ∧ Occurs (queryChars text) (valueChars value) ∧
        (score? text value).isSome = true := by
  rw [Snapshot.isSome_rankBy?, Option.any_eq_true]
  simp only [Bool.and_eq_true, isAnchored_iff]

/-- What a fuzzy search finds. -/
structure FindsAll (query : String) : Prop where
  /-- A value is let through exactly if the query occurs in it. -/
  anchored (value : String) :
    isAnchored query value = true ↔ Occurs (queryChars query) (valueChars value)
  /-- A search for some text keeps exactly the rows that have the column, with a value that the
  query occurs in and that has a score, whatever the score: each of them as often as it is there,
  and no other. -/
  kept (score? : String → String → Option Nat) (s : Snapshot) (i : Nat) : query ≠ "" →
    ∃ keeps : RowEvent → Bool, (s.rankedBy score? query i).rows.Perm (s.rows.filter keeps) ∧
      ∀ e, keeps e = true ↔ ∃ value, e.row.fields[i]? = some value ∧
        Occurs (queryChars query) (valueChars value) ∧ (score? query value).isSome = true

theorem findsAll_search (query : String) : FindsAll query where
  anchored := isAnchored_iff query
  kept := fun score? s i hquery => ⟨fun e => (e.rankBy? score? query i).isSome,
    rankedBy_perm score? s i hquery, isSome_rankBy?_iff score? query i⟩

/-- The letters may stand apart, but not begin within a word. -/
theorem findsAll_webApi : FindsAll "w A" ∧ Occurs (queryChars "w A") (valueChars "My-Web_api") ∧
    ¬ Occurs (queryChars "ea") (valueChars "My-Web_api") := by
  refine ⟨findsAll_search _, ((findsAll_search _).anchored _).1 (by decide), ?_⟩
  rw [← (findsAll_search _).anchored]
  decide

end ResourceBrowser.Fuzzy
