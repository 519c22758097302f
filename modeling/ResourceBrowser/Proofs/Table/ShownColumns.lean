import ResourceBrowser.Config
import ResourceBrowser.Proofs.Table.Plan

/-!
# The shown columns

Which columns a plan shows follows from the settings, column by column: the display mode decides, or
else a list of names, and nothing of a namespace or of metrics is shown where there are none. The
positions of a plan are positions in the full header.

The columns of the full header have different names. Those of a plan need not: a list of names can
ask for a column twice, and then it is shown twice, under one name.

* `Admits`, `offers`: the columns that may be shown, and what a name stands for.
* `Arranges`: which columns a plan shows and where, `arranges_plan`.
* `IsDistinct`, `isDistinct_plan_iff`: when no column is shown twice.
-/

namespace ResourceBrowser.Table

/-- No column is shown twice. -/
structure Plan.IsDistinct (p : Plan) : Prop where
  names : (p.header.map (·.name)).Nodup
  indices : p.indices.Nodup

namespace ColumnOptions

/-- Column `c` may be shown: the namespace only next to rows of other namespaces, and metrics only
where there are some. -/
def Admits (o : ColumnOptions) (c : Column) : Prop :=
  (c.name = namespaceColumn → o.clusterWide = true) ∧ (c.metric = true → o.metrics = true)

instance decidablePredAdmits (o : ColumnOptions) : DecidablePred o.Admits :=
  fun _ => inferInstanceAs (Decidable (_ ∧ _))

/-- True for the names of the columns of `header` that may be shown. -/
def offers (o : ColumnOptions) (header : Header) (name : String) : Bool :=
  header.any fun c => decide (c.name = name ∧ o.Admits c)

variable (o : ColumnOptions) (header : Header)

theorem admits_iff {c : Column} : o.admits c = true ↔ o.Admits c := by
  unfold admits Admits
  cases o.clusterWide <;> cases o.metrics <;> simp

/-- A position is shown if it is among the candidates and its column may be shown. -/
theorem mem_indices_iff {i : Nat} : i ∈ (o.plan header).indices ↔
    i ∈ o.candidates header ∧ ∃ c, header[i]? = some c ∧ o.Admits c := by
  unfold plan
  rw [List.mem_filter]
  refine and_congr_right fun _ => ?_
  cases header[i]? with
  | none => simp
  | some c => simpa using admits_iff o

/-! ## Columns by the display mode -/

/-- Without a list of names, the candidates are the columns of the display mode. -/
theorem mem_candidates_iff (h : o.explicit = []) {i : Nat} : i ∈ o.candidates header ↔
    ∃ c, header[i]? = some c ∧ (c.wide = true → o.wide = true) := by
  have hcandidates : o.candidates header = (List.range header.length).filter fun i =>
      (header[i]?.map fun c => o.wide || !c.wide).getD false := by
    unfold candidates
    rw [h]
    rfl
  rw [hcandidates, List.mem_filter, List.mem_range]
  constructor
  · rintro ⟨hlt, hmode⟩
    rw [List.getElem?_eq_getElem hlt] at hmode
    refine ⟨_, List.getElem?_eq_getElem hlt, ?_⟩
    intro hwide
    simpa [hwide] using hmode
  · rintro ⟨c, hc, hmode⟩
    refine ⟨(List.getElem?_eq_some_iff.1 hc).1, ?_⟩
    rw [hc]
    cases hwide : c.wide with
    | false => simp [hwide]
    | true => simp [hmode hwide]

/-- Without a list of names, the columns are shown in order of the header. -/
theorem pairwise_indices (h : o.explicit = []) :
    (o.plan header).indices.Pairwise (· < ·) := by
  have hcandidates : (o.candidates header).Pairwise (· < ·) := by
    unfold candidates
    rw [h]
    exact List.pairwise_lt_range.filter _
  exact hcandidates.filter _

/-! ## Columns by a list of names -/

section

variable {header}

/-- The only column of a name is the one that is found by it. -/
theorem offers_of_indexOf? (hnames : (header.map (·.name)).Nodup) {name : String} {i : Nat}
    (h : header.indexOf? name true = some i) :
    ∃ c, header[i]? = some c ∧ c.name = name ∧ (o.offers header name = true ↔ o.Admits c) := by
  obtain ⟨c, hc, hname⟩ := Option.map_eq_some_iff.1 (name_of_indexOf? header h)
  refine ⟨c, hc, hname, ?_⟩
  unfold offers
  rw [List.any_eq_true]
  constructor
  · rintro ⟨d, hd, hoffers⟩
    obtain ⟨hdname, hadmits⟩ := of_decide_eq_true hoffers
    have hsame : d = c :=
      List.inj_on_of_nodup_map hnames hd (List.mem_of_getElem? hc) (hdname.trans hname.symm)
    exact hsame ▸ hadmits
  · intro hadmits
    exact ⟨c, List.mem_of_getElem? hc, decide_eq_true ⟨hname, hadmits⟩⟩

/-- A name that nothing is found by is not offered. -/
theorem offers_eq_false {name : String} (h : header.indexOf? name true = none) :
    o.offers header name = false := by
  unfold offers
  rw [List.any_eq_false]
  intro c hc hoffers
  obtain ⟨hname, -⟩ := of_decide_eq_true hoffers
  have hother := List.findIdx?_eq_none_iff.1 h c hc
  simp [hname] at hother

/-- A list of names shows the columns of those names that are offered, in order of the list. -/
theorem map_name_plan (hnames : (header.map (·.name)).Nodup) (h : o.explicit ≠ []) :
    (o.plan header).header.map (·.name) = o.explicit.filter (o.offers header) := by
  have hindices : (o.plan header).indices = o.explicit.filterMap fun name =>
      (header.indexOf? name true).filter fun i => (header[i]?.map o.admits).getD false := by
    have hexplicit : o.explicit.isEmpty = false := by
      rwa [List.isEmpty_eq_false_iff]
    unfold plan candidates
    rw [hexplicit]
    exact List.filter_filterMap
  rw [map_name_header, hindices, List.filterMap_filterMap, ← List.filterMap_eq_filter]
  -- name by name, what is found is shown under that name or not at all
  apply List.filterMap_congr
  intro name _
  cases hindex : header.indexOf? name true with
  | none => simp [Option.guard, offers_eq_false o hindex]
  | some i =>
    obtain ⟨c, hc, hname, hoffers⟩ := offers_of_indexOf? o hnames hindex
    rw [← admits_iff, ← Bool.eq_iff_iff] at hoffers
    rw [Option.guard, hoffers, Option.filter_some]
    cases hadmits : o.admits c <;> simp [hc, hname, hadmits]

end

/-! ## The plan as a whole -/

/-- Which columns the plan of `o` for `header` shows, and in what order. -/
structure Arranges (o : ColumnOptions) (header : Header) : Prop where
  length : (o.plan header).header.length = (o.plan header).indices.length
  /-- A position is one of a column, and this column is shown at the place of the position. -/
  place (j i : Nat) : (o.plan header).indices[j]? = some i →
    i < header.length ∧ (o.plan header).header[j]? = header[i]?
  admitted (c : Column) : c ∈ (o.plan header).header → o.Admits c
  /-- Without a list of names, the columns of the display mode are shown in order of the header. -/
  byMode : o.explicit = [] → (o.plan header).indices.Pairwise (· < ·) ∧
    ∀ i, i ∈ (o.plan header).indices ↔
      ∃ c, header[i]? = some c ∧ (c.wide = true → o.wide = true) ∧ o.Admits c
  /-- With one, the columns that are known and admitted are shown in order of the list. -/
  byName : o.explicit ≠ [] →
    (o.plan header).header.map (·.name) = o.explicit.filter (o.offers header)
  /-- The display mode does not matter then. -/
  anyMode : o.explicit ≠ [] → ∀ wide : Bool,
    ({ o with wide } : ColumnOptions).plan header = o.plan header

theorem arranges_plan (hnames : (header.map (·.name)).Nodup) : Arranges o header where
  length := length_header o header
  place := by
    intro j i hi
    obtain ⟨-, c, hc, -⟩ := (mem_indices_iff o header).1 (List.mem_of_getElem? hi)
    exact ⟨(List.getElem?_eq_some_iff.1 hc).1, getElem?_header o header hi⟩
  admitted := by
    intro c hc
    have hmem : some c ∈ (o.plan header).indices.map fun i => header[i]? := by
      rw [← map_some_header]
      exact List.mem_map_of_mem hc
    obtain ⟨i, hi, hcolumn⟩ := List.mem_map.1 hmem
    obtain ⟨-, d, hd, hadmits⟩ := (mem_indices_iff o header).1 hi
    obtain rfl : c = d := Option.some.inj (hcolumn.symm.trans hd)
    exact hadmits
  byMode := by
    intro h
    refine ⟨pairwise_indices o header h, ?_⟩
    intro i
    rw [mem_indices_iff, mem_candidates_iff o header h]
    constructor
    · rintro ⟨⟨c, hc, hmode⟩, d, hd, hadmits⟩
      obtain rfl : c = d := Option.some.inj (hc.symm.trans hd)
      exact ⟨c, hc, hmode, hadmits⟩
    · rintro ⟨c, hc, hmode, hadmits⟩
      exact ⟨⟨c, hc, hmode⟩, c, hc, hadmits⟩
  byName := map_name_plan o hnames
  anyMode := by
    intro h wide
    have hexplicit : o.explicit.isEmpty = false := by
      rwa [List.isEmpty_eq_false_iff]
    unfold plan candidates admits
    rw [hexplicit]
    rfl

/-- A column that is shown twice is shown under one name. -/
theorem nodup_indices_of_nodup_names (h : ((o.plan header).header.map (·.name)).Nodup) :
    (o.plan header).indices.Nodup := by
  have hnamed : ((o.plan header).indices.map fun i => header[i]?.map (·.name)) =
      ((o.plan header).header.map (·.name)).map some := by
    have hmap := congrArg (List.map (Option.map Column.name)) (map_some_header o header)
    simpa [Function.comp_def] using hmap.symm
  have hsome : (((o.plan header).header.map (·.name)).map some).Nodup :=
    h.map fun _ _ => Option.some.inj
  rw [← hnamed] at hsome
  exact hsome.of_map

/-- The plan for a header of different names shows the columns that it is to show, and none of them
twice exactly if no column that may be shown is asked for twice. -/
theorem isDistinct_plan_iff (hnames : (header.map (·.name)).Nodup) :
    Arranges o header ∧
      ((o.plan header).IsDistinct ↔ (o.explicit.filter (o.offers header)).Nodup) := by
  refine ⟨arranges_plan o header hnames, ?_⟩
  by_cases h : o.explicit = []
  · -- positions in order are all different
    have hindices : (o.plan header).indices.Nodup :=
      (pairwise_indices o header h).imp Nat.ne_of_lt
    rw [h]
    simp only [List.filter_nil, List.nodup_nil, iff_true]
    exact ⟨nodup_names_of_nodup_indices o header hnames hindices, hindices⟩
  · rw [← map_name_plan o hnames h]
    constructor
    · exact Plan.IsDistinct.names
    · intro hshown
      exact ⟨hshown, nodup_indices_of_nodup_names o header hshown⟩

/-! ## Two lists of names -/

/-- Columns of pods, one of them for the wide mode and one for metrics. -/
def podColumns : Header :=
  [{ name := "NAMESPACE" }, { name := "NAME" }, { name := "CPU", metric := true },
    { name := "IP", wide := true }, { name := "AGE", time := true }]

/-- What is not shown can be asked for as often as one likes. -/
theorem isDistinct_backwards :
    let o : ColumnOptions := { explicit := ["AGE", "CPU", "IP", "CPU", "NODE", "NAME", "NODE"] }
    (podColumns.map (·.name)).Nodup ∧ (o.plan podColumns).IsDistinct ∧
      (o.plan podColumns).indices = [4, 3, 1] := by
  intro o
  have hnames : (podColumns.map (·.name)).Nodup := by decide
  have hasked : (o.explicit.filter (o.offers podColumns)).Nodup := by decide
  exact ⟨hnames, (isDistinct_plan_iff o podColumns hnames).2.2 hasked, by decide⟩

/-- A configuration that asks for the name twice. -/
def nameTwice : String :=
  "\x7b\"views\": \x7b\"pods\": \x7b\"columns\": [\"NAME\", \"NAME\"]\x7d\x7d\x7d"

/-- The name is shown twice, under one name and from one position. -/
theorem not_isDistinct_nameTwice : ∃ c, Config.read? nameTwice = some c ∧
    let o : ColumnOptions := { explicit := c.columns "pods" }
    (podColumns.map (·.name)).Nodup ∧
      ¬((o.plan podColumns).header.map (·.name)).Nodup ∧ ¬(o.plan podColumns).indices.Nodup := by
  refine ⟨{ views := [("pods", ["NAME", "NAME"])] }, ?_, ?_⟩
  · decide +kernel
  · decide

end ColumnOptions

end ResourceBrowser.Table
