import ResourceBrowser.Proofs.Table.Selection
import ResourceBrowser.Table.Csv.Reader
import ResourceBrowser.Table.NativeEngine

/-!
# Reading dumps back

A dump can be read back without loss: every name and every cell comes out as it went in, whatever
characters are in it, and every record with its fields. The reader goes through a written field to
its end and no further, so it meets the separators where they were written. The only record that
does not come back is one without fields, which is written like one of an empty field; a table that
shows a column has none.

* `foldlM_field`, `foldlM_record`: how the reader goes through a field and through a line.
* `read?_join_record`: records with fields can be read back.
* `read?_csv_run`: so can the dump of a table.
-/

namespace ResourceBrowser.Table

open Text

namespace Csv

open Reading

variable {place : Place} {field : List Char} {fields : List String} {records : List (List String)}
  {c : Char}

/-! ## Characters -/

theorem isSpecial_eq_false :
    isSpecial c = false ↔ c ≠ ',' ∧ c ≠ '"' ∧ c ≠ '\n' ∧ c ≠ '\r' := by
  simp [isSpecial, and_assoc]

theorem step_quoted (h : c ≠ '"') : step ⟨.quoted, field, fields, records⟩ c =
    some ⟨.quoted, field ++ [c], fields, records⟩ := by
  unfold step
  split <;> simp_all [push]

/-- Outside of quotes a character that is not special belongs to the field. -/
theorem step_bare (hplace : place = .start ∨ place = .bare) (h : isSpecial c = false) :
    step ⟨place, field, fields, records⟩ c = some ⟨.bare, field ++ [c], fields, records⟩ := by
  obtain ⟨hcomma, hquote, hline, hreturn⟩ := isSpecial_eq_false.1 h
  unfold step
  rcases hplace with rfl | rfl <;> split <;> simp_all [push]

theorem step_comma (h : place ≠ .quoted) : step ⟨place, field, fields, records⟩ ',' =
    some ⟨.start, [], fields ++ [.ofList field], records⟩ := by
  cases place with
  | quoted => exact absurd rfl h
  | start | bare | closed => rfl

theorem step_lineFeed (h : place ≠ .quoted) : step ⟨place, field, fields, records⟩ '\n' =
    some ⟨.start, [], [], records ++ [fields ++ [.ofList field]]⟩ := by
  cases place with
  | quoted => exact absurd rfl h
  | start | bare | closed => rfl

/-! ## Fields -/

/-- Between quotes, a text whose quotes are doubled is read as the text. -/
theorem foldlM_doubleQuotes (text field : List Char) :
    (doubleQuotes text).foldlM step ⟨.quoted, field, fields, records⟩ =
      some ⟨.quoted, field ++ text, fields, records⟩ := by
  induction text generalizing field with
  | nil => simp [doubleQuotes]
  | cons c text ih =>
    by_cases hc : c = '"'
    · -- the first quote closes the field, and the second one opens it again
      subst hc
      have hpair : ['"', '"'].foldlM step ⟨.quoted, field, fields, records⟩ =
          some ⟨.quoted, field ++ ['"'], fields, records⟩ := rfl
      have hdouble : doubleQuotes ('"' :: text) = ['"', '"'] ++ doubleQuotes text := by
        simp [doubleQuotes]
      rw [hdouble, List.foldlM_append, hpair, Option.bind_eq_bind, Option.bind_some, ih]
      simp
    · rw [doubleQuotes, if_neg hc, List.foldlM_cons, step_quoted hc, Option.bind_eq_bind,
        Option.bind_some, ih]
      simp

/-- A text without special characters is read as it is. -/
theorem foldlM_bare (text field : List Char) (htext : ∀ c ∈ text, isSpecial c = false)
    (hplace : place = .start ∨ place = .bare) :
    ∃ after, after ≠ .quoted ∧ text.foldlM step ⟨place, field, fields, records⟩ =
      some ⟨after, field ++ text, fields, records⟩ := by
  induction text generalizing place field with
  | nil =>
    refine ⟨place, ?_, by simp⟩
    rcases hplace with rfl | rfl <;> decide
  | cons c text ih =>
    obtain ⟨after, hafter, hread⟩ := ih (field ++ [c])
      (fun d hd => htext d (List.mem_cons_of_mem _ hd)) (.inr rfl)
    refine ⟨after, hafter, ?_⟩
    rw [List.foldlM_cons, step_bare hplace (htext c List.mem_cons_self), Option.bind_eq_bind,
      Option.bind_some, hread]
    simp

/-- A written field is read as the text that it was written for, up to its end. -/
theorem foldlM_field (fields : List String) (records : List (List String)) (text : List Char) :
    ∃ after, after ≠ .quoted ∧ (Csv.field text).foldlM step ⟨.start, [], fields, records⟩ =
      some ⟨after, text, fields, records⟩ := by
  unfold Csv.field
  split
  · -- in quotes: the last one closes the field
    refine ⟨.closed, by decide, ?_⟩
    have hopen : step ⟨.start, [], fields, records⟩ '"' = some ⟨.quoted, [], fields, records⟩ := rfl
    have hclose : step ⟨.quoted, text, fields, records⟩ '"' =
        some ⟨.closed, text, fields, records⟩ := rfl
    simp [hopen, foldlM_doubleQuotes, hclose]
  · rename_i hspecial
    refine foldlM_bare text [] (fun c hc => ?_) (.inl rfl)
    rw [Bool.eq_false_iff]
    exact fun h => hspecial (List.any_eq_true.2 ⟨c, hc, h⟩)

/-! ## Records -/

/-- A written line is read as the fields that it was written for, unless there are none. -/
theorem foldlM_record (records : List (List String)) (f : String) (rest : List String) :
    (record (f :: rest)).toList.foldlM step ⟨.start, [], fields, records⟩ =
      some ⟨.start, [], [], records ++ [fields ++ f :: rest]⟩ := by
  induction rest generalizing f fields with
  | nil =>
    obtain ⟨after, hafter, hread⟩ := foldlM_field fields records f.toList
    simp [record, hread, step_lineFeed hafter]
  | cons g rest ih =>
    obtain ⟨after, hafter, hread⟩ := foldlM_field fields records f.toList
    have hline : (record (f :: g :: rest)).toList =
        Csv.field f.toList ++ ',' :: (record (g :: rest)).toList := by
      simp [record, List.intercalate_cons_cons]
    -- the comma ends the field, and the rest of the line is one of the fields that follow
    rw [hline, List.foldlM_append, hread]
    simp [step_comma hafter, ih]

/-- Written lines are read as the records that they were written for. -/
theorem foldlM_join_record (records lines : List (List String))
    (hlines : ∀ line ∈ lines, line ≠ []) :
    (String.join (lines.map record)).toList.foldlM step ⟨.start, [], [], records⟩ =
      some ⟨.start, [], [], records ++ lines⟩ := by
  induction lines generalizing records with
  | nil => simp
  | cons line lines ih =>
    obtain ⟨f, rest, rfl⟩ := List.exists_cons_of_ne_nil (hlines line List.mem_cons_self)
    have hrest := ih (records ++ [f :: rest])
      fun line hline => hlines line (List.mem_cons_of_mem _ hline)
    rw [String.toList_join] at hrest ⊢
    rw [List.map_cons, List.flatMap_cons, List.foldlM_append, foldlM_record, Option.bind_eq_bind,
      Option.bind_some, List.nil_append, hrest]
    simp

/-- Records that have fields can be read back from the text that is written for them. -/
theorem read?_join_record (lines : List (List String)) (hlines : ∀ line ∈ lines, line ≠ []) :
    read? (String.join (lines.map record)) = some lines := by
  unfold read?
  rw [foldlM_join_record [] lines hlines]
  rfl

/-- A record without fields cannot be told from one that has an empty field. -/
example : read? (record []) = some [[""]] := by decide

end Csv

namespace LiveTable

variable {t : LiveTable}

/-- What is on display as records: the names of the columns, and for every row the texts of its
cells without the blanks at their ends. -/
def records (t : LiveTable) : List (List String) :=
  t.plan.header.map (·.name) :: t.grid.map fun cells => cells.map fun c => trim c.text

theorem csv_eq (t : LiveTable) : t.csv = String.join (t.records.map Csv.record) := rfl

/-- A table that shows a column has a cell in every row. -/
theorem ne_nil_of_mem_grid (h : t.HasCells) (hplan : t.plan.indices ≠ []) {cells : List Cell}
    (hcells : cells ∈ t.grid) : cells ≠ [] := by
  obtain ⟨⟨r, hr, hgrid⟩, hheader⟩ := h
  rw [hgrid] at hcells
  obtain ⟨e, -, rfl⟩ := List.mem_map.1 hcells
  rw [← hr] at hplan hheader
  intro hnil
  have hlength := congrArg List.length hnil
  simp [Rendering.cells, Plan.columns, hheader] at hlength
  exact hplan hlength

/-- A table that shows a column has records with fields only. -/
theorem ne_nil_of_mem_records (h : t.HasCells) (hplan : t.plan.indices ≠ []) {line : List String}
    (hline : line ∈ t.records) : line ≠ [] := by
  rcases List.mem_cons.1 hline with rfl | hline
  · intro hnil
    have hheader := h.plan
    rw [List.map_eq_nil_iff.1 hnil] at hheader
    exact hplan (List.eq_nil_of_length_eq_zero hheader.symm)
  · obtain ⟨cells, hcells, rfl⟩ := List.mem_map.1 hline
    exact fun hnil => ne_nil_of_mem_grid h hplan hcells (List.map_eq_nil_iff.1 hnil)

/-- Whatever operations a table has been through, what it shows can be read back from its dump, if
it shows a column. -/
theorem read?_csv_run [Engine] (kind : String) (ops : List Operation)
    (h : (({ kind } : LiveTable).run ops).plan.indices ≠ []) :
    Csv.read? (({ kind } : LiveTable).run ops).csv =
      some (({ kind } : LiveTable).run ops).records := by
  rw [csv_eq]
  apply Csv.read?_join_record
  intro line hline
  exact ne_nil_of_mem_records (run_induction (hasCells_new kind) hasCells_apply ops) h hline

/-- Two rows with commas, quotes and line breaks, one of them with a field too few. -/
def awkwardRows : Snapshot :=
  ⟨[{ name := "NAME" }, { name := "a,\"b\"\n" }],
    [.ofRow ⟨"1", ["say \"hi\"", " \r\n,"]⟩, .ofRow ⟨"2", [""]⟩], "default"⟩

attribute [local instance] nativeEngine

theorem read?_csv_awkwardRows :
    (({ kind := "pods" } : LiveTable).run [.update awkwardRows]).plan.indices ≠ [] ∧
    Csv.read? (({ kind := "pods" } : LiveTable).run [.update awkwardRows]).csv =
      some (({ kind := "pods" } : LiveTable).run [.update awkwardRows]).records := by
  have hplan : (({ kind := "pods" } : LiveTable).run [.update awkwardRows]).plan.indices ≠ [] := by
    show (refresh _).plan.indices ≠ []
    rw [refresh_plan]
    decide
  exact ⟨hplan, read?_csv_run "pods" [.update awkwardRows] hplan⟩

end LiveTable

end ResourceBrowser.Table
