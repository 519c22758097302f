import ResourceBrowser.Proofs.Table.VisibleRows

/-!
# Refused queries

A query that is no valid pattern is noticed in the middle of a drawing, which goes on without it. A
table never keeps such a query, so that it can be noticed only where a query is set; and apart from
the message, setting it comes to the same as setting the empty one.

* `setQuery_of_not_isValid`: what a refused query leaves behind.
* `query_apply_of_keepsQuery`: no other drawing refuses a query.
* `RefusesInvalid`: what holds of a table, `refusesInvalid_run`.
-/

namespace ResourceBrowser.Table

/-- True for the operations that draw a table anew and leave it to the query that it has. -/
def Operation.keepsQuery : Operation → Bool
  | .update _ | .setViewColumns _ | .refresh | .toggleWide | .toggleFaults | .resetFaults
  | .sortBy _ _ | .invertSort | .toggleMark | .clearMarks => true
  | _ => false

namespace LiveTable

variable {t : LiveTable}

/-! ## Drawing with a message -/

theorem settleSelection_lastError (t : LiveTable) (lastError : Option String) :
    ({ t with lastError } : LiveTable).settleSelection =
      { t.settleSelection with lastError } := by
  unfold settleSelection
  dsimp only
  split <;> rfl

/-- A message does not show in a drawing. -/
theorem draw_lastError (t : LiveTable) (lastError : Option String) (shown : Snapshot) :
    ({ t with lastError } : LiveTable).draw shown = { t.draw shown with lastError } := by
  obtain ⟨u, hdraw, hnoted⟩ : ∃ u : LiveTable, t.draw shown = u.settleSelection ∧
      ({ t with lastError } : LiveTable).draw shown =
        ({ u with lastError } : LiveTable).settleSelection := ⟨_, rfl, rfl⟩
  rw [hdraw, hnoted, settleSelection_lastError]

section

variable [Engine]

/-- Drawing a query that can be read leaves no message. -/
theorem refresh_lastError (h : (Query.read t.query).IsValid) :
    t.refresh.lastError = t.lastError := by
  obtain ⟨shown, -, hdraw⟩ := refresh_of_isValid h
  obtain ⟨_, _, _, _, _, _, _, _, hframe⟩ := draw_frame t shown
  rw [hdraw, hframe]

/-! ## Setting a query -/

/-- A query that cannot be read is refused: it leaves what the empty query leaves, and a message
with what the engine says. -/
theorem setQuery_of_not_isValid {query : String} (h : ¬(Query.read query).IsValid) :
    ∃ message, Engine.compile query = .error message ∧ ∀ t : LiveTable, t.setQuery query =
      ({ (t.setQuery "").1 with lastError := some (InvalidExpression.mk query message).text },
        some ⟨query, message⟩) := by
  obtain ⟨message, hcompile, hfilter⟩ := Snapshot.filter_of_not_isValid h
  refine ⟨message, hcompile, fun t => ?_⟩
  have hempty : t.setQuery "" =
      (({ t with query := "", trackedId := none, selected := 0 } : LiveTable).draw t.base, none) :=
    rfl
  have hrefused : t.base.filter query = .error ⟨query, message⟩ := hfilter t.base
  have hset : t.setQuery query =
      (({ t with
          query := "", trackedId := none, selected := 0
          lastError := some (InvalidExpression.mk query message).text } : LiveTable).draw t.base,
        some ⟨query, message⟩) := by
    show ({ t with query, trackedId := none, selected := 0 } : LiveTable).redraw = _
    have hbase : ({ t with query, trackedId := none, selected := 0 } : LiveTable).base = t.base :=
      rfl
    unfold redraw
    rw [hbase, hrefused]
  rw [hset, hempty, ← draw_lastError]

/-- Where no query is set, the one that is there is drawn again, and no message is left. -/
theorem query_apply_of_keepsQuery (h : (Query.read t.query).IsValid) {op : Operation}
    (hop : op.keepsQuery = true) :
    (t.apply op).1.query = t.query ∧ (t.apply op).1.lastError = t.lastError := by
  cases op with
  | update _ | setViewColumns _ | refresh | toggleWide | toggleFaults | resetFaults | sortBy _ _
  | invertSort | clearMarks => exact ⟨refresh_query h, refresh_lastError h⟩
  | toggleMark =>
    show t.toggleMark.query = t.query ∧ t.toggleMark.lastError = t.lastError
    unfold toggleMark
    split
    · exact ⟨rfl, rfl⟩
    · exact ⟨refresh_query h, refresh_lastError h⟩
  | setKind _ | typeFilter _ | eraseFilter | setQuery _ | clearFilter | up _ | down _ | home | last
  | noteError _ | setPath _ | setColorer _ | setDecorate _ | setMetrics _ | setSort _ _
  | activateFilter | deactivateFilter | takeError => cases hop

/-! ## After a history -/

/-- A table has a query that can be read, and refuses every other one. -/
structure RefusesInvalid (t : LiveTable) : Prop where
  valid : (Query.read t.query).IsValid
  /-- No drawing drops the query that is there. -/
  kept (op : Operation) : op.keepsQuery = true →
    (t.apply op).1.query = t.query ∧ (t.apply op).1.lastError = t.lastError
  /-- A query that cannot be read is answered with the fault, and leaves the unfiltered view and the
  text of the fault. -/
  refused (query : String) : ¬(Query.read query).IsValid →
    ∃ message, Engine.compile query = .error message ∧ t.setQuery query =
      ({ (t.setQuery "").1 with lastError := some (InvalidExpression.mk query message).text },
        some ⟨query, message⟩)

/-- Whatever operations a table has been through, it refuses queries that cannot be read. -/
theorem refusesInvalid_run (kind : String) (ops : List Operation) :
    (({ kind } : LiveTable).run ops).RefusesInvalid := by
  have hholds := run_induction (holdsWanted_new kind) holdsWanted_apply ops
  refine ⟨hholds.valid, fun _ hop => query_apply_of_keepsQuery hholds.valid hop, fun query h => ?_⟩
  obtain ⟨message, hcompile, hset⟩ := setQuery_of_not_isValid h
  exact ⟨message, hcompile, hset _⟩

end

/-- What is said of a group that is left open. -/
def openGroupMessage : String := "regex parse error:\n    zz(\n      ^\nerror: unclosed group"

/-- An engine that says so. -/
@[reducible] def openGroupEngine : Engine where
  compile text := if text = "zz(" then .error openGroupMessage else nativeEngine.compile text
  score? := nativeEngine.score?

attribute [local instance] openGroupEngine

/-- A group that is left open is refused, whatever was asked for before. -/
theorem refused_openGroup : ¬(Query.read "zz(").IsValid ∧
    (({ kind := "pods" } : LiveTable).run [.update threePods, .setQuery "web"]).setQuery "zz(" =
      ({ ((({ kind := "pods" } : LiveTable).run [.update threePods, .setQuery "web"]).setQuery
            "").1 with
          lastError := some ("invalid filter expression \"zz(\": " ++ openGroupMessage) },
        some ⟨"zz(", openGroupMessage⟩) := by
  have hcompile : Engine.compile "zz(" = .error openGroupMessage := if_pos rfl
  have hinvalid : ¬(Query.read "zz(").IsValid := by
    intro h
    obtain ⟨isMatch, hmatch⟩ := h "zz(" rfl
    rw [hcompile] at hmatch
    cases hmatch
  refine ⟨hinvalid, ?_⟩
  obtain ⟨message, hmessage, hset⟩ :=
    (refusesInvalid_run "pods" [.update threePods, .setQuery "web"]).refused "zz(" hinvalid
  obtain rfl : openGroupMessage = message := Except.error.inj (hcompile.symm.trans hmessage)
  have htext : (InvalidExpression.mk "zz(" openGroupMessage).text =
      "invalid filter expression \"zz(\": " ++ openGroupMessage := by decide +kernel
  rw [← htext]
  exact hset

end LiveTable

end ResourceBrowser.Table
