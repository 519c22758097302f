import ResourceBrowser.Proofs.Table.Selecting

/-!
# The faults mode and queries

The faults mode and a query can be applied one after the other in either order. For a fuzzy search
this is about the order of the rows too: ranking the unhealthy rows has to come to the same as
taking the unhealthy rows of a ranking, whatever the scores are and however many rows share one.

* `filter_wanted`: the rows that both want do not depend on what is applied first.
* `rows_filter_faults`: nor does the order they end up in.
* `Composes`: what the two come to together, `composes_faults_filter`.
-/

namespace ResourceBrowser.Table.Snapshot

variable [Engine] {s shown both : Snapshot} {query : String}

/-! ## Rows that both want -/

/-- What a query keeps of the unhealthy rows is what is unhealthy of the rows that it keeps. -/
theorem filter_wanted (s : Snapshot) (query : String) :
    s.faults.rows.filter ((Query.read query).keeps s.faults.header) =
      (s.rows.filter ((Query.read query).keeps s.header)).filter (·.isFaulty s.header) := by
  rw [faults_rows, faults_header]
  exact List.filter_comm _ _ _

/-- A query puts the unhealthy rows into the order that they have among all rows it leaves. -/
theorem rows_filter_faults (h : s.filter query = .ok shown)
    (hboth : s.faults.filter query = .ok both) : both.rows = shown.faults.rows := by
  rw [faults_rows, header_filter h]
  cases hranks : (Query.read query).ranks with
  | false => rw [filter_rows hboth hranks, filter_rows h hranks, filter_wanted]
  | true =>
    obtain ⟨text, hquery, htext⟩ := Query.exists_of_ranks hranks
    have hsome := (stablySorted_filter h hquery htext).filter (·.isFaulty s.header)
    have hall := stablySorted_filter hboth hquery htext
    -- both are the one stable order of the rows that are unhealthy and kept
    rw [filter_wanted, faults_header] at hall
    exact hsome.eq hall

/-! ## In either order -/

/-- A query that is applied to the unhealthy rows leaves the unhealthy ones of what it leaves. -/
theorem filter_faults (h : s.filter query = .ok shown) :
    s.faults.filter query = .ok shown.faults := by
  obtain ⟨both, hboth⟩ := exists_filter_of_isValid s.faults (isValid_of_filter h)
  have hsame : both = s.faults.withRows shown.faults.rows := by
    rw [filter_eq_withRows hboth, rows_filter_faults h hboth]
  have hfaults : s.faults.withRows shown.faults.rows = shown.faults := by
    have hheader : s.faults.header = shown.faults.header := by
      rw [faults_header, faults_header, header_filter h]
    have hns : s.faults.ns = shown.faults.ns := by
      rw [faults_ns, faults_ns, ns_filter h]
    rw [withRows, hheader, hns]
  rw [hboth, hsame, hfaults]

/-- A query and the faults mode are independent of each other: they can be applied in either order,
and leave the rows that both want. -/
structure Composes (query : String) (s : Snapshot) : Prop where
  /-- What is refused is refused in either order. -/
  swap : s.faults.filter query = (s.filter query).map faults
  /-- The rows that are unhealthy, or about which the table cannot tell, and that the query keeps
  are left, in the order of the query. -/
  rows (shown both : Snapshot) : s.filter query = .ok shown → s.faults.filter query = .ok both →
    both.rows.Sublist shown.rows ∧
      both.rows.Perm (s.rows.filter fun e =>
        e.isFaulty s.header && (Query.read query).keeps s.header e)

/-- Whatever the snapshot and the query are, the faults mode can come first or last. -/
theorem composes_faults_filter (query : String) (s : Snapshot) : Composes query s where
  swap := by
    by_cases hvalid : (Query.read query).IsValid
    · obtain ⟨shown, hshown⟩ := exists_filter_of_isValid s hvalid
      rw [filter_faults hshown, hshown]
      rfl
    · obtain ⟨message, -, hrefused⟩ := filter_of_not_isValid hvalid
      rw [hrefused s, hrefused s.faults]
      rfl
  rows := by
    intro shown both hshown hboth
    obtain rfl : shown.faults = both := Except.ok.inj ((filter_faults hshown).symm.trans hboth)
    rw [faults_rows, header_filter hshown]
    refine ⟨List.filter_sublist, ?_⟩
    have hkept := (perm_filter hshown).filter (·.isFaulty s.header)
    rwa [List.filter_filter] at hkept

end ResourceBrowser.Table.Snapshot
