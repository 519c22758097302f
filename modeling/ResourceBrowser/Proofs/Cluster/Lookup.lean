import ResourceBrowser.Proofs.Cluster.Churn
import ResourceBrowser.Proofs.Text.Blank

/-!
# Rows looked up by their ids

The id of a row is the path of its resource, and a path can be taken apart again as long as
namespaces hold no slash. So whoever has a listing finds every resource of it, until the simulation
moves on: the selector that the listing was made with is met by what it lists.

* `Scope.split_path`: paths taken apart.
* `Addressed`: resources that are told apart by their paths, `find?_of_mem_resources`.
* `activeText`: the text of the selector in force, `readSelector_activeText`.
* `FindsRows`: what looking up the rows of a listing gives, `findsRows_run`.
-/

namespace ResourceBrowser

open Table Text Number

/-! ## Paths -/

/-- A namespace that leaves a mark in paths which can be found again. -/
structure Scope.IsProper (ns : String) : Prop where
  ne_empty : ns ≠ ""
  ne_cluster : ns ≠ Scope.cluster
  noSlash : '/' ∉ ns.toList

instance (ns : String) : Decidable (Scope.IsProper ns) :=
  decidable_of_iff (ns ≠ "" ∧ ns ≠ Scope.cluster ∧ '/' ∉ ns.toList)
    ⟨fun h => ⟨h.1, h.2.1, h.2.2⟩, fun h => ⟨h.1, h.2, h.3⟩⟩

theorem Scope.toList_path {ns : String} (h : Scope.IsProper ns) (name : String) :
    (Scope.path ns name).toList = ns.toList ++ '/' :: name.toList := by
  have hnone : (ns == "" || Scope.isCluster ns) = false := by
    simp [Scope.isCluster, h.ne_empty, h.ne_cluster]
  rw [Scope.path, hnone, if_neg Bool.false_ne_true, String.toList_append, String.toList_append,
    List.append_assoc]
  rfl

theorem Scope.split_of_toList {path : String} {ns name : List Char} (hslash : '/' ∉ ns)
    (h : path.toList = ns ++ '/' :: name) :
    Scope.split path = (.ofList ns, .ofList name) := by
  unfold Scope.split
  rw [h, splitFirst_append hslash]

/-- Taking a path apart gives what it was made of. -/
theorem Scope.split_path {ns : String} (h : Scope.IsProper ns) (name : String) :
    Scope.split (Scope.path ns name) = (ns, name) := by
  rw [Scope.split_of_toList h.noSlash (Scope.toList_path h name), String.ofList_toList,
    String.ofList_toList]

namespace Cluster

/-! ## Resources told apart by their paths -/

/-- Pods and nodes of a start that are told apart, from each other and from any backup job. -/
structure Identified (pods : List Pod) (nodes : List Node) : Prop where
  nodeNames : (nodes.map (·.name)).Nodup
  podNames : (pods.map fun p => (p.ns, p.name)).Nodup
  noBackup (p : Pod) : p ∈ pods → p.isBackup = false
  isProper (p : Pod) : p ∈ pods → Scope.IsProper p.ns

theorem distinct_of_identified {pods : List Pod} {nodes : List Node} (h : Identified pods nodes) :
    Distinct pods := by
  refine ⟨?_, h.noBackup, ?_⟩
  · -- paths that can be taken apart differ where what they were made of differs
    apply List.Nodup.of_map Scope.split
    rw [List.map_map]
    have hsplit : pods.map (Scope.split ∘ Pod.path) = pods.map fun p => (p.ns, p.name) :=
      List.map_congr_left fun p hp => Scope.split_path (h.isProper p hp) p.name
    rw [hsplit]
    exact h.podNames
  · intro p hp hprefix
    obtain ⟨rest, hrest⟩ := hprefix
    have hstem : "default/backup-".toList = "default".toList ++ '/' :: backupStem.toList := by
      decide +kernel
    have hreserved : p.path.toList = "default".toList ++ '/' :: (backupStem.toList ++ rest) := by
      rw [← hrest, hstem, List.append_assoc, List.cons_append]
    have hsplit := Scope.split_path (h.isProper p hp) p.name
    rw [← Pod.path, Scope.split_of_toList (by decide) hreserved] at hsplit
    have hname : p.name = .ofList (backupStem.toList ++ rest) := (congrArg Prod.snd hsplit).symm
    have hbackup : p.isBackup = true := by
      rw [Pod.isBackup, hname, String.toList_ofList, List.isPrefixOf_iff_prefix]
      exact List.prefix_append _ _
    rw [h.noBackup p hp] at hbackup
    cases hbackup

/-- A cluster whose resources are told apart by their paths. -/
structure Addressed (c : Cluster) : Prop where
  nodes : (c.nodes.map (·.name)).Nodup
  pods : (c.pods.map Pod.path).Nodup
  namespaces (p : Pod) : p ∈ c.pods → Scope.IsProper p.ns

theorem isProper_default : Scope.IsProper "default" := by decide

theorem addressed_of_stepped {pods : List Pod} {nodes : List Node} (h : Identified pods nodes)
    {n : Nat} {c : Cluster} (hstepped : c.Stepped pods n)
    (hnodes : c.nodes.map (·.name) = nodes.map (·.name)) : c.Addressed := by
  refine ⟨?_, nodup_paths (distinct_of_identified h) hstepped, ?_⟩
  · rw [hnodes]
    exact h.nodeNames
  · intro p hp
    have hlasting : p.lasting ∈ pods.map Pod.lasting ++ (latestBackups n).map backupLasting := by
      rw [← hstepped.pods]
      exact List.mem_map_of_mem hp
    have hns : p.ns = p.lasting.ns := rfl
    rw [hns]
    rcases List.mem_append.1 hlasting with hinitial | hbackup
    · obtain ⟨q, hq, heq⟩ := List.mem_map.1 hinitial
      rw [← heq]
      exact h.isProper q hq
    · obtain ⟨step, -, heq⟩ := List.mem_map.1 hbackup
      rw [← heq]
      exact isProper_default

/-! ## Looking up -/

/-- What is asked for is found, if nothing else is. -/
theorem find?_of_unique {α : Type} {l : List α} {p : α → Bool} {a : α} (ha : a ∈ l)
    (hp : p a = true) (hunique : ∀ b ∈ l, p b = true → b = a) : l.find? p = some a := by
  cases hfound : l.find? p with
  | none => exact absurd hp (List.find?_eq_none.1 hfound a ha)
  | some b => rw [hunique b (List.mem_of_find?_eq_some hfound) (List.find?_some hfound)]

variable {c : Cluster}

theorem find?_pod (h : c.Addressed) {p : Pod} (hp : p ∈ c.pods) :
    c.find? .pods p.path = some (.pod p) := by
  have hfound : (c.pods.find? fun q => q.ns == p.ns && q.name == p.name) = some p := by
    refine find?_of_unique hp (by simp) ?_
    intro q hq hsame
    simp only [Bool.and_eq_true, beq_iff_eq] at hsame
    refine List.inj_on_of_nodup_map h.pods hq hp ?_
    rw [Pod.path, Pod.path, hsame.1, hsame.2]
  unfold find? Pod.path
  dsimp only
  rw [Scope.split_path (h.namespaces p hp), hfound, Option.map_some]

theorem find?_node (h : c.Addressed) {n : Node} (hn : n ∈ c.nodes) :
    c.find? .nodes n.name = some (.node n) := by
  have hfound : (c.nodes.find? fun m => m.name == n.name) = some n := by
    refine find?_of_unique hn (by simp) ?_
    intro m hm hsame
    exact List.inj_on_of_nodup_map h.nodes hm hn (beq_iff_eq.1 hsame)
  unfold find?
  dsimp only
  rw [hfound, Option.map_some]

/-- Whatever is listed is found at its path. -/
theorem find?_of_mem_resources (h : c.Addressed) {r : Resource} (hr : r ∈ c.resources) :
    c.find? c.kind r.path = some r := by
  unfold resources at hr
  cases hkind : c.kind with
  | pods =>
    rw [hkind] at hr
    obtain ⟨p, hp, rfl⟩ := List.mem_map.1 hr
    exact find?_pod h (List.mem_of_mem_filter (List.mem_of_mem_filter hp))
  | nodes =>
    rw [hkind] at hr
    obtain ⟨n, hn, rfl⟩ := List.mem_map.1 hr
    exact find?_node h (List.mem_of_mem_filter hn)

/-- Whatever is listed meets the selector in force. -/
theorem accepts_of_mem_resources {r : Resource} (hr : r ∈ c.resources) :
    c.selector.accepts r.labels = true := by
  unfold resources at hr
  split at hr
  · obtain ⟨n, hn, rfl⟩ := List.mem_map.1 hr
    exact (List.mem_filter.1 hn).2
  · obtain ⟨p, hp, rfl⟩ := List.mem_map.1 hr
    exact (List.mem_filter.1 hp).2

theorem find?_of_sameWorld {d : Cluster} (h : c.SameWorld d) (kind : Kind) (path : String) :
    c.find? kind path = d.find? kind path := by
  unfold find?
  rw [h.pods, h.nodes]

theorem ofAlias?_name (kind : Kind) : Kind.ofAlias? kind.name = some kind := by
  cases kind <;> decide +kernel

/-- What is found at a path is the answer, if it meets the selector. -/
theorem get_of_find? {kind : Kind} {path : String} {r : Resource} {text : Option String}
    {selector : Selector} (hfound : c.find? kind path = some r)
    (hread : readSelector text = .ok selector) (haccepts : selector.accepts r.labels = true) :
    c.get kind.name path text = .ok r := by
  unfold get
  rw [ofAlias?_name, hread]
  dsimp only [bind, Except.bind]
  rw [hfound, Option.filter_some, if_pos haccepts]

/-! ## The selector in force -/

/-- The text of the selector in force after a request. A selector that is refused changes nothing,
and with another kind there is none. -/
def textAfter (c : Cluster) (text : Option String) (r : Request) : Option String :=
  match r with
  | .setKind kind => if (c.settle (c.setKind kind)).1.kind = c.kind then text else none
  | .setSelector selector =>
    match c.setSelector selector with
    | .ok _ => selector
    | .error _ => text
  | .setNamespace _ | .advance _ | .refresh _ | .peek | .get _ _ _ => text

/-- The text of the selector in force after requests, as far as they are answered. -/
def activeText (c : Cluster) (text : Option String) : List Request → Option String
  | [] => text
  | r :: rest =>
    match c.serve? r with
    | none => text
    | some (d, _) => d.activeText (c.textAfter text r) rest

theorem readSelector_textAfter {text : Option String} (h : readSelector text = .ok c.selector)
    {r : Request} {p : Cluster × Answer} (hp : c.serve? r = some p) :
    readSelector (c.textAfter text r) = .ok p.1.selector := by
  cases r with
  | setKind kind =>
    obtain rfl := Option.some.inj hp
    rcases setKind_cases c kind with ⟨e, hset⟩ | hset | ⟨k, hk, hset⟩
    · simpa [textAfter, hset] using h
    · simpa [textAfter, hset] using h
    · simp [textAfter, hset, hk, readSelector]
  | setSelector selector =>
    obtain rfl := Option.some.inj hp
    cases hread : readSelector selector with
    | error e => simpa [textAfter, setSelector_eq, hread, Except.map] using h
    | ok s => simp [textAfter, setSelector_eq, hread, Except.map]
  | setNamespace ns =>
    obtain rfl := Option.some.inj hp
    rw [setNamespace_selector]
    exact h
  | refresh now =>
    obtain ⟨⟨d, s⟩, hd, rfl⟩ := Option.map_eq_some_iff.1 hp
    rw [(refresh?_frame hd).2]
    exact h
  | advance now =>
    obtain ⟨d, hd, rfl⟩ := Option.map_eq_some_iff.1 hp
    obtain ⟨step, pods, -, -, rfl⟩ := advance?_frame hd
    exact h
  | peek | get _ _ _ =>
    obtain rfl := Option.some.inj hp
    exact h

theorem readSelector_activeText {d : Cluster} {text : Option String}
    (h : readSelector text = .ok c.selector) {requests : List Request}
    (hd : c.run? requests = some d) :
    readSelector (c.activeText text requests) = .ok d.selector := by
  induction requests generalizing c text with
  | nil =>
    obtain rfl := Option.some.inj hd
    exact h
  | cons r rest ih =>
    obtain ⟨p, hp, hrest⟩ := run?_cons_eq_some_iff.1 hd
    rw [activeText, hp]
    exact ih (readSelector_textAfter h hp) hrest

/-! ## Rows made again -/

/-- Two rows of one resource, made at two times. -/
structure SameButAge (header : Header) (a b : Row) : Prop where
  id : a.id = b.id
  length : a.fields.length = b.fields.length
  fields (j : Nat) : header.isTime j = false → a.fields[j]? = b.fields[j]?

/-- The place of the age in the rows of a kind. -/
def Kind.agePlace : Kind → Nat
  | .pods => 10
  | .nodes => 8

theorem isTime_agePlace (kind : Kind) : kind.header.isTime kind.agePlace = true := by
  cases kind <;> rfl

/-- A row made at another time has another age, and nothing else. -/
theorem exists_row_again {kind : Kind} {r : Resource} {now : Int} {row : Row}
    (h : kind.row r now = .ok row) (time : Int) :
    ∃ again, kind.row r time = .ok again ∧ SameButAge kind.header again row := by
  have hset : ∃ again age, kind.row r time = .ok again ∧ again.id = row.id ∧
      again.fields = row.fields.set kind.agePlace age := by
    unfold Kind.row at h ⊢
    split at h
    · rename_i p
      cases h
      exact ⟨p.row time, _, rfl, rfl, rfl⟩
    · rename_i n
      cases h
      exact ⟨n.row time, _, rfl, rfl, rfl⟩
    · cases h
  obtain ⟨again, age, hagain, hid, hfields⟩ := hset
  refine ⟨again, hagain, hid, by rw [hfields, List.length_set], ?_⟩
  intro j hj
  have hplace : kind.agePlace ≠ j := by
    rintro rfl
    rw [isTime_agePlace] at hj
    cases hj
  rw [hfields, List.getElem?_set_ne hplace]

/-! ## Histories -/

/-- Every row of a listing at a time is that of a resource that is found by the id of the row in a
later state of the cluster, without a selector as well as with the text that was in force. The row
can be made again, apart from its age. -/
def FindsRows (listed : Cluster) (s : Snapshot) (now : Int) (text : Option String)
    (later : Cluster) : Prop :=
  ∀ (i : Nat) (e : RowEvent), s.rows[i]? = some e →
    ∃ r, listed.resources[i]? = some r ∧ listed.kind.row r now = .ok e.row ∧
      later.get listed.kind.name e.row.id none = .ok r ∧
      later.get listed.kind.name e.row.id text = .ok r ∧
      ∀ time, ∃ again, listed.kind.row r time = .ok again ∧
        SameButAge listed.kind.header again e.row

theorem names_start (pods : List Pod) (nodes : List Node) (metrics churn : Bool) :
    (start pods nodes metrics churn).nodes.map (·.name) = nodes.map (·.name) := by
  cases metrics with
  | true => rfl
  | false => exact List.map_map

theorem addressed_run? {pods : List Pod} {nodes : List Node} (h : Identified pods nodes)
    {metrics churn : Bool} {requests : List Request} {c : Cluster}
    (hc : (start pods nodes metrics churn).run? requests = some c) : c.Addressed := by
  have hstepped := stepped_run? h.noBackup (stepped_start nodes metrics churn) hc
  refine addressed_of_stepped h hstepped ?_
  rw [nodes_run? hc, names_start]

theorem run?_append (c : Cluster) (before after : List Request) :
    c.run? (before ++ after) = (c.run? before).bind (·.run? after) :=
  List.foldlM_append

/-- The rows of a listing are found as long as the cluster is the one that was listed. -/
theorem findsRows_of_sameWorld {later : Cluster} {now : Int} {text : Option String}
    (h : (c.record now).1.Addressed) (hread : readSelector text = .ok c.selector)
    (hlater : later.SameWorld (c.record now).1) :
    (c.record now).1.FindsRows (c.record now).2 now text later := by
  intro i e he
  obtain ⟨r, hr, hrow⟩ := exists_of_row he
  have hmem : r ∈ c.resources := List.mem_of_getElem? hr
  have hid : e.row.id = r.path := by
    obtain ⟨row, hagain, hid⟩ := exists_row hmem now
    rw [hrow] at hagain
    rw [Except.ok.inj hagain, hid]
  have hfound : later.find? c.kind e.row.id = some r := by
    rw [find?_of_sameWorld hlater, hid]
    exact find?_of_mem_resources h hmem
  refine ⟨r, hr, hrow, ?_, ?_, exists_row_again hrow⟩
  · exact get_of_find? hfound rfl rfl
  · exact get_of_find? hfound hread (accepts_of_mem_resources hmem)

/-- Every row of the last listing is found by its id, until the simulation moves on. -/
theorem findsRows_run {pods : List Pod} {nodes : List Node} (h : Identified pods nodes)
    (metrics churn : Bool) (before after : List Request) (now : Int) {c listed : Cluster}
    {s : Snapshot} (hc : (start pods nodes metrics churn).run? before = some c)
    (hlisted : c.refresh? now = some (listed, s))
    (hafter : ∀ r ∈ after, r.advances true = false) :
    ∃ later, (start pods nodes metrics churn).run? (before ++ .refresh now :: after) = some later ∧
      listed.FindsRows s now ((start pods nodes metrics churn).activeText none before) later := by
  have hread : readSelector none = .ok (start pods nodes metrics churn).selector := by
    cases metrics <;> rfl
  obtain ⟨ticked, hticked, hrecord⟩ := refresh?_eq_some_iff.1 hlisted
  obtain ⟨rfl, rfl⟩ := Prod.mk.inj hrecord
  obtain ⟨later, hlater, hsame⟩ := exists_run?_of_not_advances (ticked.record now).1 hafter
  have hserved : c.serve? (.refresh now) =
      some ((ticked.record now).1, .listed (ticked.record now).2) := by
    rw [serve?, hlisted]
    rfl
  have hrun (rest : List Request) :
      (start pods nodes metrics churn).run? (before ++ .refresh now :: rest) =
        (ticked.record now).1.run? rest := by
    rw [run?_append, hc, Option.bind_some, run?, List.foldlM_cons, hserved]
    rfl
  refine ⟨later, (hrun after).trans hlater, findsRows_of_sameWorld ?_ ?_ hsame⟩
  · exact addressed_run? h (hrun [])
  · -- a step leaves the selector alone
    obtain ⟨step, pods, rfl⟩ := tick?_frame hticked
    exact (readSelector_activeText hread hc :)

/-- The requests of somebody who lists the jobs of all namespaces once the first backup is there. -/
def listJobs : List Request :=
  .setSelector (some "job-name") :: List.replicate 5 (.advance 1700000000000000000)

/-- Looks at other things after that. -/
def lookAround : List Request :=
  [.setKind "no", .setNamespace "kube-system", .setSelector (some "k8s-app"), .peek]

/-- Two jobs are listed, one of which was not there at the start. -/
theorem findsRows_listJobs :
    let new := start (typicalPods 1700000000000000000) (typicalNodes 1700000000000000000) true false
    Identified (typicalPods 1700000000000000000) (typicalNodes 1700000000000000000) ∧
    (∀ r ∈ lookAround, r.advances true = false) ∧
    ∃ c listed s later, new.run? listJobs = some c ∧
      c.refresh? 1700000000000000000 = some (listed, s) ∧
      new.run? (listJobs ++ .refresh 1700000000000000000 :: lookAround) = some later ∧
      listed.FindsRows s 1700000000000000000 (new.activeText none listJobs) later ∧
      s.ids = ["default/migrate-28461230-zq7xv", "default/backup-5"] := by
  intro new
  have hidentified :
      Identified (typicalPods 1700000000000000000) (typicalNodes 1700000000000000000) :=
    ⟨by decide +kernel, by decide +kernel, by decide +kernel, by decide +kernel⟩
  have hstill : ∀ r ∈ lookAround, r.advances true = false := by decide
  have hids : ((new.run? listJobs).bind (·.refresh? 1700000000000000000)).map (·.2.ids) =
      some ["default/migrate-28461230-zq7xv", "default/backup-5"] := by decide +kernel
  obtain ⟨⟨listed, s⟩, hs, hsids⟩ := Option.map_eq_some_iff.1 hids
  obtain ⟨c, hc, hlisted⟩ := Option.bind_eq_some_iff.1 hs
  obtain ⟨later, hlater, hfinds⟩ := findsRows_run hidentified true false listJobs lookAround
    1700000000000000000 hc hlisted hstill
  exact ⟨hidentified, hstill, c, listed, s, later, hc, hlisted, hlater, hfinds, hsids⟩

end Cluster

end ResourceBrowser
