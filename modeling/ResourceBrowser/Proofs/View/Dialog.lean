import ResourceBrowser.Cluster.Typical
import ResourceBrowser.Proofs.Number.Decimal
import ResourceBrowser.Proofs.Tunnel.Candidate
import ResourceBrowser.View.Browser

/-!
# What the port-forward dialog asks for

The dialog offers the TCP ports that a pod declares, and asks for a tunnel to the selected one under
the address and the local port that were typed. Whatever keys were pressed, the local port is a
short text of digits, so that the only texts that are refused are those whose number is no port.

* `edit_cases`: what a key can do.
* `IsNumeral`: the typed port, which every key leaves so, `isNumeral_run`.
* `request_eq`: what the dialog asks for, in terms of the number that was typed.
* `AsksForDeclared`: what holds of the dialog of a pod, `asksForDeclared_openForward`.
-/

namespace ResourceBrowser

open Cluster Tunnel

namespace View.Dialog

open Number

variable {d : Dialog}

/-! ## Keys -/

/-- What a key can do: it selects a port, changes the address or goes to another input, adds a digit
to the local port if there is room for it, or removes the last one. -/
theorem edit_cases (d : Dialog) (e : Edit) :
    (∃ i, d.edit e = d.choose i) ∨
    (∃ address field, d.edit e = { d with address, field }) ∨
    (∃ c, c.isDigit = true ∧ d.localPort.length < portDigits ∧
      d.edit e = { d with localPort := d.localPort.push c }) ∨
    d.edit e = { d with localPort := .ofList d.localPort.toList.dropLast } := by
  have hnothing : ∃ address field, d = { d with address, field } := ⟨d.address, d.field, rfl⟩
  cases e with
  | nextField => exact .inr (.inl ⟨d.address, _, rfl⟩)
  | up =>
    simp only [edit, up]
    split
    · exact .inl ⟨_, rfl⟩
    · exact .inr (.inl hnothing)
  | down =>
    simp only [edit, down]
    split
    · exact .inl ⟨_, rfl⟩
    · exact .inr (.inl hnothing)
  | type c =>
    simp only [edit, type]
    split
    · exact .inr (.inl hnothing)
    · split
      · exact .inr (.inl hnothing)
      · exact .inr (.inl ⟨_, d.field, rfl⟩)
    · split
      · rename_i htyped
        simp only [Bool.and_eq_true, decide_eq_true_eq] at htyped
        exact .inr (.inr (.inl ⟨c, htyped.1, htyped.2, rfl⟩))
      · exact .inr (.inl hnothing)
  | erase =>
    simp only [edit, erase]
    split
    · exact .inr (.inl hnothing)
    · exact .inr (.inl ⟨_, d.field, rfl⟩)
    · exact .inr (.inr (.inr rfl))

theorem choose_frame (d : Dialog) (i : Nat) :
    (d.choose i).path = d.path ∧ (d.choose i).candidates = d.candidates := by
  unfold choose
  split
  · exact ⟨rfl, rfl⟩
  · exact ⟨rfl, rfl⟩

/-- Keys change neither the pod nor what is offered. -/
theorem edit_frame (d : Dialog) (e : Edit) :
    (d.edit e).path = d.path ∧ (d.edit e).candidates = d.candidates := by
  rcases edit_cases d e with ⟨i, h⟩ | ⟨address, field, h⟩ | ⟨c, -, -, h⟩ | h
  · rw [h]
    exact choose_frame d i
  · rw [h]
    exact ⟨rfl, rfl⟩
  · rw [h]
    exact ⟨rfl, rfl⟩
  · rw [h]
    exact ⟨rfl, rfl⟩

/-- What holds of a dialog and is kept by every key holds after any keys. -/
theorem run_induction (P : Dialog → Prop) (hstep : ∀ (d : Dialog) (e : Edit), P d → P (d.edit e))
    (h : P d) (edits : List Edit) : P (d.run edits) := by
  induction edits generalizing d with
  | nil => exact h
  | cons e edits ih => exact ih (hstep d e h)

theorem run_frame (d : Dialog) (edits : List Edit) :
    (d.run edits).path = d.path ∧ (d.run edits).candidates = d.candidates := by
  refine run_induction (fun d' => d'.path = d.path ∧ d'.candidates = d.candidates)
    (fun d' e hd => ?_) ⟨rfl, rfl⟩ edits
  obtain ⟨hpath, hcandidates⟩ := edit_frame d' e
  exact ⟨hpath.trans hd.1, hcandidates.trans hd.2⟩

/-! ## The typed port -/

/-- The number that is typed as the local port; zero if nothing is. -/
def portNumber (d : Dialog) : Nat := Nat.ofDigitChars 10 d.localPort.toList 0

/-- The digits of a number with so many digits at most. -/
structure IsNumeral (text : String) : Prop where
  length_le : text.length ≤ portDigits
  digits : ∀ c ∈ text.toList, c.isDigit = true

theorem isNumeral_portText (c : Candidate) : IsNumeral (portText c) := by
  have htext : (portText c).toList = Nat.toDigits 10 c.port.toNat := Nat.toList_repr
  refine ⟨?_, ?_⟩
  · have hlt : c.port.toNat < 10 ^ portDigits := Nat.lt_trans c.port.toNat_lt (by decide)
    rw [← String.length_toList, htext]
    exact (Nat.length_toDigits_le_iff (by decide) (by decide)).2 hlt
  · rw [htext]
    intro ch hch
    exact Nat.isDigit_of_mem_toDigits (by decide) (by decide) hch

theorem isNumeral_choose (h : IsNumeral d.localPort) (i : Nat) :
    IsNumeral (d.choose i).localPort := by
  unfold choose
  split
  · exact isNumeral_portText _
  · exact h

theorem isNumeral_push {text : String} (h : IsNumeral text) {c : Char} (hdigit : c.isDigit = true)
    (hlength : text.length < portDigits) : IsNumeral (text.push c) := by
  refine ⟨?_, ?_⟩
  · rw [String.length_push]
    exact hlength
  · intro ch hch
    rw [String.toList_push, List.mem_append, List.mem_singleton] at hch
    rcases hch with hch | rfl
    · exact h.digits ch hch
    · exact hdigit

theorem isNumeral_dropLast {text : String} (h : IsNumeral text) :
    IsNumeral (.ofList text.toList.dropLast) := by
  refine ⟨?_, ?_⟩
  · have hlength := h.length_le
    rw [String.length_ofList, List.length_dropLast, String.length_toList]
    exact Nat.le_trans (Nat.sub_le _ _) hlength
  · intro ch hch
    rw [String.toList_ofList] at hch
    exact h.digits ch (List.dropLast_subset _ hch)

/-- Every key leaves the local port a numeral. -/
theorem isNumeral_edit (h : IsNumeral d.localPort) (e : Edit) : IsNumeral (d.edit e).localPort := by
  rcases edit_cases d e with ⟨i, hedit⟩ | ⟨address, field, hedit⟩ | ⟨c, hdigit, hlength, hedit⟩ |
    hedit
  · rw [hedit]
    exact isNumeral_choose h i
  · rw [hedit]
    exact h
  · rw [hedit]
    exact isNumeral_push h hdigit hlength
  · rw [hedit]
    exact isNumeral_dropLast h

theorem isNumeral_run (h : IsNumeral d.localPort) (edits : List Edit) :
    IsNumeral (d.run edits).localPort :=
  run_induction (fun d => IsNumeral d.localPort) (fun _ e hd => isNumeral_edit hd e) h edits

/-! ## Requests -/

/-- The local port is the typed number, if that is the number of a port. -/
theorem localPort?_eq (h : IsNumeral d.localPort) : d.localPort? =
    if 1 ≤ d.portNumber ∧ d.portNumber ≤ 65535 then some (.ofNat d.portNumber) else none := by
  unfold localPort?
  by_cases hempty : d.localPort.toList = []
  · have hzero : d.portNumber = 0 := by rw [portNumber, hempty, Nat.ofDigitChars_nil]
    rw [hempty, hzero]
    rfl
  · have hread : readBelow? portBound d.localPort.toList =
        (some d.portNumber).filter (· < portBound) := readBelow?_of_digits hempty h.digits
    rw [hread]
    by_cases hlow : d.portNumber = 0
    · simp [hlow]
    · by_cases hhigh : d.portNumber ≤ 65535
      · simp [portBound, Option.filter, hlow, hhigh, Nat.lt_succ_of_le]
      · simp [portBound, Option.filter, hhigh, Nat.not_lt.2 (Nat.lt_of_not_le hhigh)]

/-- What the dialog asks for, in terms of the number that was typed. -/
theorem request_eq (h : IsNumeral d.localPort) : d.request =
    if 1 ≤ d.portNumber ∧ d.portNumber ≤ 65535 then
      if d.address = "" then .error .emptyAddress
      else .ok (⟨d.path, d.candidate.container⟩,
        ⟨d.address, .ofNat d.portNumber, d.candidate.port⟩)
    else .error (.invalidPort d.localPort) := by
  unfold request
  rw [localPort?_eq h]
  by_cases hport : 1 ≤ d.portNumber ∧ d.portNumber ≤ 65535
  · simp [hport]
  · simp [hport]

theorem exists_request_iff (h : IsNumeral d.localPort) :
    (∃ id spec, d.request = .ok (id, spec)) ↔
      (1 ≤ d.portNumber ∧ d.portNumber ≤ 65535) ∧ d.address ≠ "" := by
  rw [request_eq h]
  by_cases hport : 1 ≤ d.portNumber ∧ d.portNumber ≤ 65535
  · by_cases haddress : d.address = ""
    · simp [hport, haddress]
    · simp [hport, haddress]
  · simp [hport]

theorem selected_candidate (d : Dialog) : d.candidates[d.selected]? = some d.candidate :=
  List.getElem?_eq_getElem d.selected_lt

/-- The dialog of a pod with such containers: it offers the TCP ports that they declare, and asks
for a tunnel to the selected one under the typed address and local port. -/
structure AsksForDeclared (d : Dialog) (path : String) (containers : List Container) : Prop where
  offers : OffersDeclared containers d.candidates
  selects : ∃ c, d.candidates[d.selected]? = some c
  numeral : IsNumeral d.localPort
  /-- The number has to be that of a port, and an address has to be there. -/
  accepts : (∃ id spec, d.request = .ok (id, spec)) ↔
    (1 ≤ d.portNumber ∧ d.portNumber ≤ 65535) ∧ d.address ≠ ""
  requests : ∀ id spec, d.request = .ok (id, spec) → id.path = path ∧
    (∃ c, d.candidates[d.selected]? = some c ∧
      c.container = id.container ∧ c.port = spec.remotePort) ∧
    (∃ co ∈ containers, co.name = id.container ∧
      ∃ p ∈ co.ports, p.protocol = .tcp ∧ p.number = spec.remotePort) ∧
    spec.localPort.toNat = d.portNumber ∧ spec.address = d.address

theorem asksForDeclared_of_offersDeclared {containers : List Container}
    (hoffers : OffersDeclared containers d.candidates) (h : IsNumeral d.localPort) :
    d.AsksForDeclared d.path containers where
  offers := hoffers
  selects := ⟨d.candidate, d.selected_candidate⟩
  numeral := h
  accepts := exists_request_iff h
  requests := by
    intro id spec hrequest
    obtain ⟨⟨hlow, hhigh⟩, haddress⟩ := (exists_request_iff h).1 ⟨id, spec, hrequest⟩
    rw [request_eq h, if_pos ⟨hlow, hhigh⟩, if_neg haddress] at hrequest
    obtain ⟨rfl, rfl⟩ := Prod.mk.inj (Except.ok.inj hrequest)
    have hselected := d.selected_candidate
    have hlocal : (UInt16.ofNat d.portNumber).toNat = d.portNumber :=
      UInt16.toNat_ofNat_of_lt' (Nat.lt_succ_of_le hhigh)
    exact ⟨rfl, ⟨d.candidate, hselected, rfl, rfl⟩,
      exists_port_of_mem hoffers (List.mem_of_getElem? hselected), hlocal, rfl⟩

/-- The first dialog of a pod that declares a TCP port. -/
theorem exists_start {containers : List Container}
    (h : ∃ co ∈ containers, ∃ p ∈ co.ports, p.protocol = .tcp) (path address : String) :
    ∃ d, (Tunnel.candidates path containers).bind (start path · address) = .ok d ∧
      d.path = path ∧ Tunnel.candidates path containers = .ok d.candidates ∧ d.address = address ∧
      IsNumeral d.localPort := by
  obtain ⟨first, rest, hoffered⟩ := exists_candidates h
  rw [hoffered]
  exact ⟨_, rfl, rfl, rfl, rfl, isNumeral_portText first⟩

end View.Dialog

namespace View.Browser

open Dialog

/-- A browser of pods opens a dialog for the selected pod, if that declares a TCP port, and whatever
keys follow, the dialog asks for a declared port of that pod. -/
theorem asksForDeclared_openForward (b : Browser) (ctx : Context) (path : String) (pod : Pod)
    (htracked : b.table.trackedId = some path) (hkind : b.kind = Kind.pods.name)
    (hpod : ctx.source.get b.kind path none = .ok (.pod pod))
    (hports : ∃ co ∈ pod.containers, ∃ p ∈ co.ports, p.protocol = .tcp) (edits : List Edit) :
    ∃ d, b.openForward ctx = .ok (.openDialog d) ∧
      Tunnel.candidates path pod.containers = .ok d.candidates ∧
      d.address = ctx.config.forward.address ∧
      (d.run edits).AsksForDeclared path pod.containers := by
  obtain ⟨d, hstart, hpath, hoffered, haddress, hnumeral⟩ :=
    exists_start hports path ctx.config.forward.address
  have hopen : b.openForward ctx = .ok (.openDialog d) := by
    unfold openForward
    rw [htracked]
    simp only [hkind, bne_self_eq_false, Bool.false_eq_true, if_false]
    rw [hkind] at hpod
    rw [hpod]
    simp only [hstart]
  obtain ⟨hpath', hoffered'⟩ := d.run_frame edits
  have hoffers : OffersDeclared pod.containers (d.run edits).candidates :=
    hoffered' ▸ offersDeclared_of_candidates hoffered
  have hasks := asksForDeclared_of_offersDeclared hoffers (isNumeral_run hnumeral edits)
  rw [hpath', hpath] at hasks
  exact ⟨d, hopen, hoffered, haddress, hasks⟩

/-- A view of pods in which one with two containers is selected. -/
def onApi : Browser where
  table := { kind := Kind.pods.name, trackedId := some "default/api-6d8f7b9c4-k2m4n" }
  keymap := .empty
  forwards := true

/-- The second port is chosen, the address gets another character and the local port another digit
in place of its last one. -/
theorem asksForDeclared_onApi : ∃ d,
    onApi.openForward ⟨.typical 0, {}, 0⟩ = .ok (.openDialog d) ∧
      Tunnel.candidates "default/api-6d8f7b9c4-k2m4n"
        [⟨"api", [⟨"http", 8080, .tcp⟩]⟩, ⟨"envoy", [⟨"admin", 9901, .tcp⟩]⟩] = .ok d.candidates ∧
      d.address = "localhost" ∧
      (d.run [.down, .nextField, .type 'x', .nextField, .erase, .type '0']).AsksForDeclared
        "default/api-6d8f7b9c4-k2m4n"
        [⟨"api", [⟨"http", 8080, .tcp⟩]⟩, ⟨"envoy", [⟨"admin", 9901, .tcp⟩]⟩] :=
  asksForDeclared_openForward onApi ⟨.typical 0, {}, 0⟩ "default/api-6d8f7b9c4-k2m4n"
    (typicalPods 0)[1] rfl rfl rfl ⟨_, List.mem_cons_self, _, List.mem_cons_self, rfl⟩ _

end View.Browser

end ResourceBrowser
