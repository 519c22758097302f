import Mathlib.Data.List.Forall2
import ResourceBrowser.Cluster.Selector
import ResourceBrowser.Proofs.Text.Blank

/-!
# The language of label selectors

A selector is read term by term, so selectors put one behind the other mean all requirements of
both. A requirement is written with one of four operators, some of which are parts of others, and
blanks do not matter. The operators are not mixed up: a key holds none of their characters, and a
value no `=`, so that the first operator in a term is the one that was written.

* `read_append`: the selector of two texts with a comma between them.
* `Written`: the ways to write a requirement, `ofTerm?_of_written`.
* `ReadsTerms`: what holds of reading selectors, `readsTerms_read`.
-/

namespace ResourceBrowser.Cluster

open Text

/-! ## Selectors one behind the other -/

namespace Selector

theorem terms_append (a b : String) : terms (a ++ "," ++ b) = terms a ++ terms b := by
  have hlist : (a ++ "," ++ b).toList = a.toList ++ ',' :: b.toList := by simp
  unfold terms
  simp only [hlist, splitAll_eq_splitOn, List.splitOn_append_cons_self, List.map_append,
    List.filter_append]

theorem read_eq_ok_iff {text : String} {s : Selector} :
    read text = .ok s ↔ (terms text).mapM Requirement.ofTerm? = some s.requirements := by
  unfold read
  cases (terms text).mapM Requirement.ofTerm? with
  | none => simp
  | some requirements =>
    constructor
    · rintro ⟨⟩
      rfl
    · intro h
      rw [Option.some.inj h]

/-- The selector of two texts with a comma between them has the requirements of both. -/
theorem read_append {a b : String} {w : Selector} : read (a ++ "," ++ b) = .ok w ↔
    ∃ s u, read a = .ok s ∧ read b = .ok u ∧ w = ⟨s.requirements ++ u.requirements⟩ := by
  simp only [read_eq_ok_iff, terms_append, List.mapM_append]
  constructor
  · intro h
    obtain ⟨xs, hxs, h⟩ := Option.bind_eq_some_iff.1 h
    obtain ⟨ys, hys, h⟩ := Option.bind_eq_some_iff.1 h
    refine ⟨⟨xs⟩, ⟨ys⟩, hxs, hys, ?_⟩
    rw [Option.some.inj h]
  · rintro ⟨s, u, hs, hu, rfl⟩
    rw [hs, hu]
    rfl

/-- Labels meet the requirements of both if they meet those of each. -/
theorem accepts_append (s u : Selector) (labels : Labels) :
    (⟨s.requirements ++ u.requirements⟩ : Selector).accepts labels =
      (s.accepts labels && u.accepts labels) :=
  List.all_append

/-- A text without a comma is one term, if anything is left of it. -/
theorem terms_of_not_mem {text : String} (h : ',' ∉ text.toList)
    (hne : trimChars text.toList ≠ []) : terms text = [trimChars text.toList] := by
  unfold terms
  rw [splitAll_eq_splitOn, List.splitOn_eq_singleton h]
  simp [hne]

end Selector

/-! ## Writing requirements -/

namespace Requirement

/-- A key that no operator and no other term can be seen in. -/
structure IsPlainKey (key : String) : Prop where
  nonempty : key.toList ≠ []
  noBlank : NoBlank key.toList
  noComma : ',' ∉ key.toList
  noEquals : '=' ∉ key.toList
  noBang : '!' ∉ key.toList

instance : DecidablePred IsPlainKey := fun key => decidable_of_iff
  (key.toList ≠ [] ∧ NoBlank key.toList ∧ ',' ∉ key.toList ∧ '=' ∉ key.toList ∧
    '!' ∉ key.toList)
  ⟨fun ⟨h₁, h₂, h₃, h₄, h₅⟩ => ⟨h₁, h₂, h₃, h₄, h₅⟩,
    fun ⟨h₁, h₂, h₃, h₄, h₅⟩ => ⟨h₁, h₂, h₃, h₄, h₅⟩⟩

/-- A value without blanks at its ends, that does not end a term and holds no `=`. -/
structure IsPlainValue (value : String) : Prop where
  trimmed : trim value = value
  noComma : ',' ∉ value.toList
  noEquals : '=' ∉ value.toList

instance : DecidablePred IsPlainValue := fun value => decidable_of_iff
  (trim value = value ∧ ',' ∉ value.toList ∧ '=' ∉ value.toList)
  ⟨fun ⟨h₁, h₂, h₃⟩ => ⟨h₁, h₂, h₃⟩, fun ⟨h₁, h₂, h₃⟩ => ⟨h₁, h₂, h₃⟩⟩

/-- A requirement that can be written. -/
def IsPlain : Requirement → Prop
  | .equals key value => IsPlainKey key ∧ IsPlainValue value
  | .differs key value => IsPlainKey key ∧ IsPlainValue value
  | .present key => IsPlainKey key
  | .absent key => IsPlainKey key

instance : DecidablePred IsPlain
  | .equals _ _ | .differs _ _ => inferInstanceAs (Decidable (_ ∧ _))
  | .present key | .absent key => inferInstanceAs (Decidable (IsPlainKey key))

/-- The ways to write a requirement: with blanks around the term, its operator and its parts. -/
inductive Written : Requirement → List Char → Prop where
  | equals {key value : String} {b₁ b₂ b₃ b₄ : List Char} (h₁ : AllBlank b₁) (h₂ : AllBlank b₂)
      (h₃ : AllBlank b₃) (h₄ : AllBlank b₄) : Written (.equals key value)
        (b₁ ++ (key.toList ++ b₂ ++ '=' :: (b₃ ++ value.toList)) ++ b₄)
  | same {key value : String} {b₁ b₂ b₃ b₄ : List Char} (h₁ : AllBlank b₁) (h₂ : AllBlank b₂)
      (h₃ : AllBlank b₃) (h₄ : AllBlank b₄) : Written (.equals key value)
        (b₁ ++ (key.toList ++ b₂ ++ '=' :: '=' :: (b₃ ++ value.toList)) ++ b₄)
  | differs {key value : String} {b₁ b₂ b₃ b₄ : List Char} (h₁ : AllBlank b₁) (h₂ : AllBlank b₂)
      (h₃ : AllBlank b₃) (h₄ : AllBlank b₄) : Written (.differs key value)
        (b₁ ++ (key.toList ++ b₂ ++ '!' :: '=' :: (b₃ ++ value.toList)) ++ b₄)
  | present {key : String} {b₁ b₂ : List Char} (h₁ : AllBlank b₁) (h₂ : AllBlank b₂) :
      Written (.present key) (b₁ ++ key.toList ++ b₂)
  | absent {key : String} {b₁ b₂ b₃ : List Char} (h₁ : AllBlank b₁) (h₂ : AllBlank b₂)
      (h₃ : AllBlank b₃) : Written (.absent key) (b₁ ++ '!' :: (b₂ ++ key.toList) ++ b₃)

/-! ## Finding the operator -/

section

variable {before after : List Char}

/-- Where no `!` comes before an `=`, the operator `!=` is not seen. -/
theorem splitFirst_differs_eq_none (h : '!' ∉ before) (hafter : '=' ∉ after) :
    splitFirst ['!', '='] (before ++ after) = none := by
  have hnone : splitFirst ['!', '='] after = none :=
    splitFirst_eq_none (c := '=') (by decide) hafter
  rw [splitFirst_append_of_not_mem h, hnone]
  rfl

/-- A single `=` is not taken for the operator `==`. -/
theorem splitFirst_same_eq_none (h : '=' ∉ before) (hafter : '=' ∉ after) :
    splitFirst ['=', '='] (before ++ '=' :: after) = none := by
  have hprefix : ¬ ['=', '='].isPrefixOf ('=' :: after) = true := by
    rw [List.isPrefixOf_iff_prefix, List.cons_prefix_cons]
    rintro ⟨-, hrest⟩
    exact hafter (hrest.subset List.mem_cons_self)
  have hnone : splitFirst ['=', '='] after = none :=
    splitFirst_eq_none (c := '=') (by decide) hafter
  rw [splitFirst_append_of_not_mem h, splitFirst, if_neg hprefix, hnone]
  rfl

theorem ofTerm_differs (h : '!' ∉ before) : ofTerm (before ++ '!' :: '=' :: after) =
    .differs (.ofList (trimChars before)) (.ofList (trimChars after)) := by
  have hsplit : splitFirst ['!', '='] (before ++ '!' :: '=' :: after) = some (before, after) := by
    rw [splitFirst_append_of_not_mem h]
    simp [splitFirst]
  unfold ofTerm
  rw [hsplit]

theorem ofTerm_equals (hbang : '!' ∉ before) (h : '=' ∉ before) (hafter : '=' ∉ after) :
    ofTerm (before ++ '=' :: after) =
      .equals (.ofList (trimChars before)) (.ofList (trimChars after)) := by
  have hdiffers : splitFirst ['!', '='] (before ++ '=' :: after) = none := by
    rw [List.append_cons]
    exact splitFirst_differs_eq_none (by simp [hbang]) hafter
  unfold ofTerm
  rw [hdiffers, splitFirst_same_eq_none h hafter, Option.none_or, splitFirst_append h]

theorem ofTerm_same (hbang : '!' ∉ before) (h : '=' ∉ before) (hafter : '=' ∉ after) :
    ofTerm (before ++ '=' :: '=' :: after) =
      .equals (.ofList (trimChars before)) (.ofList (trimChars after)) := by
  have hdiffers : splitFirst ['!', '='] (before ++ '=' :: '=' :: after) = none := by
    rw [List.append_cons, List.append_cons]
    exact splitFirst_differs_eq_none (by simp [hbang]) hafter
  have hsame : splitFirst ['=', '='] (before ++ '=' :: '=' :: after) = some (before, after) := by
    rw [splitFirst_append_of_not_mem h]
    simp [splitFirst]
  unfold ofTerm
  rw [hdiffers, hsame, Option.some_or]

/-- Without an `=` there is no operator between a key and a value. -/
theorem splitFirst_operator {term : List Char} (h : '=' ∉ term) :
    splitFirst ['!', '='] term = none ∧ splitFirst ['=', '='] term = none ∧
      splitFirst ['='] term = none :=
  ⟨splitFirst_eq_none (c := '=') (by decide) h, splitFirst_eq_none (c := '=') (by decide) h,
    splitFirst_eq_none (c := '=') (by decide) h⟩

theorem ofTerm_absent {key : List Char} (h : '=' ∉ key) :
    ofTerm ('!' :: key) = .absent (.ofList (trimChars key)) := by
  have hterm : '=' ∉ '!' :: key := List.not_mem_cons_of_ne_of_not_mem (by decide) h
  obtain ⟨hdiffers, hsame, hequals⟩ := splitFirst_operator hterm
  unfold ofTerm
  rw [hdiffers, hsame, hequals]
  rfl

theorem ofTerm_present {key : List Char} (hbang : '!' ∉ key) (h : '=' ∉ key) :
    ofTerm key = .present (.ofList key) := by
  obtain ⟨hdiffers, hsame, hequals⟩ := splitFirst_operator h
  unfold ofTerm
  rw [hdiffers, hsame, hequals]
  cases key with
  | nil => rfl
  | cons c key =>
    have hc : c ≠ '!' := (List.ne_of_not_mem_cons hbang).symm
    simp [hc]

end

/-! ## Reading what is written -/

theorem IsPlainKey.isKey {key : String} (h : IsPlainKey key) : isKey key = true := by
  have hne : key ≠ "" := fun hempty => h.nonempty (by rw [hempty]; rfl)
  have hany : key.toList.any isBlank = false := by
    rw [List.any_eq_false]
    intro c hc
    rw [h.noBlank c hc]
    exact Bool.false_ne_true
  unfold Requirement.isKey
  rw [hany]
  simpa using hne

/-- A key with blanks behind it. -/
theorem IsPlainKey.ofList_trimChars {key : String} (h : IsPlainKey key) {blanks : List Char}
    (hblanks : AllBlank blanks) : String.ofList (trimChars (key.toList ++ blanks)) = key := by
  rw [trimChars_append_blanks hblanks, trimChars_of_not_isBlank h.noBlank, String.ofList_toList]

/-- A value with blanks before it, behind which the term was trimmed. -/
theorem IsPlainValue.ofList_trimChars {value : String} (h : IsPlainValue value)
    {blanks : List Char} (hblanks : AllBlank blanks) :
    String.ofList (trimChars (dropBlankEnd (blanks ++ value.toList))) = value := by
  rw [trimChars_dropBlankEnd, trimChars_blanks_append hblanks]
  exact h.trimmed

/-- Trimming a term that begins with a key leaves the key and the operator behind it. -/
theorem IsPlainKey.trimChars_term {key : String} (h : IsPlainKey key) {b₁ b₂ b₄ : List Char}
    (h₁ : AllBlank b₁) (h₄ : AllBlank b₄) {c : Char} (hc : isBlank c = false) (rest : List Char) :
    trimChars (b₁ ++ (key.toList ++ b₂ ++ c :: rest) ++ b₄) =
      key.toList ++ b₂ ++ c :: dropBlankEnd rest := by
  rw [trimChars_append_blanks h₄, trimChars_blanks_append h₁]
  unfold trimChars
  cases hkey : key.toList with
  | nil => exact absurd hkey h.nonempty
  | cons k key' =>
    have hk : isBlank k = false := h.noBlank k (hkey ▸ List.mem_cons_self)
    rw [List.cons_append, List.cons_append, List.dropWhile_cons_of_neg (by rw [hk]; decide),
      ← List.cons_append, ← List.cons_append, dropBlankEnd_append_cons hc]

/-- A key with blanks behind it holds no character of an operator. -/
theorem IsPlainKey.not_mem {key : String} (h : IsPlainKey key) {blanks : List Char}
    (hblanks : AllBlank blanks) : '!' ∉ key.toList ++ blanks ∧ '=' ∉ key.toList ++ blanks := by
  have hbang : '!' ∉ blanks := hblanks.not_mem (by decide)
  have hequals : '=' ∉ blanks := hblanks.not_mem (by decide)
  simp [h.noBang, h.noEquals, hbang, hequals]

/-- What is written is read, however it is written. -/
theorem ofTerm_of_written {r : Requirement} {cs : List Char} (hplain : r.IsPlain)
    (h : Written r cs) : ofTerm (trimChars cs) = r := by
  cases h with
  | equals h₁ h₂ h₃ h₄ =>
    obtain ⟨hkey, hvalue⟩ := hplain
    obtain ⟨hbang, hequals⟩ := hkey.not_mem h₂
    have hafter := not_mem_dropBlankEnd (by decide) h₃ hvalue.noEquals
    rw [hkey.trimChars_term h₁ h₄ (by decide), ofTerm_equals hbang hequals hafter,
      hkey.ofList_trimChars h₂, hvalue.ofList_trimChars h₃]
  | same h₁ h₂ h₃ h₄ =>
    obtain ⟨hkey, hvalue⟩ := hplain
    obtain ⟨hbang, hequals⟩ := hkey.not_mem h₂
    have hafter := not_mem_dropBlankEnd (by decide) h₃ hvalue.noEquals
    rw [hkey.trimChars_term h₁ h₄ (by decide), dropBlankEnd_cons_of_not_isBlank (by decide),
      ofTerm_same hbang hequals hafter, hkey.ofList_trimChars h₂, hvalue.ofList_trimChars h₃]
  | differs h₁ h₂ h₃ h₄ =>
    obtain ⟨hkey, hvalue⟩ := hplain
    obtain ⟨hbang, -⟩ := hkey.not_mem h₂
    rw [hkey.trimChars_term h₁ h₄ (by decide), dropBlankEnd_cons_of_not_isBlank (by decide),
      ofTerm_differs hbang, hkey.ofList_trimChars h₂, hvalue.ofList_trimChars h₃]
  | present h₁ h₂ =>
    have hkey : IsPlainKey _ := hplain
    rw [trimChars_append_blanks h₂, trimChars_blanks_append h₁,
      trimChars_of_not_isBlank hkey.noBlank, ofTerm_present hkey.noBang hkey.noEquals,
      String.ofList_toList]
  | @absent key b₁ b₂ b₃ h₁ h₂ h₃ =>
    have hkey : IsPlainKey key := hplain
    have hterm : trimChars (b₁ ++ '!' :: (b₂ ++ key.toList) ++ b₃) =
        '!' :: dropBlankEnd (b₂ ++ key.toList) := by
      rw [trimChars_append_blanks h₃, trimChars_blanks_append h₁, trimChars,
        List.dropWhile_cons_of_neg (by decide), dropBlankEnd_cons_of_not_isBlank (by decide)]
    have hequals : '=' ∉ dropBlankEnd (b₂ ++ key.toList) :=
      not_mem_dropBlankEnd (by decide) h₂ hkey.noEquals
    rw [hterm, ofTerm_absent hequals, trimChars_dropBlankEnd, trimChars_blanks_append h₂,
      trimChars_of_not_isBlank hkey.noBlank, String.ofList_toList]

theorem IsPlain.isPlainKey {r : Requirement} (h : r.IsPlain) : IsPlainKey r.key := by
  cases r with
  | equals _ _ | differs _ _ => exact h.1
  | present _ | absent _ => exact h

theorem ofTerm?_of_written {r : Requirement} {cs : List Char} (hplain : r.IsPlain)
    (h : Written r cs) : ofTerm? (trimChars cs) = some r := by
  unfold ofTerm?
  rw [ofTerm_of_written hplain h]
  exact if_pos hplain.isPlainKey.isKey

/-- Something is left of a requirement that is written, since nothing would be read as an empty
key. -/
theorem trimChars_ne_nil_of_written {r : Requirement} {cs : List Char} (hplain : r.IsPlain)
    (h : Written r cs) : trimChars cs ≠ [] := by
  intro hnil
  have hread := ofTerm_of_written hplain h
  rw [hnil] at hread
  have hkey := hplain.isPlainKey
  rw [← hread] at hkey
  exact hkey.nonempty rfl

/-- A requirement is written without a comma. -/
theorem comma_not_mem_of_written {r : Requirement} {cs : List Char} (hplain : r.IsPlain)
    (h : Written r cs) : ',' ∉ cs := by
  have hblank : ∀ {blanks : List Char}, AllBlank blanks → ',' ∉ blanks :=
    fun hblanks => hblanks.not_mem (by decide)
  cases h with
  | equals h₁ h₂ h₃ h₄ | same h₁ h₂ h₃ h₄ | differs h₁ h₂ h₃ h₄ =>
    obtain ⟨hkey, hvalue⟩ := hplain
    simp [hblank h₁, hblank h₂, hblank h₃, hblank h₄, hkey.noComma, hvalue.noComma]
  | present h₁ h₂ =>
    have hkey : IsPlainKey _ := hplain
    simp [hblank h₁, hblank h₂, hkey.noComma]
  | absent h₁ h₂ h₃ =>
    have hkey : IsPlainKey _ := hplain
    simp [hblank h₁, hblank h₂, hblank h₃, hkey.noComma]

end Requirement

namespace Selector

theorem read_of_written {r : Requirement} {text : String} (hplain : r.IsPlain)
    (h : r.Written text.toList) : read text = .ok ⟨[r]⟩ := by
  have hterms := terms_of_not_mem (Requirement.comma_not_mem_of_written hplain h)
    (Requirement.trimChars_ne_nil_of_written hplain h)
  rw [read_eq_ok_iff, hterms, List.mapM_cons, Requirement.ofTerm?_of_written hplain h]
  rfl

/-- Requirements that are written with commas between them are read back, in their order. -/
theorem read_intercalate {rs : List Requirement} {texts : List String}
    (hplain : ∀ r ∈ rs, r.IsPlain)
    (h : List.Forall₂ (fun r text => r.Written text.toList) rs texts) :
    read (",".intercalate texts) = .ok ⟨rs⟩ := by
  induction h with
  | nil => rfl
  | @cons r text rs texts hfirst hrest ih =>
    have hone := read_of_written (hplain r List.mem_cons_self) hfirst
    have hothers := ih fun s hs => hplain s (List.mem_cons_of_mem r hs)
    cases hrest with
    | nil => exact hone
    | cons hsecond hrest =>
      rw [String.intercalate_cons_cons]
      exact read_append.2 ⟨_, _, hone, hothers, rfl⟩

/-- What is promised of a reader of selectors. -/
structure ReadsTerms (read : String → Except SourceError Selector) : Prop where
  /-- Two texts with a comma between them can be read if each of them can. -/
  isRead (a b : String) : (∃ w, read (a ++ "," ++ b) = .ok w) ↔
    (∃ s, read a = .ok s) ∧ ∃ u, read b = .ok u
  /-- The selector has the requirements of both then, and labels meet it if they meet each. -/
  append (a b : String) (s u w : Selector) : read a = .ok s → read b = .ok u →
    read (a ++ "," ++ b) = .ok w → w.requirements = s.requirements ++ u.requirements ∧
      ∀ labels, w.accepts labels ↔ s.accepts labels ∧ u.accepts labels
  /-- What is written is read back. -/
  written (rs : List Requirement) (texts : List String) : (∀ r ∈ rs, r.IsPlain) →
    List.Forall₂ (fun r text => r.Written text.toList) rs texts →
    read (",".intercalate texts) = .ok ⟨rs⟩
  /-- Without requirements there is nothing to meet. -/
  nothing (labels : Labels) : (⟨[]⟩ : Selector).accepts labels

theorem readsTerms_read : ReadsTerms read where
  isRead := by
    intro a b
    constructor
    · rintro ⟨w, hw⟩
      obtain ⟨s, u, hs, hu, -⟩ := read_append.1 hw
      exact ⟨⟨s, hs⟩, ⟨u, hu⟩⟩
    · rintro ⟨⟨s, hs⟩, ⟨u, hu⟩⟩
      exact ⟨_, read_append.2 ⟨s, u, hs, hu, rfl⟩⟩
  append := by
    intro a b s u w hs hu hw
    have happend := read_append.2 ⟨s, u, hs, hu, rfl⟩
    rw [hw] at happend
    obtain rfl := Except.ok.inj happend
    refine ⟨rfl, fun labels => ?_⟩
    rw [accepts_append, Bool.and_eq_true]
  written := fun _ _ => read_intercalate
  nothing := fun _ => rfl

/-- A requirement of every kind. -/
def everyKind : List Requirement :=
  [.equals "app" "web", .equals "tier" "", .differs "env" "a!b c", .absent "canary",
    .present "zone"]

/-- The ways to write a requirement, with blanks in different places. -/
def everyForm : List String := ["app = web ", " tier== ", "env!=a!b c", "! canary", " zone"]

theorem readsTerms_everyForm : (∀ r ∈ everyKind, r.IsPlain) ∧
    List.Forall₂ (fun r text => r.Written text.toList) everyKind everyForm ∧
    read "app = web , tier== ,env!=a!b c,! canary, zone" = .ok ⟨everyKind⟩ := by
  have hplain : ∀ r ∈ everyKind, r.IsPlain := by decide
  have hnone : AllBlank [] := by decide
  have hone : AllBlank [' '] := by decide
  have hwritten : List.Forall₂ (fun r text => r.Written text.toList) everyKind everyForm := by
    refine .cons ?_ (.cons ?_ (.cons ?_ (.cons ?_ (.cons ?_ .nil))))
    · exact .equals hnone hone hone hone
    · exact .same hone hnone hone hnone
    · exact .differs hnone hnone hnone hnone
    · exact .absent hnone hone hnone
    · exact .present hone hnone
  have htext : ",".intercalate everyForm = "app = web , tier== ,env!=a!b c,! canary, zone" := by
    decide +kernel
  exact ⟨hplain, hwritten, htext ▸ readsTerms_read.written everyKind everyForm hplain hwritten⟩

end Selector

end ResourceBrowser.Cluster
