import ResourceBrowser.Proofs.Key.Binding

/-!
# Presses and the texts that configure them

A character key with shift is configured by a text such as `Ctrl-Shift-x` and arrives as a press
that the terminal reports. Both are brought to a binding without shift, each in a way of its own:
a letter that is read with shift becomes a capital one, and a press keeps the character it came
with. So a press is what the text of its key is read as unless the terminal reports a small letter
together with shift.

* `Writes`: the texts for a character key with modifiers, `read?_of_writes`.
* `Meets`: the presses that a text is met by, `meets_of_writes`.
-/

namespace ResourceBrowser.Key

open Text

/-! ## Letter case -/

theorem isAlpha_of_isAlpha_toLower {c : Char} (h : c.toLower.isAlpha = true) :
    c.isAlpha = true := by
  cases hupper : c.isUpper with
  | true => exact isAlpha_of_isUpper hupper
  | false =>
    unfold Char.toLower at h
    split at h
    · rename_i hrange
      have hcapital : c.isUpper = true := decide_eq_true hrange
      rw [hcapital] at hupper
      cases hupper
    · exact h

theorem toUpper_of_not_isLower {c : Char} (h : c.isLower = false) : c.toUpper = c := by
  unfold Char.toUpper
  split
  · rename_i hrange
    have hsmall : c.isLower = true :=
      Bool.and_eq_true_iff.2 ⟨decide_eq_true hrange.1, decide_eq_true hrange.2⟩
    rw [hsmall] at h
    cases h
  · rfl

/-- The small letters are the characters that have another upper case. -/
theorem eq_toUpper_iff (c : Char) : c = c.toUpper ↔ c.isLower = false := by
  constructor
  · intro hsame
    by_contra hlower
    rw [Bool.not_eq_false] at hlower
    have halpha : c.isAlpha = true := by
      unfold Char.isAlpha
      rw [hlower, Bool.or_true]
    have hother := forall_of_isAlpha (P := fun c => c.isLower = true → c ≠ c.toUpper)
      (by decide) halpha hlower
    exact hother hsame
  · intro hlower
    exact (toUpper_of_not_isLower hlower).symm

/-- What is not a letter is its own upper case. -/
theorem toUpper_of_not_isAlpha {c : Char} (h : c.isAlpha = false) : c.toUpper = c :=
  toUpper_of_not_isLower (Bool.or_eq_false_iff.1 h).2

/-! ## Texts of character keys -/

/-- The names of the modifiers that can be read, in small letters. -/
def modifierNames : List (List Char) := ["shift".toList, "ctrl".toList, "alt".toList]

/-- The modifiers with given names, in any letter case. -/
def Modifiers.ofNames (names : List (List Char)) : Modifiers :=
  let held (name : String) : Bool := names.any fun n => n.map Char.toLower == name.toList
  { shift := held "shift", control := held "ctrl", alt := held "alt" }

/-- A text for a character key with modifiers: names of these modifiers in any order, each followed
by a dash, and the character. Blanks around the text and the letter case of the names do not
count. -/
def Writes (text : String) (m : Modifiers) (c : Char) : Prop :=
  ∃ (names : List (List Char)) (before after : List Char), AllBlank before ∧ AllBlank after ∧
    (∀ name ∈ names, name.map Char.toLower ∈ modifierNames) ∧ Modifiers.ofNames names = m ∧
    text.toList = before ++ (names.flatMap (· ++ ['-']) ++ [c]) ++ after

namespace Binding

/-- The names of modifiers consist of letters. -/
theorem isAlpha_of_mem_name {name : List Char} (h : name.map Char.toLower ∈ modifierNames) :
    ∀ c ∈ name, c.isAlpha = true := by
  intro c hc
  have hletters : ∀ name ∈ modifierNames, ∀ c ∈ name, c.isAlpha = true := by
    simp [modifierNames]
  exact isAlpha_of_isAlpha_toLower (hletters _ h _ (List.mem_map_of_mem hc))

theorem addModifier?_eq {m : Modifiers} {name : List Char}
    (h : name.map Char.toLower ∈ modifierNames) :
    addModifier? m name = some
      { m with
        shift := m.shift || name.map Char.toLower == "shift".toList
        control := m.control || name.map Char.toLower == "ctrl".toList
        alt := m.alt || name.map Char.toLower == "alt".toList } := by
  simp only [modifierNames, List.mem_cons, List.not_mem_nil, or_false] at h
  unfold addModifier?
  rcases h with h | h | h <;> simp [h]

/-- Names are read one after the other, and each adds its modifier. -/
theorem foldlM_addModifier? {names : List (List Char)}
    (h : ∀ name ∈ names, name.map Char.toLower ∈ modifierNames) (m : Modifiers) :
    names.foldlM addModifier? m = some
      { m with
        shift := m.shift || (Modifiers.ofNames names).shift
        control := m.control || (Modifiers.ofNames names).control
        alt := m.alt || (Modifiers.ofNames names).alt } := by
  induction names generalizing m with
  | nil => simp [Modifiers.ofNames]
  | cons name names ih =>
    have hrest : ∀ name ∈ names, name.map Char.toLower ∈ modifierNames :=
      fun n hn => h n (List.mem_cons_of_mem name hn)
    rw [List.foldlM_cons, addModifier?_eq (h name List.mem_cons_self)]
    refine (ih hrest _).trans ?_
    simp [Modifiers.ofNames, Bool.or_assoc]

theorem foldlM_names {names : List (List Char)}
    (h : ∀ name ∈ names, name.map Char.toLower ∈ modifierNames) :
    names.foldlM addModifier? {} = some (.ofNames names) := by
  rw [foldlM_addModifier? h]
  simp [Modifiers.ofNames]

theorem splitAll_names {names : List (List Char)} (h : ∀ name ∈ names, '-' ∉ name) {c : Char}
    (hc : c ≠ '-') : splitAll '-' (names.flatMap (· ++ ['-']) ++ [c]) = names ++ [[c]] := by
  induction names with
  | nil =>
    have hkey : '-' ∉ [c] := by simp [hc.symm]
    rw [List.flatMap_nil, List.nil_append, splitAll_eq_splitOn, List.splitOn_eq_singleton hkey]
    rfl
  | cons name names ih =>
    rw [List.flatMap_cons, List.append_assoc, List.append_assoc, List.singleton_append,
      splitAll_append_cons (h name List.mem_cons_self),
      ih fun n hn => h n (List.mem_cons_of_mem name hn), List.cons_append]

/-- A text for a character key is read as the key, with its modifiers but for shift: a letter
becomes a capital one instead. -/
theorem read?_of_writes {text : String} {m : Modifiers} {c : Char} (h : Writes text m c)
    (hdash : c ≠ '-') (hblank : isBlank c = false) :
    read? text = some (of (.char (if m.shift then c.toUpper else c)) m) := by
  obtain ⟨names, before, after, hbefore, hafter, hnames, rfl, htext⟩ := h
  have hplain : ∀ name ∈ names, ∀ d ∈ name, d ≠ '-' ∧ isBlank d = false :=
    fun name hname d hd => plain_of_isAlpha (isAlpha_of_mem_name (hnames name hname) d hd)
  have hnoBlank : NoBlank (names.flatMap (· ++ ['-']) ++ [c]) := by
    refine NoBlank.append ?_ (List.forall_mem_singleton.2 hblank)
    intro d hd
    obtain ⟨name, hname, hd⟩ := List.mem_flatMap.1 hd
    rcases List.mem_append.1 hd with hd | hd
    · exact (hplain name hname d hd).2
    · rw [List.mem_singleton.1 hd]
      rfl
  have htrim : trimChars text.toList = names.flatMap (· ++ ['-']) ++ [c] := by
    rw [htext, trimChars_append_blanks hafter, trimChars_blanks_append hbefore,
      trimChars_of_not_isBlank hnoBlank]
  have hparts : splitAll '-' (trimChars text.toList) = names ++ [[c]] := by
    rw [htrim]
    exact splitAll_names (fun name hname hmem => (hplain name hname '-' hmem).1 rfl) hdash
  refine read?_of_parts hparts (foldlM_names hnames) ?_
  cases halpha : c.isAlpha with
  | true => simp [code?, halpha]
  | false => simp [code?, halpha, toUpper_of_not_isAlpha halpha]

/-! ## Presses -/

/-- A press of a character key is told by the character and by the modifiers other than shift. -/
theorem ofPress_eq_iff (m : Modifiers) (c d : Char) :
    ofPress ⟨.char d, m⟩ = of (.char c) m ↔ d = c := by
  simp +contextual [ofPress, of, Code.isChar]

/-- How a text for a character key with shift is met by presses of character keys. -/
structure Meets (text : String) (m : Modifiers) (c : Char) : Prop where
  /-- The text can be read. Of the presses with its modifiers, the one that is reported with the
  upper case of the character stands for the same binding, and no other does. -/
  pressed : ∃ b, read? text = some b ∧ ∀ d, ofPress ⟨.char d, m⟩ = b ↔ d = c.toUpper
  /-- So the press that is reported with the very character stands for the same unless that is a
  small letter. -/
  same : read? text = some (ofPress ⟨.char c, m⟩) ↔ c.isLower = false

theorem meets_of_writes {text : String} {m : Modifiers} {c : Char} (h : Writes text m c)
    (hshift : m.shift = true) (hdash : c ≠ '-') (hblank : isBlank c = false) : Meets text m c := by
  have hread := read?_of_writes h hdash hblank
  rw [if_pos hshift] at hread
  refine ⟨⟨_, hread, ofPress_eq_iff m c.toUpper⟩, ?_⟩
  rw [hread, Option.some_inj, eq_comm, ofPress_eq_iff, eq_toUpper_iff]

/-- The names of the modifiers may stand in any order, with blanks around the text. -/
theorem meets_altShiftCtrlX :
    Writes " ALT-shift-Ctrl-x" { shift := true, control := true, alt := true } 'x' ∧
      Meets " ALT-shift-Ctrl-x" { shift := true, control := true, alt := true } 'x' := by
  have hwrites : Writes " ALT-shift-Ctrl-x" { shift := true, control := true, alt := true } 'x' :=
    ⟨["ALT".toList, "shift".toList, "Ctrl".toList], [' '], [], by decide, by decide, by decide,
      by decide, by decide⟩
  exact ⟨hwrites, meets_of_writes hwrites rfl (by decide) (by decide)⟩

/-- A press of shift that is reported with a small letter is not what the text for it is read as,
though the press that is reported with the capital letter is. -/
theorem not_same_smallF : Writes "Shift-f" { shift := true } 'f' ∧
    read? "Shift-f" = some (ofPress ⟨.char 'F', { shift := true }⟩) ∧
      read? "Shift-f" ≠ some (ofPress ⟨.char 'f', { shift := true }⟩) :=
  ⟨⟨["Shift".toList], [], [], by decide, by decide, by decide, by decide, by decide⟩, by decide,
    by decide⟩

end Binding

end ResourceBrowser.Key
