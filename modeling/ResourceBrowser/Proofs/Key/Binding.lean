import ResourceBrowser.Key.Binding
import ResourceBrowser.Proofs.Text.Blank

/-!
# Texts of bindings

A binding is shown in the notation that it is read from, between angle brackets. Reading the text
again gives the key with control and alt as they were. Shift is only shown for capital letters, where
the letter alone tells, and not for the keys that type no character. Two bindings of such a key that
differ in shift are shown alike.

* `Code.Readable`: the keys that can be read, `readable_of_read?`.
* `read?_inner`: what the text between the brackets is read as.
* `Displays`: which bindings are read back and which are shown alike, `displays_of_read?`.
-/

namespace ResourceBrowser.Key

open Text

/-! ## Letters -/

/-- What holds of every letter of ASCII holds of every letter, since there are no others. -/
theorem forall_of_isAlpha {P : Char → Prop}
    (h : ∀ n < 123, (Char.ofNat n).isAlpha = true → P (Char.ofNat n)) {c : Char}
    (hc : c.isAlpha = true) : P c := by
  have hlt : c.toNat < 123 := by
    have hle : c.toNat ≤ 90 ∨ c.toNat ≤ 122 := by
      rcases Bool.or_eq_true _ _ ▸ hc with hupper | hlower
      · exact .inl (of_decide_eq_true hupper).2
      · exact .inr (of_decide_eq_true (Bool.and_eq_true _ _ ▸ hlower).2)
    omega
  have hP := h c.toNat hlt
  rw [Char.ofNat_toNat] at hP
  exact hP hc

theorem isAlpha_of_isUpper {c : Char} (h : c.isUpper = true) : c.isAlpha = true := by
  unfold Char.isAlpha
  rw [h, Bool.true_or]

/-- A capital letter is the upper case of its lower case. -/
theorem toUpper_toLower {c : Char} (h : c.isUpper = true) :
    c.toLower.isAlpha = true ∧ c.toLower.toUpper = c := by
  have hall := forall_of_isAlpha
    (P := fun c => c.isUpper = true → c.toLower.isAlpha = true ∧ c.toLower.toUpper = c)
    (by decide) (isAlpha_of_isUpper h)
  exact hall h

theorem isAlpha_toUpper {c : Char} (h : c.isAlpha = true) : c.toUpper.isAlpha = true :=
  forall_of_isAlpha (P := fun c => c.toUpper.isAlpha = true) (by decide) h

theorem plain_of_isAlpha {c : Char} (h : c.isAlpha = true) : c ≠ '-' ∧ isBlank c = false :=
  forall_of_isAlpha (P := fun c => c ≠ '-' ∧ isBlank c = false) (by decide) h

/-! ## Keys that can be read -/

/-- The keys that can be read from a text. -/
inductive Code.Readable : Code → Prop where
  | char {c : Char} (hdash : c ≠ '-') (hblank : isBlank c = false) : Readable (.char c)
  | space : Readable (.char ' ')
  | function {n : Nat} (hn : n ∈ List.range' 1 12) : Readable (.function n)
  | enter : Readable .enter
  | esc : Readable .esc
  | tab : Readable .tab

namespace Binding

theorem readable_of_namedCode? {name : List Char} {code : Code} (h : namedCode? name = some code) :
    code.Readable := by
  unfold namedCode? at h
  dsimp only at h
  split at h
  · cases h
    exact .enter
  split at h
  · cases h
    exact .esc
  split at h
  · cases h
    exact .tab
  split at h
  · cases h
    exact .space
  split at h
  · obtain ⟨n, -, hn⟩ := Option.bind_eq_some_iff.1 h
    split at hn
    · rename_i hrange
      cases hn
      simp only [Bool.and_eq_true, decide_eq_true_eq] at hrange
      refine .function ?_
      rw [List.mem_range'_1]
      omega
    · cases hn
  · cases h

/-- A key is read from a part of a text, and the part that a trimmed text ends with ends in no
blank. -/
theorem readable_of_code? {m : Modifiers} {key : List Char} {code : Code} (hdash : '-' ∉ key)
    (hblank : ∀ c ∈ key.getLast?, isBlank c = false) (h : code? m key = some code) :
    code.Readable := by
  match key with
  | [] => cases h
  | [c] =>
    obtain rfl := Option.some.inj h
    split
    · rename_i hshift
      rw [Bool.and_eq_true] at hshift
      obtain ⟨hne, hnot⟩ := plain_of_isAlpha (isAlpha_toUpper hshift.2)
      exact .char hne hnot
    · exact .char (List.ne_of_not_mem_cons hdash).symm (hblank c rfl)
  | _ :: _ :: _ => exact readable_of_namedCode? h

/-! ## What a text is read as -/

/-- Those of the modifiers that no text names. -/
def unnamed (m : Modifiers) : Bool × Bool × Bool := (m.super, m.hyper, m.metaKey)

theorem unnamed_of_addModifier? {m m' : Modifiers} {name : List Char}
    (h : addModifier? m name = some m') : unnamed m' = unnamed m := by
  unfold addModifier? at h
  dsimp only at h
  split at h
  · cases h
    rfl
  split at h
  · cases h
    rfl
  split at h
  · cases h
    rfl
  · cases h

theorem unnamed_of_foldlM {m m' : Modifiers} {parts : List (List Char)}
    (h : parts.foldlM addModifier? m = some m') : unnamed m' = unnamed m := by
  induction parts generalizing m with
  | nil =>
    cases h
    rfl
  | cons part parts ih =>
    rw [List.foldlM_cons] at h
    obtain ⟨m₁, hfirst, hrest⟩ := Option.bind_eq_some_iff.1 h
    rw [ih hrest, unnamed_of_addModifier? hfirst]

/-- What is read has a key that can be read, and at most shift, control and alt with it. -/
theorem readable_of_read? {text : String} {b : Binding} (h : read? text = some b) :
    b.code.Readable ∧ unnamed b.modifiers = (false, false, false) := by
  obtain ⟨key, hkey, h⟩ := Option.bind_eq_some_iff.1 h
  obtain ⟨m, hm, h⟩ := Option.bind_eq_some_iff.1 h
  obtain ⟨code, hcode, h⟩ := Option.bind_eq_some_iff.1 h
  obtain rfl := Option.some.inj h
  refine ⟨?_, unnamed_of_foldlM hm⟩
  obtain ⟨parts, hparts⟩ := List.getLast?_eq_some_iff.1 hkey
  refine readable_of_code? (not_mem_of_mem_splitAll (List.mem_of_getLast? hkey)) ?_ hcode
  -- the trimmed text ends with the last character of its last part
  intro c hc
  obtain ⟨front, hfront⟩ := List.getLast?_eq_some_iff.1 hc
  obtain ⟨before, hbefore⟩ := suffix_of_splitAll hparts
  refine isBlank_of_getLast?_dropBlankEnd (text.toList.dropWhile isBlank) c ?_
  have hlast : trimChars text.toList = before ++ front ++ [c] := by
    rw [← hbefore, hfront, List.append_assoc]
  rw [trimChars] at hlast
  rw [hlast, List.getLast?_concat]
  rfl

theorem read?_of_parts {text : String} {parts : List (List Char)} {key : List Char} {m : Modifiers}
    {code : Code} (hparts : splitAll '-' (trimChars text.toList) = parts ++ [key])
    (hm : parts.foldlM addModifier? {} = some m) (hcode : code? m key = some code) :
    read? text = some (of code m) := by
  unfold read?
  rw [hparts]
  simp [hm, hcode]

/-! ## What a binding is shown as -/

/-- The text of a binding without the brackets. -/
def inner (b : Binding) : String :=
  (if b.modifiers.control then "ctrl-" else "") ++ (if b.modifiers.alt then "alt-" else "") ++
    b.code.name

theorem text_eq (b : Binding) : b.text = "<" ++ b.inner ++ ">" := by
  unfold text inner
  simp only [String.append_assoc]

/-- The same key with the same modifiers, but for shift. -/
def unshifted (b : Binding) : Binding := of b.code { b.modifiers with shift := false }

/-- The name of a key that is not a single character is a part of its own. -/
structure IsNamed (code : Code) : Prop where
  length : 2 ≤ code.name.toList.length
  noDash : '-' ∉ code.name.toList
  noBlank : NoBlank code.name.toList
  named : namedCode? code.name.toList = some code

instance : DecidablePred IsNamed := fun code => decidable_of_iff
  (2 ≤ code.name.toList.length ∧ '-' ∉ code.name.toList ∧
    NoBlank code.name.toList ∧ namedCode? code.name.toList = some code)
  ⟨fun ⟨h₁, h₂, h₃, h₄⟩ => ⟨h₁, h₂, h₃, h₄⟩, fun ⟨h₁, h₂, h₃, h₄⟩ => ⟨h₁, h₂, h₃, h₄⟩⟩

/-- How the name of a key is read: by its last part, with shift if there is a part before that. -/
structure Spells (code : Code) (front : List (List Char)) (key : List Char) (shift : Bool) :
    Prop where
  parts : splitAll '-' code.name.toList = front ++ [key]
  noBlank : NoBlank code.name.toList
  modifiers (m : Modifiers) : m.shift = false → front.foldlM addModifier? m = some { m with shift }
  named (m : Modifiers) : m.shift = shift → code? m key = some code
  isChar : shift = true → code.isChar = true

theorem spells_of_isNamed {code : Code} (h : IsNamed code) :
    Spells code [] code.name.toList false where
  parts := by
    rw [splitAll_eq_splitOn, List.splitOn_eq_singleton h.noDash]
    rfl
  noBlank := h.noBlank
  modifiers := by
    intro m hm
    rw [← hm]
    rfl
  named := by
    intro m _
    have hlength := h.length
    rw [← h.named]
    match hname : code.name.toList with
    | [] | [_] => simp [hname] at hlength
    | _ :: _ :: _ => rfl
  isChar := nofun

/-- A capital letter is shown as the small one with shift. -/
theorem spells_of_isUpper {c : Char} (hupper : c.isUpper = true) :
    Spells (.char c) ["shift".toList] [c.toLower] true := by
  obtain ⟨halpha, hsame⟩ := toUpper_toLower hupper
  obtain ⟨hdash, hblank⟩ := plain_of_isAlpha halpha
  have hname : (Code.char c).name.toList = "shift".toList ++ '-' :: [c.toLower] := by
    have hspace : c ≠ ' ' := by
      rintro rfl
      exact absurd hupper (by decide)
    simp [Code.name, hspace, hupper]
  constructor
  · have hkey : '-' ∉ [c.toLower] := by simp [hdash.symm]
    rw [hname, splitAll_eq_splitOn, List.splitOn_append_cons_self,
      List.splitOn_eq_singleton (by decide), List.splitOn_eq_singleton hkey]
  · have hshift : NoBlank "shift-".toList := by decide
    have hkey : NoBlank [c.toLower] := List.forall_mem_singleton.2 hblank
    rw [hname, List.append_cons]
    exact hshift.append hkey
  · intro m _
    rfl
  · intro m hm
    simp [code?, hm, halpha, hsame]
  · exact fun _ => rfl

/-- Any other character is shown as it is. -/
theorem spells_of_not_isUpper {c : Char} (hupper : ¬ c.isUpper = true) (hdash : c ≠ '-')
    (hblank : isBlank c = false) : Spells (.char c) [] [c] false := by
  have hname : (Code.char c).name.toList = [c] := by
    have hspace : c ≠ ' ' := by
      rintro rfl
      cases hblank
    simp [Code.name, hspace, hupper]
  constructor
  · have hkey : '-' ∉ [c] := by simp [hdash.symm]
    rw [hname, splitAll_eq_splitOn, List.splitOn_eq_singleton hkey]
    rfl
  · rw [hname]
    exact List.forall_mem_singleton.2 hblank
  · intro m hm
    rw [← hm]
    rfl
  · intro m hm
    simp [code?, hm]
  · exact nofun

theorem exists_spells {code : Code} (h : code.Readable) :
    ∃ front key shift, Spells code front key shift := by
  cases h with
  | @char c hdash hblank =>
    by_cases hupper : c.isUpper = true
    · exact ⟨_, _, _, spells_of_isUpper hupper⟩
    · exact ⟨_, _, _, spells_of_not_isUpper hupper hdash hblank⟩
  | function hn =>
    have hall : ∀ n ∈ List.range' 1 12, IsNamed (.function n) := by decide
    exact ⟨_, _, _, spells_of_isNamed (hall _ hn)⟩
  | space | enter | esc | tab => exact ⟨_, _, _, spells_of_isNamed (by decide)⟩

/-! ## Reading what is shown -/

/-- The parts before the name of the key. -/
def modifierParts (b : Binding) : List (List Char) :=
  (if b.modifiers.control then ["ctrl".toList] else []) ++
    if b.modifiers.alt then ["alt".toList] else []

theorem splitAll_inner (b : Binding) :
    splitAll '-' b.inner.toList = b.modifierParts ++ splitAll '-' b.code.name.toList := by
  have hctrl : ∀ rest : List Char, splitAll '-' ("ctrl-".toList ++ rest) =
      "ctrl".toList :: splitAll '-' rest :=
    splitAll_append_cons (show '-' ∉ "ctrl".toList by decide)
  have halt : ∀ rest : List Char, splitAll '-' ("alt-".toList ++ rest) =
      "alt".toList :: splitAll '-' rest :=
    splitAll_append_cons (show '-' ∉ "alt".toList by decide)
  unfold inner modifierParts
  rw [String.append_assoc, String.toList_append, String.toList_append]
  cases b.modifiers.control with
  | false =>
    cases b.modifiers.alt with
    | false => rfl
    | true => exact halt _
  | true =>
    refine (hctrl _).trans ?_
    cases b.modifiers.alt with
    | false => rfl
    | true => exact congrArg _ (halt _)

theorem foldlM_modifierParts (b : Binding) : b.modifierParts.foldlM addModifier? {} =
    some { control := b.modifiers.control, alt := b.modifiers.alt } := by
  unfold modifierParts
  cases b.modifiers.control <;> cases b.modifiers.alt <;> decide

theorem trimChars_inner {b : Binding} (h : NoBlank b.code.name.toList) :
    trimChars b.inner.toList = b.inner.toList := by
  have hctrl : NoBlank (if b.modifiers.control then "ctrl-" else "").toList := by
    cases b.modifiers.control <;> decide
  have halt : NoBlank (if b.modifiers.alt then "alt-" else "").toList := by
    cases b.modifiers.alt <;> decide
  unfold inner
  rw [String.toList_append, String.toList_append]
  exact trimChars_of_not_isBlank ((hctrl.append halt).append h)

/-- What is shown between the brackets is read as the binding, but without shift. -/
theorem read?_inner {b : Binding} (hcode : b.code.Readable)
    (hunnamed : unnamed b.modifiers = (false, false, false)) :
    read? b.inner = some b.unshifted := by
  obtain ⟨front, key, shift, hspells⟩ := exists_spells hcode
  have hparts : splitAll '-' (trimChars b.inner.toList) =
      (b.modifierParts ++ front) ++ [key] := by
    rw [trimChars_inner hspells.noBlank, splitAll_inner, hspells.parts, List.append_assoc]
  have hmodifiers : (b.modifierParts ++ front).foldlM addModifier? {} =
      some { shift, control := b.modifiers.control, alt := b.modifiers.alt } := by
    rw [List.foldlM_append, foldlM_modifierParts]
    exact hspells.modifiers _ rfl
  rw [read?_of_parts hparts hmodifiers (hspells.named _ rfl)]
  -- shift, if it was read, is dropped with the character
  have hshift : (shift && !b.code.isChar) = false := by
    cases shift with
    | false => rfl
    | true => rw [hspells.isChar rfl, Bool.not_true, Bool.and_false]
  obtain ⟨hsuper, hhyper, hmeta⟩ : b.modifiers.super = false ∧ b.modifiers.hyper = false ∧
      b.modifiers.metaKey = false := by simpa [unnamed] using hunnamed
  unfold unshifted of
  simp only [hshift, hsuper, hhyper, hmeta, Bool.false_and]

/-! ## Which bindings are told by their texts -/

/-- Reading the text of a binding without the brackets gives the binding. -/
def ReadsBack (b : Binding) : Prop := ∃ inner, b.text = "<" ++ inner ++ ">" ∧ read? inner = some b

theorem inner_eq_of_text {b : Binding} {inner : String} (h : b.text = "<" ++ inner ++ ">") :
    inner = b.inner := by
  rw [text_eq, String.append_left_inj, String.append_right_inj] at h
  exact h.symm

theorem readsBack_iff (b : Binding) : b.ReadsBack ↔ read? b.inner = some b := by
  constructor
  · rintro ⟨inner, htext, hread⟩
    rwa [← inner_eq_of_text htext]
  · intro hread
    exact ⟨b.inner, b.text_eq, hread⟩

theorem unshifted_eq_self_iff (b : Binding) : b.unshifted = b ↔ b.modifiers.shift = false := by
  obtain ⟨code, ⟨shift, control, alt, super, hyper, metaKey⟩, hshift⟩ := b
  unfold unshifted of
  simp [eq_comm]

/-- Shift is not shown. -/
theorem inner_unshifted (b : Binding) : b.unshifted.inner = b.inner := rfl

/-- What the text of a binding tells. -/
structure Displays (b : Binding) : Prop where
  /-- Between the brackets, the text tells the key, control and alt. -/
  read : ∃ inner, b.text = "<" ++ inner ++ ">" ∧ read? inner = some b.unshifted
  /-- So the binding is read back unless it has shift, which a character key never has. -/
  readsBack : b.ReadsBack ↔ b.modifiers.shift = false
  /-- Of all that can be read, a binding that is shown alike differs in shift at most. -/
  alike (other : String) (d : Binding) : read? other = some d →
    (b.text = d.text ↔ b.unshifted = d.unshifted)

theorem displays_of_read? {text : String} {b : Binding} (h : read? text = some b) :
    b.Displays := by
  obtain ⟨hcode, hunnamed⟩ := readable_of_read? h
  have hread := read?_inner hcode hunnamed
  refine ⟨⟨b.inner, b.text_eq, hread⟩, ?_, ?_⟩
  · rw [readsBack_iff, hread, Option.some_inj, unshifted_eq_self_iff]
  · intro other d hd
    obtain ⟨hcode', hunnamed'⟩ := readable_of_read? hd
    constructor
    · intro htext
      have hinner : b.inner = d.inner := inner_eq_of_text (htext ▸ b.text_eq)
      rw [hinner, read?_inner hcode' hunnamed'] at hread
      exact (Option.some.inj hread).symm
    · intro hsame
      rw [text_eq, text_eq, ← inner_unshifted, hsame, inner_unshifted]

/-- A capital letter with control and alt is told from every other key. -/
theorem displays_ctrlAltX : ∃ b, read? " CTRL-Alt-Shift-x" = some b ∧ b.Displays ∧
    b.text = "<ctrl-alt-shift-x>" ∧ b.ReadsBack := by
  have hread : read? " CTRL-Alt-Shift-x" = some (of (.char 'X') { control := true, alt := true }) := by
    decide
  have hdisplays := displays_of_read? hread
  exact ⟨_, hread, hdisplays, by decide, hdisplays.readsBack.2 rfl⟩

/-- A function key with shift is shown like the key alone. -/
theorem not_readsBack_shiftF3 : ∃ b d, read? "Shift-F3" = some b ∧ read? "F3" = some d ∧ b ≠ d ∧
    b.text = d.text ∧ ¬ b.ReadsBack := by
  refine ⟨of (.function 3) { shift := true }, of (.function 3) {}, by decide, by decide, by decide,
    by decide, ?_⟩
  rw [readsBack_iff]
  decide

end Binding

end ResourceBrowser.Key
