import Mathlib.Data.List.DropRight
import ResourceBrowser.Text.Blank

/-!
# Blanks and separators

Trimming a text that has no blanks at its ends changes nothing, so trimming twice is trimming once;
and a text that was put together with a separator is taken apart at the same place.

* `dropBlankEnd_eq`: dropping blanks at the end as the library does it.
* `trimChars_trimChars`, `trimChars_of_not_isBlank`: what trimming leaves as it is.
* `trimChars_blanks_append`, `trimChars_append_blanks`: blanks put around a text are trimmed away.
* `splitFirst_append`: the part before the first separator, and the rest behind it.
* `splitAll_eq_splitOn`, `suffix_of_splitAll`: the parts between separators.
-/

namespace ResourceBrowser.Text

/-! ## Trimming -/

theorem dropBlankEnd_cons_of_not_isBlank {c : Char} (h : isBlank c = false) (cs : List Char) :
    dropBlankEnd (c :: cs) = c :: dropBlankEnd cs := by
  rw [dropBlankEnd]
  split
  · rename_i hnil
    rw [hnil, h]
    rfl
  · rfl

/-- Blanks are dropped from the end as from the start of the text backwards. -/
theorem dropBlankEnd_eq (cs : List Char) : dropBlankEnd cs = cs.rdropWhile isBlank := by
  induction cs with
  | nil => rfl
  | cons c cs ih =>
    rw [dropBlankEnd, ih]
    unfold List.rdropWhile
    rw [List.reverse_cons, List.dropWhile_append]
    cases cs.reverse.dropWhile isBlank with
    | nil => cases hc : isBlank c <;> simp [hc]
    | cons d ds => simp

theorem dropBlankEnd_dropBlankEnd (cs : List Char) :
    dropBlankEnd (dropBlankEnd cs) = dropBlankEnd cs := by
  rw [dropBlankEnd_eq, dropBlankEnd_eq, List.rdropWhile_idempotent]

theorem prefix_dropBlankEnd (cs : List Char) : dropBlankEnd cs <+: cs := by
  rw [dropBlankEnd_eq]
  exact List.rdropWhile_prefix isBlank cs

theorem isBlank_of_getLast?_dropBlankEnd (cs : List Char) :
    ∀ c ∈ (dropBlankEnd cs).getLast?, isBlank c = false := by
  intro c hc
  rw [dropBlankEnd_eq] at hc
  obtain ⟨hne, rfl⟩ := List.mem_getLast?_eq_getLast hc
  exact Bool.eq_false_iff.2 (List.rdropWhile_last_not isBlank cs hne)

/-- It does not matter which end is trimmed first. -/
theorem trimChars_eq (cs : List Char) : trimChars cs = (dropBlankEnd cs).dropWhile isBlank := by
  unfold trimChars
  induction cs with
  | nil => rfl
  | cons c cs ih =>
    cases hc : isBlank c with
    | false =>
      rw [dropBlankEnd_cons_of_not_isBlank hc, List.dropWhile_cons_of_neg (by rw [hc]; decide),
        List.dropWhile_cons_of_neg (by rw [hc]; decide), dropBlankEnd_cons_of_not_isBlank hc]
    | true =>
      rw [List.dropWhile_cons_of_pos hc, ih, dropBlankEnd]
      split
      · rename_i hnil
        rw [hnil, hc]
        rfl
      · exact (List.dropWhile_cons_of_pos hc).symm

theorem trimChars_dropBlankEnd (cs : List Char) : trimChars (dropBlankEnd cs) = trimChars cs := by
  rw [trimChars_eq, dropBlankEnd_dropBlankEnd, trimChars_eq]

theorem trimChars_trimChars (cs : List Char) : trimChars (trimChars cs) = trimChars cs := by
  have hstart : trimChars (trimChars cs) = trimChars (cs.dropWhile isBlank) :=
    trimChars_dropBlankEnd _
  rw [hstart]
  unfold trimChars
  rw [List.dropWhile_idempotent]

/-! ## Blanks around a text -/

/-- A text of blanks, or of nothing. -/
def AllBlank (cs : List Char) : Prop := ∀ c ∈ cs, isBlank c = true

/-- A text without blanks. -/
def NoBlank (cs : List Char) : Prop := ∀ c ∈ cs, isBlank c = false

-- checked over the text, since the instance that is found otherwise may go through all characters
instance : DecidablePred AllBlank := fun cs =>
  decidable_of_iff (cs.all isBlank = true) List.all_eq_true

instance : DecidablePred NoBlank := fun cs =>
  decidable_of_iff (cs.any isBlank = false) (by simp [NoBlank])

theorem AllBlank.not_mem {cs : List Char} (h : AllBlank cs) {c : Char} (hc : isBlank c = false) :
    c ∉ cs := by
  intro hmem
  rw [h c hmem] at hc
  cases hc

theorem NoBlank.append {cs ds : List Char} (hcs : NoBlank cs) (hds : NoBlank ds) :
    NoBlank (cs ++ ds) :=
  List.forall_mem_append.2 ⟨hcs, hds⟩

/-- A text without blanks is trimmed as it stands. -/
theorem trimChars_of_not_isBlank {cs : List Char} (h : NoBlank cs) : trimChars cs = cs := by
  have hend : dropBlankEnd cs = cs := by
    rw [dropBlankEnd_eq, List.rdropWhile_eq_self_iff]
    intro hne
    exact Bool.eq_false_iff.1 (h _ (List.getLast_mem hne))
  have hstart : cs.dropWhile isBlank = cs := by
    cases cs with
    | nil => rfl
    | cons c cs => exact List.dropWhile_cons_of_neg (by rw [h c List.mem_cons_self]; decide)
  rw [trimChars, hstart, hend]

theorem dropBlankEnd_of_allBlank {cs : List Char} (h : AllBlank cs) : dropBlankEnd cs = [] := by
  rw [dropBlankEnd_eq]
  exact List.rdropWhile_eq_nil_iff.2 h

theorem dropBlankEnd_append {blanks : List Char} (h : AllBlank blanks) (cs : List Char) :
    dropBlankEnd (cs ++ blanks) = dropBlankEnd cs := by
  induction cs with
  | nil => exact dropBlankEnd_of_allBlank h
  | cons c cs ih => rw [List.cons_append, dropBlankEnd, dropBlankEnd, ih]

/-- What stands before a character that is no blank is kept. -/
theorem dropBlankEnd_append_cons {c : Char} (h : isBlank c = false) (before after : List Char) :
    dropBlankEnd (before ++ c :: after) = before ++ c :: dropBlankEnd after := by
  induction before with
  | nil => exact dropBlankEnd_cons_of_not_isBlank h after
  | cons d before ih =>
    rw [List.cons_append, dropBlankEnd, ih]
    cases before <;> rfl

theorem not_mem_dropBlankEnd {c : Char} (hc : isBlank c = false) {blanks cs : List Char}
    (hblanks : AllBlank blanks) (h : c ∉ cs) : c ∉ dropBlankEnd (blanks ++ cs) := by
  intro hmem
  rcases List.mem_append.1 ((prefix_dropBlankEnd _).subset hmem) with hblank | htext
  · exact hblanks.not_mem hc hblank
  · exact h htext

theorem trimChars_blanks_append {blanks : List Char} (h : AllBlank blanks) (cs : List Char) :
    trimChars (blanks ++ cs) = trimChars cs := by
  unfold trimChars
  rw [List.dropWhile_append_of_pos h]

theorem trimChars_append_blanks {blanks : List Char} (h : AllBlank blanks) (cs : List Char) :
    trimChars (cs ++ blanks) = trimChars cs := by
  rw [trimChars_eq, trimChars_eq, dropBlankEnd_append h]

/-- Digits are no blanks. -/
theorem isBlank_of_isDigit {c : Char} (h : c.isDigit = true) : isBlank c = false := by
  have hdigit : 48 ≤ c.toNat ∧ c.toNat ≤ 57 := by
    rw [Char.isDigit_iff_toNat] at h
    exact h
  unfold isBlank
  simp only [Bool.or_eq_false_iff, Bool.and_eq_false_iff, beq_eq_false_iff_ne, ne_eq,
    decide_eq_false_iff_not]
  omega

/-! ## Separators -/

/-- A separator is not found in a text that lacks one of its characters. -/
theorem splitFirst_eq_none {sep cs : List Char} {c : Char} (hsep : c ∈ sep) (h : c ∉ cs) :
    splitFirst sep cs = none := by
  induction cs with
  | nil => rfl
  | cons d cs ih =>
    have hprefix : ¬ sep.isPrefixOf (d :: cs) = true := by
      rw [List.isPrefixOf_iff_prefix]
      intro hstarts
      exact h (hstarts.subset hsep)
    rw [splitFirst, if_neg hprefix, ih fun hmem => h (List.mem_cons_of_mem d hmem)]
    rfl

/-- What lacks the first character of a separator is passed over. -/
theorem splitFirst_append_of_not_mem {c : Char} {sep before : List Char} (h : c ∉ before)
    (rest : List Char) : splitFirst (c :: sep) (before ++ rest) =
      (splitFirst (c :: sep) rest).map fun (first, after) => (before ++ first, after) := by
  induction before with
  | nil => simp
  | cons d before ih =>
    obtain ⟨hne, hrest⟩ := List.ne_and_not_mem_of_not_mem_cons h
    have hprefix : ¬ (c :: sep).isPrefixOf (d :: (before ++ rest)) = true := by
      rw [List.isPrefixOf_cons_cons, beq_false_of_ne hne]
      exact Bool.false_ne_true
    rw [List.cons_append, splitFirst, if_neg hprefix, ih hrest, Option.map_map]
    rfl

/-- A text is taken apart where the separator was put, unless it also stands before that place. -/
theorem splitFirst_append {sep : Char} {before : List Char} (h : sep ∉ before)
    (after : List Char) : splitFirst [sep] (before ++ sep :: after) = some (before, after) := by
  have hhere : splitFirst [sep] (sep :: after) = some ([], after) := by simp [splitFirst]
  rw [splitFirst_append_of_not_mem h, hhere, Option.map_some]
  dsimp only
  rw [List.append_nil]

/-- Taking a text apart at a character is what the library knows as splitting a list. -/
theorem splitAll_eq_splitOn (sep : Char) (cs : List Char) : splitAll sep cs = cs.splitOn sep := by
  induction cs with
  | nil => rfl
  | cons c cs ih =>
    rw [splitAll, List.splitOn_cons_eq_if_modifyHead, ih]
    cases h : cs.splitOn sep with
    | nil => exact absurd h (List.splitOn_ne_nil sep cs)
    | cons part parts => simp only [beq_iff_eq, List.modifyHead_cons]

/-- A text is taken apart at the first separator, and then behind it. -/
theorem splitAll_append_cons {sep : Char} {part : List Char} (h : sep ∉ part) (rest : List Char) :
    splitAll sep (part ++ sep :: rest) = part :: splitAll sep rest := by
  rw [splitAll_eq_splitOn, List.splitOn_append_cons_self_of_not_mem h, splitAll_eq_splitOn]

theorem not_mem_of_mem_splitAll {sep : Char} {cs part : List Char} (h : part ∈ splitAll sep cs) :
    sep ∉ part := by
  rw [splitAll_eq_splitOn] at h
  induction cs generalizing part with
  | nil =>
    obtain rfl := List.mem_singleton.1 h
    exact List.not_mem_nil
  | cons c cs ih =>
    rw [List.splitOn_cons_eq_if_modifyHead] at h
    split at h
    · rcases List.mem_cons.1 h with rfl | hrest
      · exact List.not_mem_nil
      · exact ih hrest
    · rename_i hne
      cases hparts : cs.splitOn sep with
      | nil => exact absurd hparts (List.splitOn_ne_nil sep cs)
      | cons first rest =>
        rw [hparts, List.modifyHead_cons] at h
        rcases List.mem_cons.1 h with rfl | hrest
        · have hfirst : sep ∉ first := ih (hparts ▸ List.mem_cons_self)
          have hc : sep ≠ c := fun heq => hne (beq_iff_eq.2 heq.symm)
          exact List.not_mem_cons_of_ne_of_not_mem hc hfirst
        · exact ih (hparts ▸ List.mem_cons_of_mem first hrest)

/-- A text ends with the last of its parts. -/
theorem suffix_of_splitAll {sep : Char} {cs part : List Char} {parts : List (List Char)}
    (h : splitAll sep cs = parts ++ [part]) : part <:+ cs := by
  have hjoin : [sep].intercalate (cs.splitOn sep) = cs := List.intercalate_splitOn sep
  rw [← splitAll_eq_splitOn, h] at hjoin
  rw [← hjoin]
  clear h hjoin
  induction parts with
  | nil =>
    have hone : [sep].intercalate ([] ++ [part]) = part := List.intercalate_singleton
    exact hone.symm ▸ List.suffix_rfl
  | cons first parts ih =>
    rw [List.cons_append, List.intercalate_cons_of_ne_nil (by simp)]
    exact ih.trans (List.suffix_append _ _)

end ResourceBrowser.Text
