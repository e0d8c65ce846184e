import BearerGate.Text.Blank

/-!
# Blank characters at the ends of a text

Blank characters at either end of a text do not show once it is trimmed (`trim_eq_of_repadded`), and
whether a text is blank does not hang on them either (`isBlankText_eq_of_repadded`).
-/

namespace BearerGate.Text

/-- The text is `core` with blank characters in front of it and behind it, if any. -/
structure Pads (core text : String) : Prop where
  padded : ∃ front back : List Char, (∀ c ∈ front, isBlank c = true) ∧
    (∀ c ∈ back, isBlank c = true) ∧ text.toList = front ++ core.toList ++ back

/-- The texts differ in blank characters at their ends, if at all. -/
def Repadded (text other : String) : Prop :=
  ∃ core, Pads core text ∧ Pads core other

theorem Pads.refl (text : String) : Pads text text :=
  ⟨[], [], by simp, by simp, by simp⟩

/-- Blank characters may be put at the ends of a text. -/
theorem repadded_of_pads {core text : String} (pads : Pads core text) : Repadded core text :=
  ⟨core, .refl core, pads⟩

theorem Repadded.symm {text other : String} (same : Repadded text other) : Repadded other text := by
  obtain ⟨core, left, right⟩ := same
  exact ⟨core, right, left⟩

theorem dropWhile_isBlank {cs : List Char} (blank : ∀ c ∈ cs, isBlank c = true) :
    cs.dropWhile isBlank = [] := by
  have dropped : (cs ++ []).dropWhile isBlank = [].dropWhile isBlank :=
    List.dropWhile_append_of_pos blank
  rwa [List.append_nil] at dropped

theorem trimChars_append {core front back : List Char} (before : ∀ c ∈ front, isBlank c = true)
    (behind : ∀ c ∈ back, isBlank c = true) :
    trimChars (front ++ core ++ back) = trimChars core := by
  unfold trimChars
  rw [List.append_assoc, List.dropWhile_append_of_pos before, List.dropWhile_append]
  cases rest : core.dropWhile isBlank with
  | nil => rw [dropWhile_isBlank behind]; rfl
  | cons c cs =>
    have reversed : ∀ c ∈ back.reverse, isBlank c = true :=
      fun c found => behind c (List.mem_reverse.mp found)
    rw [if_neg (by simp), List.reverse_append, List.dropWhile_append_of_pos reversed]

theorem trim_of_isBlankText {text : String} (blank : isBlankText text = true) : trim text = "" := by
  unfold trim trimChars
  rw [dropWhile_isBlank (List.all_eq_true.mp blank)]
  rfl

theorem trim_eq_self {text : String} (solid : ∀ c ∈ text.toList, isBlank c = false) :
    trim text = text := by
  have kept : ∀ {cs : List Char}, (∀ c ∈ cs, isBlank c = false) → cs.dropWhile isBlank = cs := by
    intro cs solid
    cases cs with
    | nil => rfl
    | cons c rest => rw [List.dropWhile_cons_of_neg (by simp [solid c List.mem_cons_self])]
  have reversed : ∀ c ∈ text.toList.reverse, isBlank c = false :=
    fun c found => solid c (List.mem_reverse.mp found)
  unfold trim trimChars
  rw [kept solid, kept reversed, List.reverse_reverse, String.ofList_toList]

/-- The case of letters does not matter to whether a character is blank. -/
theorem isBlank_lowerAscii (c : Char) : isBlank (lowerAscii c) = isBlank c := by
  unfold lowerAscii
  split
  · next upper =>
    have low : 65 ≤ c.toNat := upper.1
    have high : c.toNat ≤ 90 := upper.2
    have valid : (c.toNat + 32).isValidChar := .inl (by omega)
    have lowered : (Char.ofNat (c.toNat + 32)).toNat = c.toNat + 32 := by
      rw [Char.ofNat, dif_pos valid]
      rfl
    unfold isBlank
    rw [lowered]
    grind
  · rfl

theorem solid_of_lowerText {text word : String} (lowered : lowerText text = word)
    (solid : ∀ c ∈ word.toList, isBlank c = false) : ∀ c ∈ text.toList, isBlank c = false := by
  intro c found
  rw [← isBlank_lowerAscii]
  refine solid _ ?_
  rw [← lowered, lowerText, String.toList_ofList]
  exact List.mem_map_of_mem found

theorem Pads.trim_eq {core text : String} (pads : Pads core text) : trim text = trim core := by
  obtain ⟨front, back, before, behind, split⟩ := pads.padded
  unfold trim
  rw [split, trimChars_append before behind]

theorem Pads.isBlankText_eq {core text : String} (pads : Pads core text) :
    isBlankText text = isBlankText core := by
  obtain ⟨front, back, before, behind, split⟩ := pads.padded
  unfold isBlankText
  rw [split, List.all_append, List.all_append, List.all_eq_true.mpr before,
    List.all_eq_true.mpr behind, Bool.true_and, Bool.and_true]

/-- Blank characters at the ends do not show in the trimmed text. -/
theorem trim_eq_of_repadded {text other : String} (same : Repadded text other) :
    trim text = trim other := by
  obtain ⟨core, left, right⟩ := same
  rw [left.trim_eq, right.trim_eq]

theorem isBlankText_eq_of_repadded {text other : String} (same : Repadded text other) :
    isBlankText text = isBlankText other := by
  obtain ⟨core, left, right⟩ := same
  rw [left.isBlankText_eq, right.isBlankText_eq]

end BearerGate.Text
