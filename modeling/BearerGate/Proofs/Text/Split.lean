import BearerGate.Text.Split

/-!
# Texts with marks

A text is split in only one way: the parts have no marks in them, and the marks between the parts
are all that the text has (`splitEach_eq_three_iff`). Split once, it has no mark before the one that
divides it (`splitOnce_eq_some_iff`). What is stripped from a text stood at its start
(`stripLead_eq_some_iff`).
-/

namespace BearerGate.Text

/-- Splitting is that of the standard library. -/
theorem splitEach_eq_splitOn (mark : Char) (text : List Char) :
    splitEach mark text = text.splitOn mark := by
  induction text with
  | nil => rfl
  | cons c rest ih =>
    rw [splitEach, List.splitOn_cons_eq_if_modifyHead, ih]
    by_cases split : c = mark
    · rw [if_pos split, if_pos (by simpa using split)]
    · rw [if_neg split, if_neg (by simpa using split)]
      cases parts : rest.splitOn mark with
      | nil => exact (List.splitOn_ne_nil mark rest parts).elim
      | cons part parts => rfl

theorem splitEach_ne_nil (mark : Char) (text : List Char) : splitEach mark text ≠ [] := by
  rw [splitEach_eq_splitOn]
  exact List.splitOn_ne_nil mark text

/-- No part has a mark in it. -/
theorem not_mem_of_mem_splitEach {mark : Char} {text part : List Char}
    (found : part ∈ splitEach mark text) : mark ∉ part := by
  induction text generalizing part with
  | nil =>
    rw [splitEach, List.mem_singleton] at found
    rw [found]
    exact List.not_mem_nil
  | cons c rest ih =>
    rw [splitEach] at found
    split at found
    · rcases List.mem_cons.mp found with rfl | later
      · exact List.not_mem_nil
      · exact ih later
    · next other =>
      cases parts : splitEach mark rest with
      | nil => exact (splitEach_ne_nil mark rest parts).elim
      | cons first more =>
        rw [parts] at found ih
        rcases List.mem_cons.mp found with rfl | later
        · rw [List.mem_cons, not_or]
          exact ⟨fun same => other same.symm, ih List.mem_cons_self⟩
        · exact ih (List.mem_cons_of_mem first later)

/-- The parts have no characters but those of the text. -/
theorem mem_of_mem_splitEach {mark c : Char} {text part : List Char}
    (found : part ∈ splitEach mark text) (member : c ∈ part) : c ∈ text := by
  induction text generalizing part with
  | nil =>
    rw [splitEach, List.mem_singleton] at found
    rw [found] at member
    exact member
  | cons d rest ih =>
    rw [splitEach] at found
    split at found
    · rcases List.mem_cons.mp found with rfl | later
      · exact absurd member List.not_mem_nil
      · exact List.mem_cons_of_mem d (ih later member)
    · cases parts : splitEach mark rest with
      | nil => exact (splitEach_ne_nil mark rest parts).elim
      | cons first more =>
        rw [parts] at found ih
        rcases List.mem_cons.mp found with rfl | later
        · rcases List.mem_cons.mp member with rfl | inside
          · exact List.mem_cons_self
          · exact List.mem_cons_of_mem d (ih List.mem_cons_self inside)
        · exact List.mem_cons_of_mem d (ih (List.mem_cons_of_mem first later) member)

theorem mem_intercalate {mark c : Char} {parts : List (List Char)}
    (found : c ∈ [mark].intercalate parts) : c = mark ∨ ∃ part ∈ parts, c ∈ part := by
  induction parts with
  | nil => exact absurd found List.not_mem_nil
  | cons part parts ih =>
    cases parts with
    | nil =>
      rw [List.intercalate_singleton] at found
      exact .inr ⟨part, List.mem_cons_self, found⟩
    | cons next parts =>
      rw [List.intercalate_cons_cons, List.mem_append, List.mem_append] at found
      rcases found with (here | between) | later
      · exact .inr ⟨part, List.mem_cons_self, here⟩
      · exact .inl (List.mem_singleton.mp between)
      · rcases ih later with same | ⟨other, member, inside⟩
        · exact .inl same
        · exact .inr ⟨other, List.mem_cons_of_mem part member, inside⟩

/-- A text has three parts if two marks stand in it. -/
theorem splitEach_eq_three_iff {mark : Char} {text a b c : List Char} :
    splitEach mark text = [a, b, c] ↔
      text = a ++ mark :: (b ++ mark :: c) ∧ mark ∉ a ∧ mark ∉ b ∧ mark ∉ c := by
  constructor
  · intro parts
    have free : ∀ part ∈ [a, b, c], mark ∉ part := by
      rw [← parts]
      exact fun part found => not_mem_of_mem_splitEach found
    have joined : [mark].intercalate (text.splitOn mark) = text := List.intercalate_splitOn mark
    rw [← splitEach_eq_splitOn, parts] at joined
    refine ⟨?_, free a (by simp), free b (by simp), free c (by simp)⟩
    rw [← joined]
    simp [List.intercalate]
  · rintro ⟨rfl, ha, hb, hc⟩
    rw [splitEach_eq_splitOn, List.splitOn_append_cons_self_of_not_mem ha,
      List.splitOn_append_cons_self_of_not_mem hb, List.splitOn_eq_singleton hc]

/-- A text is split once at its first mark. -/
theorem splitOnce_eq_some_iff {mark : Char} {text front back : List Char} :
    splitOnce mark text = some (front, back) ↔ text = front ++ mark :: back ∧ mark ∉ front := by
  induction text generalizing front with
  | nil =>
    constructor
    · intro split
      cases split
    · rintro ⟨text, -⟩
      simp at text
  | cons c rest ih =>
    rw [splitOnce]
    split
    · next same =>
      subst same
      constructor
      · intro split
        cases split
        exact ⟨rfl, List.not_mem_nil⟩
      · rintro ⟨text, free⟩
        cases front with
        | nil =>
          cases text
          rfl
        | cons first front =>
          cases text
          exact (free List.mem_cons_self).elim
    · next other =>
      simp only [Option.map_eq_some_iff, Prod.mk.injEq, Prod.exists]
      constructor
      · rintro ⟨before, after, split, rfl, rfl⟩
        obtain ⟨rfl, free⟩ := ih.mp split
        exact ⟨rfl, by simp [free, Ne.symm other]⟩
      · rintro ⟨text, free⟩
        cases front with
        | nil =>
          cases text
          exact (other rfl).elim
        | cons first front =>
          cases text
          exact ⟨front, back, ih.mpr ⟨rfl, fun found => free (List.mem_cons_of_mem _ found)⟩, rfl,
            rfl⟩

/-- A text starts with what can be stripped from it. -/
theorem stripLead_eq_some_iff {lead text rest : List Char} :
    stripLead lead text = some rest ↔ text = lead ++ rest := by
  induction lead generalizing text with
  | nil => rw [stripLead, Option.some_inj, List.nil_append]
  | cons l lead ih =>
    cases text with
    | nil => simp [stripLead]
    | cons c text =>
      rw [stripLead, List.cons_append, List.cons.injEq]
      by_cases same : l = c
      · rw [if_pos same, ih]
        exact ⟨fun found => ⟨same.symm, found⟩, fun found => found.2⟩
      · rw [if_neg same]
        exact ⟨fun found => (by cases found), fun found => absurd found.1.symm same⟩

theorem splitOnce_of_not_mem {mark : Char} {text : List Char} (free : mark ∉ text) :
    splitOnce mark text = none := by
  cases split : splitOnce mark text with
  | none => rfl
  | some parts =>
    have whole := (splitOnce_eq_some_iff.mp split).1
    exact absurd (whole ▸ List.mem_append_right _ List.mem_cons_self) free

end BearerGate.Text
