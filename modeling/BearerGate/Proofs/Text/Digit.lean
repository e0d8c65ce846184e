import BearerGate.Text.Digit
import Mathlib.Data.Nat.Digits.Defs

/-!
# Written numbers

The digits of a number to a base of at most sixteen are digits to that base, and they denote the
number (`ofDigits_values`).
-/

namespace BearerGate.Text

/-- Where every item can be read, all of them can. -/
theorem mapM_eq_some_map {α β : Type} {read : α → Option β} {value : α → β} {items : List α}
    (each : ∀ item ∈ items, read item = some (value item)) :
    items.mapM read = some (items.map value) := by
  induction items with
  | nil => rfl
  | cons item items ih =>
    obtain ⟨here, there⟩ := List.forall_mem_cons.mp each
    rw [List.mapM_cons, here, ih there]
    rfl

/-- The value of a character that is known to be a digit. -/
def valueOf (c : Char) : Nat := (hexDigit? c).getD 0

/-- The values of the digits of a number. -/
def values (base n : Nat) : List Nat :=
  (Nat.toDigits base n).map valueOf

/-- Further digits make a number no smaller. -/
theorem le_foldl_digits {base : Nat} (positive : 0 < base) (digits : List Nat) (n : Nat) :
    n ≤ digits.foldl (fun n d => n * base + d) n := by
  induction digits generalizing n with
  | nil => exact Nat.le_refl n
  | cons d digits ih =>
    calc
      n ≤ n * base + d := Nat.le_trans (Nat.le_mul_of_pos_right n positive) (Nat.le_add_right _ d)
      _ ≤ digits.foldl (fun n d => n * base + d) (n * base + d) := ih _

theorem hexDigit?_digitChar : ∀ d < 16, hexDigit? (Nat.digitChar d) = some d := by decide

theorem valueOf_digitChar {d : Nat} (bound : d < 16) : valueOf (Nat.digitChar d) = d := by
  rw [valueOf, hexDigit?_digitChar d bound]
  rfl

theorem toString_toList (n : Nat) : (toString n).toList = Nat.toDigits 10 n :=
  String.toList_ofList

section Base

variable {base : Nat} (low : 1 < base) (high : base ≤ 16)

include low

/-- The digits of a number by their values. -/
theorem toDigits_cases (n : Nat) :
    (n < base ∧ Nat.toDigits base n = [Nat.digitChar n]) ∨
      (0 < n / base ∧
        Nat.toDigits base n = Nat.toDigits base (n / base) ++ [Nat.digitChar (n % base)]) := by
  by_cases small : n < base
  · exact .inl ⟨small, Nat.toDigits_of_lt_base small⟩
  · have large : base ≤ n := Nat.not_lt.mp small
    exact .inr ⟨Nat.div_pos large (by omega), Nat.toDigits_of_base_le low large⟩

theorem exists_digitChar {n : Nat} {c : Char} (found : c ∈ Nat.toDigits base n) :
    ∃ d < base, c = Nat.digitChar d := by
  induction n using Nat.strongRecOn with
  | ind n ih =>
    rcases toDigits_cases low n with ⟨small, digits⟩ | ⟨more, digits⟩
    · rw [digits, List.mem_singleton] at found
      exact ⟨n, small, found⟩
    · rw [digits, List.mem_append, List.mem_singleton] at found
      rcases found with front | last
      · refine ih (n / base) (Nat.div_lt_self ?_ low) front
        exact Nat.pos_of_ne_zero fun zero => by simp [zero] at more
      · exact ⟨n % base, Nat.mod_lt n (by omega), last⟩

include high

theorem digit?_digitChar {d : Nat} (bound : d < base) : digit? base (Nat.digitChar d) = some d := by
  unfold digit?
  rw [hexDigit?_digitChar d (by omega), Option.filter_some, if_pos (decide_eq_true bound)]

theorem digit?_of_mem_toDigits {n : Nat} {c : Char} (found : c ∈ Nat.toDigits base n) :
    digit? base c = some (valueOf c) := by
  obtain ⟨d, bound, rfl⟩ := exists_digitChar low found
  rw [digit?_digitChar low high bound, valueOf_digitChar (Nat.lt_of_lt_of_le bound high)]

/-- The digits of a number denote it. -/
theorem ofDigits_values (n : Nat) : ofDigits base (values base n) = n := by
  have value {d : Nat} (bound : d < base) : valueOf (Nat.digitChar d) = d :=
    valueOf_digitChar (Nat.lt_of_lt_of_le bound high)
  unfold ofDigits values
  induction n using Nat.strongRecOn with
  | ind n ih =>
    rcases toDigits_cases low n with ⟨small, digits⟩ | ⟨more, digits⟩
    · rw [digits, List.map_singleton, List.foldl_cons, List.foldl_nil, value small]
      omega
    · have less : n / base < n := by
        refine Nat.div_lt_self ?_ low
        exact Nat.pos_of_ne_zero fun zero => by simp [zero] at more
      rw [digits, List.map_append, List.foldl_append, ih (n / base) less, List.map_singleton,
        List.foldl_cons, List.foldl_nil, value (Nat.mod_lt n (by omega)), Nat.mul_comm]
      exact Nat.div_add_mod n base

theorem mapM_digit? (n : Nat) : (Nat.toDigits base n).mapM (digit? base) = some (values base n) :=
  mapM_eq_some_map fun _ found => digit?_of_mem_toDigits low high found

end Base

/-- Only the number zero begins with a zero. -/
theorem head?_toDigits_ne {n : Nat} (positive : 0 < n) :
    (Nat.toDigits 10 n).head? ≠ some '0' := by
  have low : 1 < 10 := by decide
  induction n using Nat.strongRecOn with
  | ind n ih =>
    rcases toDigits_cases low n with ⟨small, digits⟩ | ⟨more, digits⟩
    · have nonzero : ∀ d < 10, 0 < d → Nat.digitChar d ≠ '0' := by decide
      rw [digits]
      exact fun zero => nonzero n small positive (Option.some.inj zero)
    · have front := ih (n / 10) (by omega) more
      obtain ⟨c, cs, split⟩ := List.exists_cons_of_ne_nil (Nat.toDigits_ne_nil (n := n / 10))
      rw [digits, split]
      rwa [split] at front

theorem head?_values_ne {n : Nat} (positive : 0 < n) : (values 10 n).head? ≠ some 0 := by
  intro zero
  rw [values, List.head?_map] at zero
  obtain ⟨c, first, value⟩ := Option.map_eq_some_iff.mp zero
  obtain ⟨d, bound, rfl⟩ := exists_digitChar (by decide) (List.mem_of_head? first)
  rw [valueOf_digitChar (Nat.lt_of_lt_of_le bound (by decide))] at value
  subst value
  exact head?_toDigits_ne positive first

end BearerGate.Text
