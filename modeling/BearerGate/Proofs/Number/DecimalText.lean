import BearerGate.Number.DecimalText
import BearerGate.Proofs.Text.Digit

/-!
# Decimal texts and their numbers

What a decimal text denotes is a natural number, however large (`DecimalText.Spells`), and a text
denotes one number at most. Reading below a limit gives just this number, and is refused if the
number is not below the limit (`parse_eq_ok_iff`): no number is ever given in place of another.
-/

namespace BearerGate.DecimalText

/-- The number that decimal digits stand for by their places. -/
def valueOf (digits : List Char) : Nat :=
  Text.ofDigits 10 (digits.map fun c => c.toNat - 48)

/-- The text is an optional plus sign and at least one decimal digit, and the digits stand for the
number. -/
structure Spells (text : String) (n : Nat) : Prop where
  digits : ∃ digits : List Char, (text.toList = digits ∨ text.toList = '+' :: digits) ∧
    digits ≠ [] ∧ (∀ c ∈ digits, Text.isDigit c = true) ∧ n = valueOf digits

theorem isDigit_iff {c : Char} : Text.isDigit c = true ↔ '0' ≤ c ∧ c ≤ '9' := by
  unfold Text.isDigit
  rw [Bool.and_eq_true, decide_eq_true_eq, decide_eq_true_eq]

theorem digit?_of_isDigit {c : Char} (digit : Text.isDigit c = true) :
    Text.digit? 10 c = some (c.toNat - 48) := by
  obtain ⟨low, high⟩ := isDigit_iff.mp digit
  have small : c.toNat - 48 < 10 := by
    have bound : c.toNat ≤ 57 := high
    omega
  unfold Text.digit? Text.hexDigit?
  rw [if_pos ⟨low, high⟩, Option.filter_some, if_pos (decide_eq_true small)]

theorem digit?_eq_none_of_not_isDigit {c : Char} (other : Text.isDigit c = false) :
    Text.digit? 10 c = none := by
  have away : ¬ ('0' ≤ c ∧ c ≤ '9') := by
    intro within
    rw [isDigit_iff.mpr within] at other
    cases other
  -- A letter is worth ten or more, so no decimal digit.
  unfold Text.digit? Text.hexDigit?
  rw [if_neg away]
  split
  · next letter =>
    have low : 97 ≤ c.toNat := letter.1
    rw [Option.filter_some, if_neg (by simp; omega)]
  · split
    · next letter =>
      have low : 65 ≤ c.toNat := letter.1
      rw [Option.filter_some, if_neg (by simp; omega)]
    · rfl

/-- Digits are read if all of them are digits and the number that they make stays below the limit.
-/
theorem appendDigits_eq_ok_iff {limit value n : Nat} (small : value < limit) {text : List Char} :
    appendDigits limit value text = .ok n ↔ (∀ c ∈ text, Text.isDigit c = true) ∧
      n = (text.map fun c => c.toNat - 48).foldl (fun n d => n * 10 + d) value ∧ n < limit := by
  induction text generalizing value with
  | nil =>
    change Except.ok value = Except.ok n ↔ _
    constructor
    · intro read
      cases read
      exact ⟨by simp, rfl, small⟩
    · rintro ⟨-, rfl, -⟩
      rfl
  | cons c rest ih =>
    rw [appendDigits]
    cases digit : Text.isDigit c with
    | false =>
      rw [digit?_eq_none_of_not_isDigit digit]
      constructor
      · intro read
        cases read
      · rintro ⟨all, -, -⟩
        rw [all c List.mem_cons_self] at digit
        cases digit
    | true =>
      rw [digit?_of_isDigit digit]
      dsimp only
      rw [List.forall_mem_cons, List.map_cons, List.foldl_cons]
      split
      · next below =>
        rw [ih below]
        exact ⟨fun ⟨all, rest⟩ => ⟨⟨digit, all⟩, rest⟩, fun ⟨⟨_, all⟩, rest⟩ => ⟨all, rest⟩⟩
      · next above =>
        -- Further digits make the number no smaller.
        constructor
        · intro read
          cases read
        · rintro ⟨-, rfl, bound⟩
          exact (above (Nat.lt_of_le_of_lt (Text.le_foldl_digits (by decide) _ _) bound)).elim

theorem unsigned_of_digits {digits : List Char} (some_digit : digits ≠ [])
    (all : ∀ c ∈ digits, Text.isDigit c = true) : unsigned digits = .ok digits := by
  have unsigned_sign : '+' ∉ digits := fun found => absurd (all '+' found) (by decide)
  unfold unsigned
  split
  · exact (some_digit rfl).elim
  · exact (unsigned_sign List.mem_cons_self).elim
  · exact (unsigned_sign List.mem_cons_self).elim
  · rfl

theorem unsigned_plus {digits : List Char} (some_digit : digits ≠ []) :
    unsigned ('+' :: digits) = .ok digits := by
  cases digits with
  | nil => exact (some_digit rfl).elim
  | cons c rest => rfl

theorem unsigned_cases (text : List Char) :
    (∃ fault, unsigned text = .error fault) ∨
      ∃ digits, unsigned text = .ok digits ∧ digits ≠ [] ∧
        (text = digits ∨ text = '+' :: digits) := by
  unfold unsigned
  split
  · exact .inl ⟨_, rfl⟩
  · exact .inl ⟨_, rfl⟩
  · next digits lone =>
    exact .inr ⟨digits, rfl, fun nothing => lone (by rw [nothing]), .inr rfl⟩
  · next nonempty _ _ => exact .inr ⟨text, rfl, nonempty, .inl rfl⟩

/-- The reading of a text is its number, if the number is below the limit. -/
theorem parse_eq_ok_iff {limit : Nat} (positive : 0 < limit) {text : String} {n : Nat} :
    parse limit text = .ok n ↔ Spells text n ∧ n < limit := by
  unfold parse
  constructor
  · intro read
    rcases unsigned_cases text.toList with ⟨fault, split⟩ | ⟨digits, split, some_digit, written⟩
    · rw [split] at read
      cases read
    · rw [split] at read
      obtain ⟨all, value, bound⟩ := (appendDigits_eq_ok_iff positive).mp read
      exact ⟨⟨digits, written, some_digit, all, value⟩, bound⟩
  · rintro ⟨⟨digits, written, some_digit, all, value⟩, bound⟩
    have split : unsigned text.toList = .ok digits := by
      rcases written with plain | signed
      · rw [plain]
        exact unsigned_of_digits some_digit all
      · rw [signed]
        exact unsigned_plus some_digit
    rw [split]
    exact (appendDigits_eq_ok_iff positive).mpr ⟨all, value, bound⟩

/-- A text denotes one number at most. -/
theorem Spells.unique {text : String} {n m : Nat} (left : Spells text n) (right : Spells text m) :
    n = m := by
  have here := (parse_eq_ok_iff (Nat.succ_pos (n + m))).mpr ⟨left, by omega⟩
  have there := (parse_eq_ok_iff (Nat.succ_pos (n + m))).mpr ⟨right, by omega⟩
  rw [here] at there
  exact Except.ok.inj there

end BearerGate.DecimalText
