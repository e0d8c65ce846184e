import BearerGate.Json.Lexer
import BearerGate.Proofs.Text.Digit

/-!
# Integers are read as they are written

The digits of a number have no zero in front, and together they amount to the number. So the
literal that is scanned in a written integer is `Literal.ofInteger`, provided that nothing follows
that could go on with it (`NumberEnds`), and it stands for the integer again if that fits into 64
bits.
-/

namespace BearerGate.Json

open BearerGate.Text (Glyph)

/-- The literal of an integer. -/
def Literal.ofInteger (n : Int) : Literal :=
  ⟨n < 0, Text.values 10 n.natAbs, [], none⟩

/-- A text that cannot go on with a number. -/
def NumberEnds (text : List Glyph) : Prop :=
  ∀ c, text.head? = some (some c) → Text.digit? 10 c = none ∧ c ≠ '.' ∧ c ≠ 'e' ∧ c ≠ 'E'

/-! ## Scanning -/

theorem scanDigits_append {chars : List Char}
    (digits : ∀ c ∈ chars, Text.digit? 10 c = some (Text.valueOf c)) {rest : List Glyph}
    (ends : ∀ c, rest.head? = some (some c) → Text.digit? 10 c = none) :
    scanDigits (chars.map some ++ rest) = (chars.map Text.valueOf, rest) := by
  induction chars with
  | nil =>
    cases rest with
    | nil => rfl
    | cons g rest =>
      have stop : digit? g = none := by
        cases g with
        | none => rfl
        | some c => exact ends c rfl
      rw [List.map_nil, List.nil_append, scanDigits, stop]
      rfl
  | cons c chars ih =>
    have here : digit? (some c) = some (Text.valueOf c) := digits c List.mem_cons_self
    have later := ih fun d member => digits d (List.mem_cons_of_mem c member)
    rw [List.map_cons, List.cons_append, scanDigits, here]
    simp only [later]
    rfl

theorem scanFraction_of_ends {rest : List Glyph} (ends : NumberEnds rest) :
    scanFraction rest = some ([], rest) := by
  unfold scanFraction
  split
  · exact ((ends '.' rfl).2.1 rfl).elim
  · rfl

theorem scanPower_of_ends {rest : List Glyph} (ends : NumberEnds rest) :
    scanPower rest = some (none, rest) := by
  unfold scanPower
  split
  · exact ((ends 'e' rfl).2.2.1 rfl).elim
  · exact ((ends 'E' rfl).2.2.2 rfl).elim
  · rfl

/-- The digits of a number are scanned as its literal. -/
theorem scanNumber_toDigits (negative : Bool) (n : Nat) {rest : List Glyph}
    (ends : NumberEnds rest) :
    scanNumber negative ((Nat.toDigits 10 n).map some ++ rest) =
      some (⟨negative, Text.values 10 n, [], none⟩, rest) := by
  have scanned : scanDigits ((Nat.toDigits 10 n).map some ++ rest) = (Text.values 10 n, rest) := by
    apply scanDigits_append
    · intro c found
      exact Text.digit?_of_mem_toDigits (by decide) (by decide) found
    · intro c first
      exact (ends c first).1
  have allowed : ¬ (Text.values 10 n = [] ∨
      ((Text.values 10 n).head? = some 0 ∧ (Text.values 10 n).length ≠ 1)) := by
    rintro (nothing | ⟨zero, long⟩)
    · exact Nat.toDigits_ne_nil (List.map_eq_nil_iff.mp nothing)
    · rcases Nat.eq_zero_or_pos n with rfl | positive
      · exact long rfl
      · exact Text.head?_values_ne positive zero
  unfold scanNumber
  rw [scanned]
  dsimp only
  rw [if_neg allowed, scanFraction_of_ends ends]
  dsimp only [Option.bind_eq_bind, Option.bind_some]
  rw [scanPower_of_ends ends]
  rfl

/-- What begins like a number is no other token. -/
theorem scanToken_digitChar : ∀ {d : Nat}, d < 10 → isSpace (Nat.digitChar d) = false ∧
    punctuation? (Nat.digitChar d) = none ∧ Nat.digitChar d ≠ '"' ∧ Nat.digitChar d ≠ '-' ∧
    (digit? (some (Nat.digitChar d))).isSome = true := by
  decide

/-- A written integer is one token, if what follows does not go on with it. -/
theorem scanToken_integerChars (n : Int) {rest : List Glyph} (ends : NumberEnds rest) :
    ∃ c text, (integerChars n).map some ++ rest = some c :: text ∧ isSpace c = false ∧
      scanToken c text = some (.number (.ofInteger n), rest) := by
  unfold integerChars
  by_cases negative : n < 0
  · rw [if_pos negative]
    refine ⟨'-', (Nat.toDigits 10 n.natAbs).map some ++ rest, rfl, rfl, ?_⟩
    change (scanNumber true _).map _ = _
    rw [scanNumber_toDigits true n.natAbs ends, Option.map_some, Literal.ofInteger,
      decide_eq_true negative]
  · rw [if_neg negative, List.nil_append]
    have scanned := scanNumber_toDigits false n.natAbs ends
    cases digits : Nat.toDigits 10 n.natAbs with
    | nil => exact (Nat.toDigits_ne_nil digits).elim
    | cons c chars =>
      obtain ⟨d, bound, first⟩ := Text.exists_digitChar (by decide)
        (digits ▸ List.mem_cons_self : c ∈ Nat.toDigits 10 n.natAbs)
      obtain ⟨blank, mark, quote, minus, isDigit⟩ := scanToken_digitChar bound
      rw [← first] at blank mark quote minus isDigit
      rw [digits, List.map_cons, List.cons_append] at scanned
      refine ⟨c, chars.map some ++ rest, rfl, blank, ?_⟩
      unfold scanToken
      rw [mark]
      dsimp only
      rw [if_neg quote, if_neg minus, if_pos isDigit, scanned, Option.map_some, Literal.ofInteger,
        decide_eq_false negative]

/-! ## The integer that a literal stands for -/

theorem collect_of_le {digits : List Nat} {n : Nat}
    (bound : digits.foldl (fun n d => n * 10 + d) n ≤ maxSignificand) :
    collect n digits = (digits.foldl (fun n d => n * 10 + d) n, 0) := by
  induction digits generalizing n with
  | nil => rfl
  | cons d digits ih =>
    rw [List.foldl_cons] at bound ⊢
    have here := Nat.le_trans (Text.le_foldl_digits (by decide) digits (n * 10 + d)) bound
    rw [collect, if_neg (Nat.not_lt.mpr here), ih bound]

/-- An integer of 64 bits, with or without a sign, is what its literal stands for. -/
theorem Number.ofLiteral?_ofInteger {n : Int} (low : -0x8000000000000000 ≤ n)
    (high : n ≤ 0xFFFFFFFFFFFFFFFF) : ofLiteral? (.ofInteger n) = some (.integer n) := by
  have value : (Text.values 10 n.natAbs).foldl (fun n d => n * 10 + d) 0 = n.natAbs :=
    Text.ofDigits_values (by decide) (by decide) n.natAbs
  have bound : (Text.values 10 n.natAbs).foldl (fun n d => n * 10 + d) 0 ≤ maxSignificand := by
    rw [value, maxSignificand]
    omega
  have collected : collect 0 (Literal.ofInteger n).whole = (n.natAbs, 0) := by
    rw [Literal.ofInteger, collect_of_le bound, value]
  unfold ofLiteral?
  rw [collected]
  dsimp only
  rw [if_pos ⟨rfl, rfl, rfl⟩]
  by_cases negative : n < 0
  · have sign : (Literal.ofInteger n).negative = true := decide_eq_true negative
    have value : -(n.natAbs : Int) = n := by omega
    rw [sign, if_pos rfl, if_neg (by omega), value]
  · have sign : (Literal.ofInteger n).negative = false := decide_eq_false negative
    have value : (n.natAbs : Int) = n := by omega
    rw [sign, if_neg Bool.false_ne_true, value]

theorem collect_fst_le {digits : List Nat} {n : Nat} (bound : n ≤ maxSignificand) :
    (collect n digits).1 ≤ maxSignificand := by
  induction digits generalizing n with
  | nil => exact bound
  | cons d digits ih =>
    rw [collect]
    split
    · exact bound
    · next fits => exact ih (Nat.not_lt.mp fits)

/-- An integer that is read has 64 bits, with or without a sign. -/
theorem Number.bounds_of_ofLiteral? {literal : Literal} {n : Int}
    (read : ofLiteral? literal = some (.integer n)) :
    -0x8000000000000000 ≤ n ∧ n ≤ 0xFFFFFFFFFFFFFFFF := by
  have bound : (collect 0 literal.whole).1 ≤ 0xFFFFFFFFFFFFFFFF :=
    collect_fst_le (Nat.zero_le maxSignificand)
  unfold ofLiteral? at read
  dsimp only at read
  split at read
  · split at read
    · split at read
      · cases read
      · cases read
        omega
    · cases read
      omega
  · obtain ⟨value, -, same⟩ := Option.map_eq_some_iff.mp read
    cases same

end BearerGate.Json
