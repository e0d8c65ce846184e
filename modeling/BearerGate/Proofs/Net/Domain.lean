import BearerGate.Net.Domain
import BearerGate.Proofs.Text.Digit
import BearerGate.Proofs.Text.Split
import Mathlib.Data.Bool.AllAny
import Mathlib.Data.List.Basic

/-!
# Domains in ASCII

What servers exchange of a domain is in ASCII, and nothing in it is forbidden
(`Domain.allowed_of_inAscii?`). No table of characters outside of ASCII has a say in how a domain in
small letters of ASCII is read, so it is read as it is, unless a label bears the mark of one in
another script (`Domain.inAscii?_of_isPlain`).
-/

namespace BearerGate

namespace Text

theorem mem_of_lastAtOrBelow {α : Type} {table : Array (Nat × α)} {code low width : Nat}
    {entry : Nat × α} (found : lastAtOrBelow table code low width = some entry) :
    entry ∈ table ∧ entry.1 ≤ code := by
  fun_induction lastAtOrBelow table code low width with
  | case1 low width narrow =>
    obtain ⟨other, here, same⟩ := Option.bind_eq_some_iff.mp found
    split at same
    · next below =>
      cases same
      exact ⟨Array.mem_of_getElem? here, below.2⟩
    · cases same
  | case2 => cases found
  | case3 _ _ _ _ _ _ ih => exact ih found
  | case4 _ _ _ _ _ _ ih => exact ih found

/-- A table that begins outside of ASCII has no entry for a character of ASCII. -/
theorem entryFor?_eq_none {α : Type} {table : Array (Nat × α)}
    (beyond : ∀ entry ∈ table.toList, 128 ≤ entry.1) {c : Char} (plain : c.toNat < 128) :
    entryFor? table c = none := by
  cases found : entryFor? table c with
  | none => rfl
  | some entry =>
    obtain ⟨member, below⟩ := mem_of_lastAtOrBelow found
    have above := beyond entry (Array.mem_toList_iff.mpr member)
    omega

end Text

/-! ## Encoded labels -/

namespace Punycode

/-- A digit to base 36. -/
def IsDigit (c : Char) : Prop := ∃ d < 36, c = digitChar d

theorem threshold_le (place bias : Nat) : threshold place bias ≤ 26 := by
  unfold threshold
  split
  · omega
  split <;> omega

theorem isDigit_of_mem_numberChars {bias place n : Nat} {c : Char}
    (found : c ∈ numberChars bias place n) : IsDigit c := by
  have bound (place : Nat) := threshold_le place bias
  fun_induction numberChars bias place n with
  | case1 place n t last =>
    have small : t ≤ 26 := bound place
    exact ⟨n, by omega, List.mem_singleton.mp found⟩
  | case2 place n t more ih =>
    have small : t ≤ 26 := bound place
    rcases List.mem_cons.mp found with rfl | later
    · have rest : (n - t) % (36 - t) < 36 - t := Nat.mod_lt _ (by omega)
      exact ⟨_, by omega, rfl⟩
    · exact ih later

theorem isDigit_visit {state : State} (digits : ∀ c ∈ state.digits, IsDigit c) (basic point : Nat)
    (c : Char) : ∀ d ∈ (visit basic point state c).digits, IsDigit d := by
  unfold visit
  split
  · exact digits
  split
  · exact List.forall_mem_append.mpr ⟨digits, fun d found => isDigit_of_mem_numberChars found⟩
  · exact digits

theorem isDigit_visitPoints (label : List Char) (basic : Nat) (points : List Nat) {next : Nat}
    {state : State} (digits : ∀ c ∈ state.digits, IsDigit c) :
    ∀ c ∈ (visitPoints label basic next points state).digits, IsDigit c := by
  have visited : ∀ (cs : List Char) (point : Nat) (state : State),
      (∀ c ∈ state.digits, IsDigit c) →
        ∀ c ∈ (cs.foldl (visit basic point) state).digits, IsDigit c := by
    intro cs point
    induction cs with
    | nil => exact fun _ digits => digits
    | cons c cs ih => exact fun state digits => ih _ (isDigit_visit digits basic point c)
  induction points generalizing next state with
  | nil => exact digits
  | cons point points ih =>
    rw [visitPoints]
    exact ih (visited label point _ digits)

/-- An encoded label has characters of the label, a hyphen, and digits. -/
theorem mem_encode {label : List Char} {c : Char} (found : c ∈ encode label) :
    (c ∈ label ∧ c.toNat < 128) ∨ c = '-' ∨ IsDigit c := by
  unfold encode at found
  dsimp only at found
  rw [List.mem_append, List.mem_append] at found
  rcases found with (basic | hyphen) | digit
  · obtain ⟨member, plain⟩ := List.mem_filter.mp basic
    exact .inl ⟨member, of_decide_eq_true plain⟩
  · split at hyphen
    · cases hyphen
    · exact .inr (.inl (List.mem_singleton.mp hyphen))
  · exact .inr (.inr (isDigit_visitPoints label _ _
      (fun _ absent => absurd absent List.not_mem_nil) c digit))

end Punycode
namespace Domain

/-! ## The tables -/

theorem markRuns_beyond : ∀ entry ∈ markRuns.toList, 128 ≤ entry.1 := by decide +kernel

theorem markClassRuns_beyond : ∀ entry ∈ markClassRuns.toList, 128 ≤ entry.1 := by decide +kernel

theorem composedChars_beyond : ∀ entry ∈ composedChars.toList, 128 ≤ entry.1 := by decide +kernel

section Ascii

variable {c : Char} (plain : c.toNat < 128)

include plain

theorem isMark_eq_false : isMark c = false := by
  unfold isMark Text.isInRuns
  rw [Text.entryFor?_eq_none markRuns_beyond plain]

theorem markClass_eq_zero : markClass c = 0 := by
  unfold markClass Text.valueInRuns?
  rw [Text.entryFor?_eq_none markClassRuns_beyond plain]
  rfl

theorem partsOf_eq_singleton (depth : Nat) : partsOf depth c = [c] := by
  cases depth with
  | zero => rfl
  | succ depth =>
    unfold partsOf
    rw [Text.entryFor?_eq_none composedChars_beyond plain]

theorem compose?_eq_none (base : Char) : compose? base c = none := if_pos plain

theorem treatment_eq_kept (small : c.isUpper = false) : treatment c = .kept := by
  unfold treatment
  rw [if_pos plain, if_neg (Bool.eq_false_iff.mp small)]

theorem direction_ne_leftward : direction c ≠ .leftward ∧ direction c ≠ .arabicDigit := by
  unfold direction
  rw [if_pos plain]
  split
  · exact ⟨nofun, nofun⟩
  split
  · exact ⟨nofun, nofun⟩
  · exact ⟨nofun, nofun⟩

end Ascii

/-! ## Texts in ASCII -/

theorem meant?_eq_self {text : List Char} (plain : ∀ c ∈ text, c.toNat < 128)
    (small : ∀ c ∈ text, c.isUpper = false) : meant? text = some text := by
  induction text with
  | nil => rfl
  | cons c text ih =>
    obtain ⟨here, there⟩ := List.forall_mem_cons.mp plain
    obtain ⟨low, lows⟩ := List.forall_mem_cons.mp small
    rw [meant?, treatment_eq_kept here low]
    dsimp only
    rw [ih there lows]
    rfl

theorem orderMarks_eq_self {text : List Char} (plain : ∀ c ∈ text, c.toNat < 128) :
    orderMarks text = text := by
  unfold orderMarks
  induction text with
  | nil => rfl
  | cons c text ih =>
    obtain ⟨here, there⟩ := List.forall_mem_cons.mp plain
    rw [List.foldr_cons, ih there]
    cases text with
    | nil => rfl
    | cons d text =>
      have next : markClass d = 0 := markClass_eq_zero (there d List.mem_cons_self)
      rw [insertMark, next, if_neg (by simp)]

theorem composeFrom_eq_cons {text : List Char} (plain : ∀ c ∈ text, c.toNat < 128)
    (base : Char) : composeFrom base [] text = base :: text := by
  induction text generalizing base with
  | nil => rfl
  | cons c text ih =>
    obtain ⟨here, there⟩ := List.forall_mem_cons.mp plain
    have rest : composeFrom c [] text = c :: text := ih there c
    simp only [composeFrom, List.head?_nil, if_true, compose?_eq_none here,
      markClass_eq_zero here, rest, List.reverse_nil, List.singleton_append]

/-- A text in ASCII is in normal form. -/
theorem normalForm_eq_self {text : List Char} (plain : ∀ c ∈ text, c.toNat < 128) :
    normalForm text = text := by
  have parts : text.flatMap (partsOf compositionDepth) = text := by
    rw [List.flatMap_congr fun c member =>
      partsOf_eq_singleton (plain c member) compositionDepth, List.flatMap_singleton']
  unfold normalForm
  rw [parts, orderMarks_eq_self plain]
  cases text with
  | nil => rfl
  | cons c text =>
    obtain ⟨here, there⟩ := List.forall_mem_cons.mp plain
    rw [composeAll, if_pos (markClass_eq_zero here), composeFrom_eq_cons there]

theorem areJoinersSeen_of_ascii {text : List Char} (plain : ∀ c ∈ text, c.toNat < 128)
    (before : List Char) : areJoinersSeen before text = true := by
  induction text generalizing before with
  | nil => rfl
  | cons c text ih =>
    obtain ⟨here, there⟩ := List.forall_mem_cons.mp plain
    have apart : c ≠ nonJoiner := by
      rintro rfl
      exact absurd here (by decide)
    have other : c ≠ joiner := by
      rintro rfl
      exact absurd here (by decide)
    rw [areJoinersSeen, if_neg apart, if_neg other, ih there, Bool.and_self]

theorem isAscii_iff {text : List Char} : isAscii text = true ↔ ∀ c ∈ text, c.toNat < 128 := by
  unfold isAscii
  simp

/-- Labels in ASCII may stand together. -/
theorem areLabels_of_ascii {labels : List (List Char)}
    (plain : ∀ label ∈ labels, ∀ c ∈ label, c.toNat < 128) : areLabels labels = true := by
  have each : labels.all isLabel = true := by
    rw [List.all_eq_true]
    intro label member
    have ascii := plain label member
    have unmarked : label.head?.any isMark = false := by
      cases label with
      | nil => rfl
      | cons c label => exact isMark_eq_false (ascii c List.mem_cons_self)
    rw [isLabel, unmarked, areJoinersSeen_of_ascii ascii, isAscii_iff.mpr ascii]
    rfl
  have rightward : labels.any hasLeftward = false := by
    rw [List.any_eq_false]
    intro label member
    rw [Bool.not_eq_true, hasLeftward, List.any_eq_false]
    intro c found
    obtain ⟨leftward, arabic⟩ := direction_ne_leftward (plain label member c found)
    simp [leftward, arabic]
  rw [areLabels, each, rightward]
  rfl

/-! ## Plain domains -/

/-- Whether a domain in ASCII has no capital letters, and no label that stands for one in another
script. -/
def isPlain (name : List Char) : Bool :=
  name.all (!·.isUpper) &&
    (Text.splitEach '.' name).all fun label => (Text.stripLead encodedMark label).isNone

theorem meaning?_of_unmarked {label : List Char}
    (unmarked : Text.stripLead encodedMark label = none) : meaning? label = some label := by
  unfold meaning?
  rw [unmarked]

theorem labelInAscii_of_ascii {label : List Char} (ascii : ∀ c ∈ label, c.toNat < 128) :
    labelInAscii label = label := if_pos (isAscii_iff.mpr ascii)

/-- A plain domain is what servers exchange. -/
theorem inAscii?_of_isPlain {name : List Char} (ascii : ∀ c ∈ name, c.toNat < 128)
    (allowed : ∀ c ∈ name, isForbidden c = false) (plain : isPlain name = true) :
    inAscii? name = some name := by
  obtain ⟨small, unmarked⟩ := (Bool.and_eq_true _ _).mp plain
  rw [List.all_eq_true] at small unmarked
  have labels : ∀ label ∈ Text.splitEach '.' name, ∀ c ∈ label, c.toNat < 128 :=
    fun label found c member => ascii c (Text.mem_of_mem_splitEach found member)
  have meant := meant?_eq_self ascii fun c found => by simpa using small c found
  have meanings : (Text.splitEach '.' name).mapM meaning? = some (Text.splitEach '.' name) := by
    have each : ∀ label ∈ Text.splitEach '.' name, meaning? label = some (id label) :=
      fun label found => meaning?_of_unmarked (Option.isNone_iff_eq_none.mp (unmarked label found))
    have read := Text.mapM_eq_some_map each
    rwa [List.map_id] at read
  have free : name.any isForbidden = false := by
    rw [List.any_eq_false]
    intro c found
    simp [allowed c found]
  have exchanged : (Text.splitEach '.' name).map labelInAscii = Text.splitEach '.' name := by
    rw [List.map_congr_left fun label found => labelInAscii_of_ascii (labels label found),
      List.map_id']
  unfold inAscii?
  rw [meant]
  simp only [Option.map_some, Option.bind_eq_bind, Option.bind_some, normalForm_eq_self ascii,
    meanings, free, areLabels_of_ascii labels, exchanged]
  rw [if_neg (by simp), Text.splitEach_eq_splitOn, List.intercalate_splitOn]
  rfl

/-! ## What servers exchange -/

theorem plain_digitChar : ∀ d < 36, (Punycode.digitChar d).toNat < 128 ∧
    isForbidden (Punycode.digitChar d) = false := by
  decide

/-- A character that may stand in what servers exchange. -/
def Allowed (c : Char) : Prop := c.toNat < 128 ∧ isForbidden c = false

instance (c : Char) : Decidable (Allowed c) :=
  inferInstanceAs (Decidable (c.toNat < 128 ∧ isForbidden c = false))

theorem allowed_labelInAscii {label : List Char} (free : ∀ c ∈ label, isForbidden c = false) :
    ∀ c ∈ labelInAscii label, Allowed c := by
  intro c found
  unfold labelInAscii at found
  split at found
  · next ascii => exact ⟨isAscii_iff.mp ascii c found, free c found⟩
  · rcases List.mem_append.mp found with mark | encoded
    · have marks : ∀ c ∈ encodedMark, Allowed c := List.all_iff_forall_prop.mp (by decide)
      exact marks c mark
    · rcases Punycode.mem_encode encoded with ⟨member, plain⟩ | rfl | ⟨d, bound, rfl⟩
      · exact ⟨plain, free c member⟩
      · decide
      · exact plain_digitChar d bound

theorem allowed_of_inAscii? {text name : List Char} (read : inAscii? text = some name) :
    ∀ c ∈ name, Allowed c := by
  unfold inAscii? at read
  obtain ⟨domain, -, read⟩ := Option.bind_eq_some_iff.mp read
  obtain ⟨meanings, -, read⟩ := Option.bind_eq_some_iff.mp read
  split at read
  · cases read
  · next accepted =>
    cases read
    have free : ∀ c ∈ domain, isForbidden c = false := by
      simp only [Bool.or_eq_true, not_or, Bool.not_eq_true, List.any_eq_false] at accepted
      exact fun c found => accepted.1 c found
    intro c found
    rcases Text.mem_intercalate found with rfl | ⟨label, member, inside⟩
    · decide
    · obtain ⟨origin, part, rfl⟩ := List.mem_map.mp member
      exact allowed_labelInAscii
        (fun d found => free d (Text.mem_of_mem_splitEach part found)) c inside

end Domain

end BearerGate
