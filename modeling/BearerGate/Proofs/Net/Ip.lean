import BearerGate.Net.Ip
import BearerGate.Proofs.Text.Digit

/-!
# Internet addresses of the sixth version are read as they are written

An address is written part by part, with colons in between and the longest run of zeros as two
colons. Each part is read as it was written, because neither a colon nor the end of the text goes
on with it (`Ipv6.scanParts_written`), the run of zeros is what is missing to eight parts
(`Ipv6.zeros_of_longestZeroRun`), and so the whole address is read again (`Ipv6.parse?_text`).
-/

namespace BearerGate

open BearerGate.Text (values)

/-! ## Digits in front of a text -/

/-- The text does not begin with a digit to the base. -/
def NoDigitAhead (base : Nat) (text : List Char) : Prop :=
  ∀ c ∈ text.head?, Text.digit? base c = none

theorem leadingDigits_of_noDigit {base : Nat} {text : List Char} (ends : NoDigitAhead base text) :
    leadingDigits base text = ([], text) := by
  cases text with
  | nil => rfl
  | cons c rest =>
    rw [leadingDigits, ends c rfl]

theorem leadingDigits_append {base : Nat} {digits : List Char} {numbers : List Nat}
    (read : digits.mapM (Text.digit? base) = some numbers) {rest : List Char}
    (ends : NoDigitAhead base rest) :
    leadingDigits base (digits ++ rest) = (numbers, rest) := by
  induction digits generalizing numbers with
  | nil =>
    cases read
    exact leadingDigits_of_noDigit ends
  | cons c digits ih =>
    rw [List.mapM_cons] at read
    obtain ⟨d, here, more⟩ := Option.bind_eq_some_iff.mp read
    obtain ⟨numbers', there, same⟩ := Option.bind_eq_some_iff.mp more
    cases same
    rw [List.cons_append, leadingDigits, here, ih there]

/-- What stands behind the leading digits is an end of the text. -/
theorem leadingDigits_suffix (base : Nat) (text : List Char) :
    (leadingDigits base text).2 <:+ text := by
  induction text with
  | nil => exact List.suffix_refl _
  | cons c rest ih =>
    rw [leadingDigits]
    split
    · exact ih.trans (List.suffix_cons c rest)
    · exact List.suffix_refl _

/-- Without a dot there is no address of the fourth version. -/
theorem Ipv4.scan_eq_none {text : List Char} (free : '.' ∉ text) : scan text = none := by
  unfold scan
  cases first : scanPart text with
  | none => rfl
  | some part =>
    have rest : part.2 <:+ text := by
      unfold scanPart at first
      dsimp only at first
      split at first
      · cases first
      split at first
      · cases first
      · cases first
        exact leadingDigits_suffix 10 text
    have stop : dot? part.2 = none := by
      unfold dot?
      split
      · next behind split =>
        exact absurd (rest.mem (split ▸ List.mem_cons_self)) free
      · rfl
    dsimp only [bind, Option.bind]
    rw [stop]

namespace Ipv6

/-! ## Writing -/

/-- Parts as they are written, with a colon in front if others precede. -/
def written : (behind : Bool) → List UInt16 → List Char
  | _, [] => []
  | behind, part :: parts =>
    (if behind then [':'] else []) ++ Text.hexDigits part.toNat ++ written true parts

theorem written_cons (behind : Bool) (part : UInt16) (parts : List UInt16) :
    written behind (part :: parts) =
      (if behind then [':'] else []) ++ (Text.hexDigits part.toNat ++ written true parts) :=
  List.append_assoc _ _ _

theorem toList_partsText (parts : List UInt16) :
    (partsText parts).toList = written false parts := by
  have further : ∀ (part : UInt16) (parts : List UInt16),
      [':'].intercalate ((part :: parts).map fun part => (partText part).toList) =
        (partText part).toList ++ written true parts := by
    intro part parts
    induction parts generalizing part with
    | nil => simp [written]
    | cons next parts ih =>
      have later := ih next
      rw [List.map_cons] at later
      rw [List.map_cons, List.map_cons, List.intercalate_cons_cons, later]
      simp [written, partText]
  unfold partsText
  rw [String.toList_intercalate, List.map_map]
  cases parts with
  | nil => rfl
  | cons part parts =>
    refine (further part parts).trans ?_
    simp [written, partText]

/-! ## Reading -/

theorem values_of_uInt16 (part : UInt16) :
    values 16 part.toNat ≠ [] ∧ (values 16 part.toNat).length ≤ 4 := by
  have bound : part.toNat < 16 ^ 4 := part.toNat_lt
  constructor
  · rw [values, ne_eq, List.map_eq_nil_iff]
    exact Nat.toDigits_ne_nil
  · rw [values, List.length_map]
    exact (Nat.length_toDigits_le_iff (by decide) (by decide)).mpr bound

theorem scanPart_hexDigits (part : UInt16) {rest : List Char} (ends : NoDigitAhead 16 rest) :
    scanPart (Text.hexDigits part.toNat ++ rest) = some (part, rest) := by
  obtain ⟨filled, short⟩ := values_of_uInt16 part
  have digits : (Nat.toDigits 16 part.toNat).mapM (Text.digit? 16) =
      some (Text.values 16 part.toNat) :=
    Text.mapM_digit? (by decide) (by decide) part.toNat
  unfold scanPart Text.hexDigits
  rw [leadingDigits_append digits ends]
  dsimp only
  rw [if_neg (by simp [filled, short]), Text.ofDigits_values (by decide) (by decide),
    UInt16.ofNat_toNat]

theorem scanPart_of_noDigit {text : List Char} (ends : NoDigitAhead 16 text) :
    scanPart text = none := by
  unfold scanPart
  rw [leadingDigits_of_noDigit ends]
  rfl

theorem dot_notMem_hexDigits (n : Nat) : '.' ∉ Text.hexDigits n := by
  intro found
  have digit : Text.digit? 16 '.' = some (Text.valueOf '.') :=
    Text.digit?_of_mem_toDigits (by decide) (by decide) found
  cases digit

theorem dot_notMem_written (behind : Bool) (parts : List UInt16) : '.' ∉ written behind parts := by
  induction parts generalizing behind with
  | nil => exact List.not_mem_nil
  | cons part parts ih =>
    rw [written, List.mem_append, List.mem_append]
    rintro ((colon | digit) | later)
    · split at colon
      · exact absurd (List.mem_singleton.mp colon) (by decide)
      · cases colon
    · exact dot_notMem_hexDigits _ digit
    · exact ih true later

theorem noDigitAhead_written (parts : List UInt16) {rest : List Char}
    (ends : NoDigitAhead 16 rest) : NoDigitAhead 16 (written true parts ++ rest) := by
  cases parts with
  | nil => exact ends
  | cons part parts =>
    intro c first
    cases first
    decide

/-- What a separator stands in front of is an end of the text. -/
theorem separated?_suffix {index : Nat} {text behind : List Char}
    (split : separated? index text = some behind) : behind <:+ text := by
  unfold separated? at split
  split at split
  · cases split
    exact List.suffix_refl _
  · split at split
    · cases split
      exact List.suffix_cons _ _
    · cases split

/-- Without dots all parts are scanned one by one. -/
theorem scanParts_succ {text : List Char} (free : '.' ∉ text) (room index : Nat) :
    scanParts (room + 1) index text =
      match (separated? index text).bind scanPart with
      | some (part, rest) =>
        let (parts, isDotted, rest) := scanParts room (index + 1) rest
        (part :: parts, isDotted, rest)
      | none => ([], false, text) := by
  have plain : (if room = 0 then none else (separated? index text).bind Ipv4.scan) = none := by
    split
    · rfl
    · cases split : separated? index text with
      | none => rfl
      | some behind =>
        exact Ipv4.scan_eq_none fun found => free ((separated?_suffix split).mem found)
  rewrite [scanParts, plain]
  rfl

/-- Parts are scanned as they are written, if there is room for them and nothing goes on with
them. -/
theorem scanParts_written (parts : List UInt16) {room : Nat} (fits : parts.length ≤ room)
    (index : Nat) {rest : List Char} (free : '.' ∉ rest) (ends : NoDigitAhead 16 rest)
    (stops : parts.length = room ∨ (separated? (index + parts.length) rest).bind scanPart = none) :
    scanParts room index (written (index ≠ 0) parts ++ rest) = (parts, false, rest) := by
  induction parts generalizing room index with
  | nil =>
    cases room with
    | zero => rfl
    | succ room =>
      have stop := stops.resolve_left (by simp)
      rw [List.length_nil, Nat.add_zero] at stop
      rw [written, List.nil_append, scanParts_succ free, stop]
  | cons part parts ih =>
    obtain ⟨room, rfl⟩ : ∃ more, room = more + 1 :=
      ⟨room - 1, by rw [List.length_cons] at fits; omega⟩
    have whole : '.' ∉ written (index ≠ 0) (part :: parts) ++ rest := by
      rw [List.mem_append, not_or]
      exact ⟨dot_notMem_written _ _, free⟩
    have separated : separated? index (written (index ≠ 0) (part :: parts) ++ rest) =
        some (Text.hexDigits part.toNat ++ (written true parts ++ rest)) := by
      rw [written_cons, List.append_assoc, List.append_assoc]
      unfold separated?
      by_cases first : index = 0
      · rw [if_pos first]
        simp [first]
      · rw [if_neg first]
        simp [first]
    have scanned := scanPart_hexDigits part (noDigitAhead_written parts ends)
    have shift : index + (part :: parts).length = index + 1 + parts.length := by
      rw [List.length_cons]
      omega
    rw [shift] at stops
    have further := ih (by simpa using fits) (index + 1)
      (stops.imp (fun full => by simpa using full) id)
    rw [scanParts_succ whole, separated, Option.bind_some, scanned]
    simp only [ne_eq, Nat.add_eq_zero_iff, Nat.one_ne_zero, and_false, not_false_eq_true,
      decide_true] at further
    dsimp only
    rw [further]

/-! ## Runs of zeros -/

theorem exists_zeroRun (parts : List UInt16) :
    ∃ back, parts = List.replicate (zeroRun parts) 0 ++ back := by
  have zeros : parts.takeWhile (· = 0) = List.replicate (zeroRun parts) 0 := by
    refine List.eq_replicate_iff.mpr ⟨rfl, fun part member => ?_⟩
    simpa using List.all_eq_true.mp List.all_takeWhile part member
  refine ⟨parts.dropWhile (· = 0), ?_⟩
  rw [← zeros, List.takeWhile_append_dropWhile]

/-- The longest run of zeros is one. -/
theorem exists_longestZeroRun {index start length : Nat} {parts : List UInt16}
    (run : longestZeroRun index parts = (start, length)) (some : 0 < length) :
    ∃ front back, parts = front ++ List.replicate length 0 ++ back ∧
      start = index + front.length := by
  induction parts generalizing index with
  | nil =>
    cases run
    exact absurd some (Nat.lt_irrefl 0)
  | cons part parts ih =>
    rw [longestZeroRun] at run
    split at run
    · obtain ⟨front, back, split, place⟩ := ih run
      refine ⟨part :: front, back, by rw [split]; rfl, ?_⟩
      rw [place, List.length_cons]
      omega
    · obtain ⟨rfl, rfl⟩ := Prod.mk.inj run
      obtain ⟨back, split⟩ := exists_zeroRun (part :: parts)
      exact ⟨[], back, by rw [List.nil_append, ← split], rfl⟩

theorem ofParts?_toList (address : Ipv6) : ofParts? address.parts.toList = some address := by
  obtain ⟨⟨parts, eight⟩⟩ := address
  unfold ofParts?
  rw [dif_pos (by simpa using eight)]
  rfl

theorem noDigitAhead_nil (base : Nat) : NoDigitAhead base [] :=
  fun _ absent => by cases absent

/-- No part follows two colons. -/
theorem separated?_colons (index : Nat) {rest : List Char} :
    (separated? index (':' :: ':' :: rest)).bind scanPart = none := by
  have stops : ∀ text, scanPart (':' :: text) = none :=
    fun text => scanPart_of_noDigit fun c head => by
      cases head
      decide
  unfold separated?
  split
  · exact stops (':' :: rest)
  · exact stops rest

theorem separated?_nil (index : Nat) : (separated? index []).bind scanPart = none := by
  unfold separated?
  split
  · exact scanPart_of_noDigit (noDigitAhead_nil 16)
  · rfl

theorem parse?_full {parts : List UInt16} (eight : parts.length = 8) {address : Ipv6}
    (whole : ofParts? parts = some address) : parse? (written false parts) = some address := by
  have scanned := scanParts_written parts (Nat.le_of_eq eight) 0 List.not_mem_nil
    (noDigitAhead_nil 16) (.inl eight)
  have first : decide ((0 : Nat) ≠ 0) = false := rfl
  rw [List.append_nil, first] at scanned
  unfold parse? scan
  rw [scanned]
  dsimp only
  rw [if_pos eight, whole]
  rfl

theorem scan_of_colons {text rest : List Char} {front : List UInt16}
    (scanned : scanParts 8 0 text = (front, false, ':' :: ':' :: rest)) (short : front.length ≠ 8) :
    scan text =
      let (back, _, rest) := scanParts (8 - (front.length + 1)) 0 rest
      (ofParts? (front ++ List.replicate (8 - front.length - back.length) 0 ++ back)).map
        fun address => (address, rest) := by
  unfold scan
  rw [scanned]
  dsimp only
  rw [if_neg short, if_neg Bool.false_ne_true]
  rfl

/-- Two colons stand for the parts that are missing. -/
theorem parse?_compressed {front back : List UInt16} {length : Nat} (long : length > 1)
    (eight : (front ++ List.replicate length 0 ++ back).length = 8) {address : Ipv6}
    (whole : ofParts? (front ++ List.replicate length 0 ++ back) = some address) :
    parse? (partsText ((front ++ List.replicate length 0 ++ back).take front.length) ++ "::" ++
      partsText ((front ++ List.replicate length 0 ++ back).drop
        (front.length + length))).toList = some address := by
  have size : front.length + length + back.length = 8 := by
    rw [← eight, List.length_append, List.length_append, List.length_replicate]
  have before : (front ++ List.replicate length 0 ++ back).take front.length = front := by
    rw [List.append_assoc, List.take_left]
  have behind : (front ++ List.replicate length 0 ++ back).drop (front.length + length) = back := by
    rw [List.drop_left' (by simp)]
  have first : decide ((0 : Nat) ≠ 0) = false := rfl
  have colons : NoDigitAhead 16 (':' :: ':' :: written false back) := by
    intro c head
    cases head
    decide
  have free : '.' ∉ ':' :: ':' :: written false back := by
    simp [dot_notMem_written]
  have front_scanned := scanParts_written front (show front.length ≤ 8 by omega) 0 free colons
    (.inr (separated?_colons _))
  have back_scanned := scanParts_written back (show back.length ≤ 8 - (front.length + 1) by omega)
    0 List.not_mem_nil (noDigitAhead_nil 16) (.inr (separated?_nil _))
  rw [first] at front_scanned back_scanned
  rw [List.append_nil] at back_scanned
  rw [before, behind, String.toList_append, String.toList_append, toList_partsText,
    toList_partsText]
  have text : written false front ++ "::".toList ++ written false back =
      written false front ++ ':' :: ':' :: written false back := by
    rw [List.append_assoc]
    rfl
  have missing : 8 - front.length - back.length = length := by omega
  unfold parse?
  rw [text, scan_of_colons front_scanned (by omega), back_scanned]
  dsimp only
  rw [missing, whole]
  rfl

/-- A written address is read. -/
theorem parse?_text (address : Ipv6) : parse? address.text.toList = some address := by
  have eight : address.parts.toList.length = 8 := by simp
  have whole := ofParts?_toList address
  have nothing : NoDigitAhead 16 [] := fun c absent => by cases absent
  unfold text
  generalize address.parts.toList = parts at *
  dsimp only
  cases run : longestZeroRun 0 parts with
  | mk start length =>
    dsimp only
    split
    · next long =>
      obtain ⟨front, back, rfl, place⟩ := exists_longestZeroRun run (by omega)
      rw [Nat.zero_add] at place
      subst place
      exact parse?_compressed long eight whole
    · rw [toList_partsText]
      exact parse?_full eight whole

theorem mem_written {behind : Bool} {parts : List UInt16} {c : Char}
    (found : c ∈ written behind parts) : c = ':' ∨ ∃ d < 16, c = Nat.digitChar d := by
  induction parts generalizing behind with
  | nil => exact absurd found List.not_mem_nil
  | cons part parts ih =>
    rw [written, List.mem_append, List.mem_append] at found
    rcases found with (colon | digit) | later
    · split at colon
      · exact .inl (List.mem_singleton.mp colon)
      · cases colon
    · exact .inr (Text.exists_digitChar (by decide) digit)
    · exact ih later

theorem mem_text {address : Ipv6} {c : Char} (found : c ∈ address.text.toList) :
    c = ':' ∨ ∃ d < 16, c = Nat.digitChar d := by
  unfold text at found
  dsimp only at found
  split at found
  · rw [String.toList_append, String.toList_append, toList_partsText, toList_partsText,
      List.mem_append, List.mem_append] at found
    rcases found with (front | colons) | back
    · exact mem_written front
    · have colon : c ∈ [':', ':'] := colons
      simp only [List.mem_cons, List.not_mem_nil, or_false, or_self] at colon
      exact .inl colon
    · exact mem_written back
  · rw [toList_partsText] at found
    exact mem_written found

end Ipv6

namespace Ipv4

/-- The four parts are bytes, and they amount to the address. -/
theorem exists_parts (address : Ipv4) :
    ∃ a b c d, address.parts = [a, b, c, d] ∧ a < 256 ∧ b < 256 ∧ c < 256 ∧ d < 256 ∧
      ((a * 256 + b) * 256 + c) * 256 + d = address.value.toNat := by
  have bound := address.value.toNat_lt
  refine ⟨_, _, _, _, rfl, ?_, ?_, ?_, ?_, ?_⟩ <;> omega

theorem toList_text {address : Ipv4} {a b c d : Nat} (parts : address.parts = [a, b, c, d]) :
    address.text.toList = Nat.toDigits 10 a ++ '.' :: (Nat.toDigits 10 b ++
      '.' :: (Nat.toDigits 10 c ++ '.' :: Nat.toDigits 10 d)) := by
  have point : ".".toList = ['.'] := rfl
  unfold text
  rw [String.toList_intercalate, parts, point]
  simp only [List.map_cons, List.map_nil, List.intercalate_cons_cons, List.intercalate_singleton,
    Text.toString_toList, List.append_assoc, List.singleton_append]

theorem mem_text {address : Ipv4} {c : Char} (found : c ∈ address.text.toList) :
    c = '.' ∨ ∃ d < 10, c = Nat.digitChar d := by
  obtain ⟨p, q, r, s, parts, -⟩ := address.exists_parts
  have digit {n : Nat} (found : c ∈ Nat.toDigits 10 n) : ∃ d < 10, c = Nat.digitChar d :=
    Text.exists_digitChar (by decide) found
  rw [toList_text parts] at found
  simp only [List.mem_append, List.mem_cons] at found
  rcases found with found | found | found | found | found | found | found
  · exact .inr (digit found)
  · exact .inl found
  · exact .inr (digit found)
  · exact .inl found
  · exact .inr (digit found)
  · exact .inl found
  · exact .inr (digit found)

end Ipv4

end BearerGate
