import BearerGate.Codec.Base64Url
import BearerGate.Proofs.Text.Utf8

/-!
# Decoding accepts exactly what encoding produces

Every byte string has one encoding, and `decode` refuses every other text: foreign symbols,
padding, lengths that no bytes have, and bits that are left over (`decode_eq_ok_iff`). Symbols are
plain text, so the encoding is one text as well (`decode_utf8_eq_ok_iff`).

The proof follows the groups. Six bits and a symbol determine each other; a whole group of four
symbols stands for three bytes, whatever comes behind it; and the last group is decoded from its
symbols alone.
-/

namespace BearerGate.Base64Url

/-! ## Symbols -/

theorem sixBits?_symbol : ∀ {bits : Nat}, bits < 64 → sixBits? (symbol bits) = some bits := by
  decide

/-- A byte that has six bits is their symbol. -/
theorem symbol_of_sixBits? {byte : UInt8} {bits : Nat} (known : sixBits? byte = some bits) :
    bits < 64 ∧ symbol bits = byte := by
  have ofCode : ∀ {n : Nat}, n = byte.toNat → UInt8.ofNat n = byte := by
    rintro n rfl
    exact UInt8.ofNat_toNat
  simp only [sixBits?] at known
  split at known
  · next upper =>
    cases known
    refine ⟨by omega, ?_⟩
    rw [symbol, if_pos (by omega)]
    exact ofCode (by omega)
  split at known
  · next lower =>
    cases known
    refine ⟨by omega, ?_⟩
    rw [symbol, if_neg (by omega), if_pos (by omega)]
    exact ofCode (by omega)
  split at known
  · next digit =>
    cases known
    refine ⟨by omega, ?_⟩
    rw [symbol, if_neg (by omega), if_neg (by omega), if_pos (by omega)]
    exact ofCode (by omega)
  split at known
  · next dash =>
    cases known
    exact ⟨by decide, ofCode dash.symm⟩
  split at known
  · next underscore =>
    cases known
    exact ⟨by decide, ofCode underscore.symm⟩
  · cases known

theorem symbol_ne_paddingMark {bits : Nat} (bound : bits < 64) : symbol bits ≠ paddingMark := by
  intro padding
  have known := sixBits?_symbol bound
  rw [padding] at known
  cases known

theorem sixBits_eq_ok_iff {byte : UInt8} {offset bits : Nat} :
    sixBits byte offset = .ok bits ↔ sixBits? byte = some bits := by
  unfold sixBits
  cases sixBits? byte with
  | none => simp
  | some found => simp

theorem sixBits_symbol {bits : Nat} (bound : bits < 64) (offset : Nat) :
    sixBits (symbol bits) offset = .ok bits :=
  sixBits_eq_ok_iff.mpr (sixBits?_symbol bound)

/-! ## Whole groups -/

theorem encode_bytesOfFour_append {w x y z : Nat} (hw : w < 64) (hx : x < 64) (hy : y < 64)
    (hz : z < 64) (more : List UInt8) :
    encode (bytesOfFour w x y z ++ more) =
      symbol w :: symbol x :: symbol y :: symbol z :: encode more := by
  have first : (UInt8.ofNat (w * 4 + x / 16)).toNat = w * 4 + x / 16 :=
    UInt8.toNat_ofNat_of_lt (by show _ < 256; omega)
  have second : (UInt8.ofNat (x % 16 * 16 + y / 4)).toNat = x % 16 * 16 + y / 4 :=
    UInt8.toNat_ofNat_of_lt (by show _ < 256; omega)
  have third : (UInt8.ofNat (y % 4 * 64 + z)).toNat = y % 4 * 64 + z :=
    UInt8.toNat_ofNat_of_lt (by show _ < 256; omega)
  simp only [bytesOfFour, List.cons_append, List.nil_append, encode, first, second, third]
  congr 2
  · omega
  · congr 1
    omega
  · congr 2
    · omega
    · congr 2
      omega

/-- The four symbols of three bytes stand for these bytes. -/
theorem bytesOfFour_symbols (a b c : UInt8) :
    bytesOfFour (a.toNat / 4) (a.toNat % 4 * 16 + b.toNat / 16) (b.toNat % 16 * 4 + c.toNat / 64)
      (c.toNat % 64) = [a, b, c] := by
  have ha := a.toNat_lt
  have hb := b.toNat_lt
  have hc := c.toNat_lt
  have first : a.toNat / 4 * 4 + (a.toNat % 4 * 16 + b.toNat / 16) / 16 = a.toNat := by omega
  have second : (a.toNat % 4 * 16 + b.toNat / 16) % 16 * 16 +
      (b.toNat % 16 * 4 + c.toNat / 64) / 4 = b.toNat := by omega
  have third : (b.toNat % 16 * 4 + c.toNat / 64) % 4 * 64 + c.toNat % 64 = c.toNat := by omega
  unfold bytesOfFour
  rw [first, second, third]
  simp only [UInt8.ofNat_toNat]

/-! ## The last group -/

/-- Behind a padding mark the scan never forgets that there was one. -/
theorem scanLast_some_ne_none {start i first : Nat} {group : List UInt8} {symbols : List Nat} :
    scanLast start i (some first) group ≠ .ok (symbols, none) := by
  induction group generalizing i with
  | nil =>
    intro scanned
    cases scanned
  | cons byte rest ih =>
    unfold scanLast
    split
    · exact ih
    · intro scanned
      cases scanned

theorem scanLast_map_symbol (start i : Nat) (symbols : List Nat)
    (bound : ∀ bits ∈ symbols, bits < 64) :
    scanLast start i none (symbols.map symbol) = .ok (symbols, none) := by
  induction symbols generalizing i with
  | nil => rfl
  | cons bits symbols ih =>
    have here := bound bits List.mem_cons_self
    have rest := ih (i + 1) fun n mem => bound n (List.mem_cons_of_mem _ mem)
    rw [List.map_cons, scanLast, if_neg (symbol_ne_paddingMark here)]
    simp only [sixBits?_symbol here, rest]

/-- A last group without padding consists of the symbols that were scanned. -/
theorem eq_map_symbol_of_scanLast {start : Nat} {group : List UInt8} :
    ∀ {i : Nat} {symbols : List Nat}, scanLast start i none group = .ok (symbols, none) →
      (∀ bits ∈ symbols, bits < 64) ∧ group = symbols.map symbol := by
  induction group with
  | nil =>
    intro i symbols scanned
    cases scanned
    exact ⟨by simp, rfl⟩
  | cons byte rest ih =>
    intro i symbols scanned
    unfold scanLast at scanned
    split at scanned
    · split at scanned
      · cases scanned
      · exact (scanLast_some_ne_none scanned).elim
    · cases known : sixBits? byte with
      | none =>
        simp only [known] at scanned
        cases scanned
      | some bits =>
        simp only [known] at scanned
        cases later : scanLast start (i + 1) none rest with
        | error fault =>
          simp only [later] at scanned
          cases scanned
        | ok found =>
          obtain ⟨symbols', pad⟩ := found
          simp only [later] at scanned
          cases scanned
          obtain ⟨bound, text⟩ := ih later
          obtain ⟨here, same⟩ := symbol_of_sixBits? known
          refine ⟨?_, by rw [text, List.map_cons, same]⟩
          intro n mem
          rcases List.mem_cons.mp mem with rfl | mem
          · exact here
          · exact bound n mem

theorem encode_two {a b : Nat} (ha : a < 64) (hb : b < 64) (spare : b % 16 = 0) :
    encode [UInt8.ofNat (a * 4 + b / 16)] = [symbol a, symbol b] := by
  have first : (UInt8.ofNat (a * 4 + b / 16)).toNat = a * 4 + b / 16 :=
    UInt8.toNat_ofNat_of_lt (by show _ < 256; omega)
  have high : (a * 4 + b / 16) / 4 = a := by omega
  have low : (a * 4 + b / 16) % 4 * 16 = b := by omega
  simp only [encode, first, high, low]

theorem encode_three {a b c : Nat} (ha : a < 64) (hb : b < 64) (hc : c < 64)
    (spare : c % 4 = 0) :
    encode [UInt8.ofNat (a * 4 + b / 16), UInt8.ofNat (b % 16 * 16 + c / 4)] =
      [symbol a, symbol b, symbol c] := by
  have first : (UInt8.ofNat (a * 4 + b / 16)).toNat = a * 4 + b / 16 :=
    UInt8.toNat_ofNat_of_lt (by show _ < 256; omega)
  have second : (UInt8.ofNat (b % 16 * 16 + c / 4)).toNat = b % 16 * 16 + c / 4 :=
    UInt8.toNat_ofNat_of_lt (by show _ < 256; omega)
  have high : (a * 4 + b / 16) / 4 = a := by omega
  have middle : (a * 4 + b / 16) % 4 * 16 + (b % 16 * 16 + c / 4) / 16 = b := by omega
  have low : (b % 16 * 16 + c / 4) % 16 * 4 = c := by omega
  simp only [encode, first, second, high, middle, low]

/-- A last group that is decoded is the encoding of its bytes. -/
theorem eq_encode_of_decodeLast {start : Nat} {group bytes : List UInt8}
    (short : group.length ≤ 4) (decoded : decodeLast start group = .ok bytes) :
    group = encode bytes := by
  unfold decodeLast at decoded
  cases scan : scanLast start 0 none group with
  | error fault =>
    simp only [scan] at decoded
    cases decoded
  | ok found =>
    obtain ⟨symbols, pad⟩ := found
    simp only [scan] at decoded
    rcases symbols with _ | ⟨a, _ | ⟨b, more⟩⟩
    · dsimp only at decoded
      split at decoded
      · next empty =>
        cases decoded
        exact List.isEmpty_iff.mp empty
      · cases decoded
    · cases decoded
    · cases pad with
      | some first => cases decoded
      | none =>
        obtain ⟨bound, text⟩ := eq_map_symbol_of_scanLast scan
        have ha := bound a (by simp)
        have hb := bound b (by simp)
        simp only [Option.isSome_none, Bool.false_eq_true, if_false] at decoded
        rcases more with _ | ⟨c, _ | ⟨d, rest⟩⟩
        · dsimp only at decoded
          split at decoded
          · cases decoded
          · next spare =>
            cases decoded
            rw [text, encode_two ha hb (by omega)]
            rfl
        · have hc := bound c (by simp)
          dsimp only at decoded
          split at decoded
          · cases decoded
          · next spare =>
            cases decoded
            rw [text, encode_three ha hb hc (by omega)]
            rfl
        · have hc := bound c (by simp)
          have hd := bound d (by simp)
          cases decoded
          have whole : rest = [] := by
            rw [text] at short
            simp only [List.length_map, List.length_cons] at short
            exact List.length_eq_zero_iff.mp (by omega)
          have group := encode_bytesOfFour_append ha hb hc hd []
          rw [List.append_nil] at group
          rw [text, whole, group]
          rfl

/-- The encoding of at most three bytes is decoded as a last group. -/
theorem decodeLast_encode (start : Nat) (bytes : List UInt8) (short : bytes.length ≤ 3) :
    decodeLast start (encode bytes) = .ok bytes := by
  match bytes, short with
  | [], _ => rfl
  | [a], _ =>
    have ha := a.toNat_lt
    have symbols := scanLast_map_symbol start 0 [a.toNat / 4, a.toNat % 4 * 16] (by simp; omega)
    have spare : a.toNat % 4 * 16 % 16 = 0 := by omega
    have value : a.toNat / 4 * 4 + a.toNat % 4 * 16 / 16 = a.toNat := by omega
    simp only [List.map_cons, List.map_nil] at symbols
    simp only [decodeLast, encode, symbols, spare, value, Option.isSome_none, Bool.false_eq_true,
      if_false, ne_eq, not_true_eq_false, UInt8.ofNat_toNat]
  | [a, b], _ =>
    have ha := a.toNat_lt
    have hb := b.toNat_lt
    have symbols := scanLast_map_symbol start 0
      [a.toNat / 4, a.toNat % 4 * 16 + b.toNat / 16, b.toNat % 16 * 4] (by simp; omega)
    have spare : b.toNat % 16 * 4 % 4 = 0 := by omega
    have first : a.toNat / 4 * 4 + (a.toNat % 4 * 16 + b.toNat / 16) / 16 = a.toNat := by omega
    have second : (a.toNat % 4 * 16 + b.toNat / 16) % 16 * 16 + b.toNat % 16 * 4 / 4 =
        b.toNat := by omega
    simp only [List.map_cons, List.map_nil] at symbols
    simp only [decodeLast, encode, symbols, spare, first, second, Option.isSome_none,
      Bool.false_eq_true, if_false, ne_eq, not_true_eq_false, UInt8.ofNat_toNat]
  | [a, b, c], _ =>
    have ha := a.toNat_lt
    have hb := b.toNat_lt
    have hc := c.toNat_lt
    have symbols := scanLast_map_symbol start 0 [a.toNat / 4, a.toNat % 4 * 16 + b.toNat / 16,
      b.toNat % 16 * 4 + c.toNat / 64, c.toNat % 64] (by simp; omega)
    simp only [List.map_cons, List.map_nil] at symbols
    simp only [decodeLast, encode, symbols, Option.isSome_none, Bool.false_eq_true, if_false,
      bytesOfFour_symbols]

/-! ## Whole texts -/

theorem encode_eq_nil_iff {bytes : List UInt8} : encode bytes = [] ↔ bytes = [] := by
  match bytes with
  | [] => simp [encode]
  | [_] => simp [encode]
  | [_, _] => simp [encode]
  | _ :: _ :: _ :: _ => simp [encode]

/-- No bytes have an encoding whose last group is a single symbol. -/
theorem length_encode_mod_four (bytes : List UInt8) : (encode bytes).length % 4 ≠ 1 := by
  fun_induction encode bytes with
  | case1 a b c rest ih =>
    simp only [List.length_cons]
    omega
  | case2 a b => simp
  | case3 a => simp
  | case4 => simp

theorem decodeGroups_encode (bytes : List UInt8) :
    ∀ start, decodeGroups start (encode bytes) = .ok bytes := by
  fun_induction encode bytes with
  | case1 a b c rest ih =>
    intro start
    have ha := a.toNat_lt
    have hb := b.toNat_lt
    have hc := c.toNat_lt
    cases later : encode rest with
    | nil =>
      have none : rest = [] := encode_eq_nil_iff.mp later
      have last := decodeLast_encode start [a, b, c] (by simp)
      rw [none]
      simpa only [encode, decodeGroups] using last
    | cons e tail =>
      have more := ih (start + 4)
      rw [later] at more
      have w : sixBits (symbol (a.toNat / 4)) start = _ := sixBits_symbol (by omega) _
      have x : sixBits (symbol (a.toNat % 4 * 16 + b.toNat / 16)) (start + 1) = _ :=
        sixBits_symbol (by omega) _
      have y : sixBits (symbol (b.toNat % 16 * 4 + c.toNat / 64)) (start + 2) = _ :=
        sixBits_symbol (by omega) _
      have z : sixBits (symbol (c.toNat % 64)) (start + 3) = _ := sixBits_symbol (by omega) _
      rw [decodeGroups]
      simp only [w, x, y, z, more]
      show Except.ok (bytesOfFour (a.toNat / 4) (a.toNat % 4 * 16 + b.toNat / 16)
        (b.toNat % 16 * 4 + c.toNat / 64) (c.toNat % 64) ++ rest) = _
      rw [bytesOfFour_symbols]
      rfl
  | case2 a b =>
    intro start
    exact decodeLast_encode start [a, b] (by simp)
  | case3 a =>
    intro start
    exact decodeLast_encode start [a] (by simp)
  | case4 =>
    intro start
    rfl

/-- Groups that are decoded are the encoding of their bytes. -/
theorem eq_encode_of_decodeGroups {start : Nat} {text bytes : List UInt8}
    (decoded : decodeGroups start text = .ok bytes) : text = encode bytes := by
  fun_induction decodeGroups start text generalizing bytes with
  | case1 start a b c d e rest ih =>
    cases w : sixBits a start with
    | error fault =>
      rw [w] at decoded
      cases decoded
    | ok w' =>
    cases x : sixBits b (start + 1) with
    | error fault =>
      rw [w, x] at decoded
      cases decoded
    | ok x' =>
    cases y : sixBits c (start + 2) with
    | error fault =>
      rw [w, x, y] at decoded
      cases decoded
    | ok y' =>
    cases z : sixBits d (start + 3) with
    | error fault =>
      rw [w, x, y, z] at decoded
      cases decoded
    | ok z' =>
    cases later : decodeGroups (start + 4) (e :: rest) with
    | error fault =>
      rw [w, x, y, z, later] at decoded
      cases decoded
    | ok more =>
      rw [w, x, y, z, later] at decoded
      cases decoded
      obtain ⟨hw, rfl⟩ := symbol_of_sixBits? (sixBits_eq_ok_iff.mp w)
      obtain ⟨hx, rfl⟩ := symbol_of_sixBits? (sixBits_eq_ok_iff.mp x)
      obtain ⟨hy, rfl⟩ := symbol_of_sixBits? (sixBits_eq_ok_iff.mp y)
      obtain ⟨hz, rfl⟩ := symbol_of_sixBits? (sixBits_eq_ok_iff.mp z)
      rw [ih later, ← encode_bytesOfFour_append hw hx hy hz]
  | case2 start group notWhole =>
    refine eq_encode_of_decodeLast ?_ decoded
    match group, notWhole with
    | [], _ => simp
    | [_], _ => simp
    | [_, _], _ => simp
    | [_, _, _], _ => simp
    | [_, _, _, _], _ => simp
    | a :: b :: c :: d :: e :: rest, notWhole => exact (notWhole a b c d e rest rfl).elim

/-- A text is decoded to some bytes just when it is their encoding. -/
theorem decode_eq_ok_iff {text bytes : List UInt8} :
    decode text = .ok bytes ↔ text = encode bytes := by
  unfold decode
  cases ends : text.getLast? with
  | none =>
    have empty : text = [] := List.getLast?_eq_none_iff.mp ends
    subst empty
    constructor
    · intro decoded
      cases decoded
      rfl
    · intro encoded
      rw [encode_eq_nil_iff.mp encoded.symm]
  | some last =>
    dsimp only
    split
    · next alone =>
      constructor
      · intro refused
        cases refused
      · rintro rfl
        exact (length_encode_mod_four bytes alone.1).elim
    · constructor
      · exact eq_encode_of_decodeGroups
      · rintro rfl
        exact decodeGroups_encode bytes 0

/-! ## Encodings as texts -/

open Text (Utf8.charOfByte Utf8.encodeChar)

theorem exists_symbol_of_mem_encode {byte : UInt8} {bytes : List UInt8}
    (found : byte ∈ encode bytes) : ∃ bits, byte = symbol bits := by
  fun_induction encode bytes with
  | case1 a b c rest ih =>
    simp only [List.mem_cons] at found
    rcases found with same | same | same | same | later
    · exact ⟨_, same⟩
    · exact ⟨_, same⟩
    · exact ⟨_, same⟩
    · exact ⟨_, same⟩
    · exact ih later
  | case2 a b =>
    simp only [List.mem_cons, List.not_mem_nil, or_false] at found
    rcases found with same | same | same
    · exact ⟨_, same⟩
    · exact ⟨_, same⟩
    · exact ⟨_, same⟩
  | case3 a =>
    simp only [List.mem_cons, List.not_mem_nil, or_false] at found
    rcases found with same | same
    · exact ⟨_, same⟩
    · exact ⟨_, same⟩
  | case4 => cases found

/-- Symbols are plain text without dots. -/
theorem symbol_plain (bits : Nat) :
    (symbol bits).toNat < 128 ∧ Utf8.charOfByte (symbol bits) ≠ '.' := by
  by_cases bound : bits < 64
  · revert bits
    decide
  · rw [symbol, if_neg (by omega), if_neg (by omega), if_neg (by omega), if_neg (by omega)]
    decide

/-- The text that encodes the bytes. -/
def text (bytes : List UInt8) : String :=
  String.ofList ((encode bytes).map Utf8.charOfByte)

theorem flatMap_encodeChar_eq_encode_iff {chars : List Char} {bytes : List UInt8} :
    chars.flatMap Utf8.encodeChar = encode bytes ↔
      chars = (encode bytes).map Utf8.charOfByte := by
  apply Text.Utf8.flatMap_encodeChar_eq_iff
  intro byte found
  rcases exists_symbol_of_mem_encode found with ⟨bits, rfl⟩
  exact (symbol_plain bits).1

/-- A text is decoded to some bytes just when it is the text that encodes them. -/
theorem decode_utf8_eq_ok_iff {encoded : String} {bytes : List UInt8} :
    decode (Text.Utf8.encode encoded) = .ok bytes ↔ encoded = text bytes := by
  rw [decode_eq_ok_iff, Text.Utf8.encode, flatMap_encodeChar_eq_encode_iff, text]
  constructor
  · intro chars
    rw [← chars, String.ofList_toList]
  · intro same
    rw [same, String.toList_ofList]

theorem decode_text (bytes : List UInt8) :
    decode (Text.Utf8.encode (text bytes)) = .ok bytes :=
  decode_utf8_eq_ok_iff.mpr rfl

theorem text_injective : Function.Injective text := by
  intro bytes others same
  have decoded := decode_text bytes
  rw [same, decode_text] at decoded
  exact (Except.ok.inj decoded).symm

end BearerGate.Base64Url
