import BearerGate.Keys.Entry
import BearerGate.Proofs.Codec.Base64Url
import BearerGate.Proofs.Codec.BigEndian
import BearerGate.Proofs.Outcome

/-!
# The numbers of a published key

The components of a key are texts of byte strings, and the key has the numbers that these bytes
are, the most significant first (`KeyEntry.ofComponents_eq_ok_iff_publishes`). The bytes of an
exponent are filled up to a word before they are read, which changes nothing: zero bytes in front
belong to no number, and what fills a word fits into it.

A key depends on the two numbers alone. So bytes that differ in zeros at the front make the same
key (`KeyEntry.ofComponents_text_eq_ok_iff`), and the bytes that verification is given of a key
stand for the numbers of the key, however these were published (`RsaKey.numbers_bytes`).
-/

namespace BearerGate

open BigEndian (toNat toBytes)

/-! ## Pairs of numbers -/

namespace RsaKey

/-- Nothing is below zero, and the exponent must be below the modulus. -/
theorem fault?_zero_modulus (exponent : Nat) : fault? 0 exponent ≠ none := by
  have small : ¬ BigEndian.bitLength 0 > maxModulusBits := by decide
  unfold fault?
  rw [if_neg small, if_pos (.inl (Nat.zero_le exponent))]
  exact Option.some_ne_none _

/-- The exponent must be odd. -/
theorem fault?_zero_exponent (modulus : Nat) : fault? modulus 0 ≠ none := by
  unfold fault?
  split
  · exact Option.some_ne_none _
  split
  · exact Option.some_ne_none _
  · exact Option.some_ne_none _

theorem numbers_bytes (key : RsaKey) : key.bytes.numbers = key := by
  unfold bytes RsaKeyBytes.numbers
  rw [BigEndian.toNat_toBytes, BigEndian.toNat_toBytes]

end RsaKey

namespace KeyEntry

open Base64Url (text)

variable {id algorithm n e : String} {key : KeyEntry}

/-! ## The components one by one -/

theorem decodeModulus_eq_ok_iff {modulus : Nat} :
    decodeModulus n = .ok modulus ↔
      ∃ bytes, n = text bytes ∧ bytes ≠ [] ∧ modulus = toNat bytes := by
  constructor
  · intro decoded
    unfold decodeModulus at decoded
    split at decoded
    · cases decoded
    · cases decoded
    · next bytes filled found =>
      cases decoded
      exact ⟨bytes, Base64Url.decode_utf8_eq_ok_iff.mp found, filled, rfl⟩
  · rintro ⟨bytes, rfl, filled, rfl⟩
    unfold decodeModulus
    rw [Base64Url.decode_text]
    cases bytes with
    | nil => exact absurd rfl filled
    | cons first rest => rfl

theorem decodeExponent_eq_ok_iff {exponent : Nat} :
    decodeExponent e = .ok exponent ↔
      ∃ bytes, e = text bytes ∧ bytes ≠ [] ∧ bytes.length ≤ exponentWidth ∧
        exponent = toNat bytes := by
  constructor
  · intro decoded
    unfold decodeExponent at decoded
    split at decoded
    · cases decoded
    · cases decoded
    · next bytes filled found =>
      split at decoded
      · cases decoded
      · next short =>
        cases decoded
        exact ⟨bytes, Base64Url.decode_utf8_eq_ok_iff.mp found, filled, Nat.not_lt.mp short,
          BigEndian.toNat_zeros_append _ bytes⟩
  · rintro ⟨bytes, rfl, filled, short, rfl⟩
    unfold decodeExponent
    rw [Base64Url.decode_text]
    cases bytes with
    | nil => exact absurd rfl filled
    | cons first rest =>
      dsimp only
      rw [if_neg (Nat.not_lt.mpr short), BigEndian.toNat_zeros_append]

/-! ## The key -/

theorem ofEncoded_eq_ok_iff :
    ofEncoded id algorithm n e = .ok key ↔
      decodeModulus n = .ok key.key.modulus ∧ decodeExponent e = .ok key.key.exponent ∧
        RsaKey.fault? key.key.modulus key.key.exponent = none ∧ key.id = id ∧
        key.algorithm = algorithm := by
  unfold ofEncoded
  rw [bind_eq_ok_iff]
  constructor
  · rintro ⟨modulus, modulusRead, made⟩
    rcases bind_eq_ok_iff.mp made with ⟨exponent, exponentRead, judged⟩
    cases fault : RsaKey.fault? modulus exponent with
    | some reason =>
      rw [fault] at judged
      cases judged
    | none =>
      rw [fault] at judged
      cases judged
      exact ⟨modulusRead, exponentRead, fault, rfl, rfl⟩
  · rintro ⟨modulusRead, exponentRead, sound, rfl, rfl⟩
    refine ⟨_, modulusRead, bind_eq_ok_iff.mpr ⟨_, exponentRead, ?_⟩⟩
    rw [sound]

theorem ofComponents_eq_ok_iff :
    ofComponents id algorithm n e = .ok key ↔ ofEncoded id algorithm n e = .ok key := by
  unfold ofComponents
  cases ofEncoded id algorithm n e with
  | ok entry => simp
  | error fault => simp

/-- The texts of the components are those of the two byte strings, and these are long enough and
not too long. -/
structure Publishes (n e : String) (modulus exponent : List UInt8) : Prop where
  modulusText : n = text modulus
  exponentText : e = text exponent
  modulus_ne_nil : modulus ≠ []
  exponent_ne_nil : exponent ≠ []
  exponent_short : exponent.length ≤ exponentWidth

/-- What fills a word fits into it. -/
theorem Publishes.exponent_lt {modulus exponent : List UInt8}
    (publishes : Publishes n e modulus exponent) : toNat exponent < 2 ^ 64 := by
  have word : 256 ^ exponent.length ≤ 256 ^ exponentWidth :=
    Nat.pow_le_pow_right (by decide) publishes.exponent_short
  exact Nat.lt_of_lt_of_le (BigEndian.toNat_lt exponent) word

theorem ofComponents_eq_ok_iff_publishes :
    ofComponents id algorithm n e = .ok key ↔
      ∃ modulus exponent, Publishes n e modulus exponent ∧
        RsaKey.fault? (toNat modulus) (toNat exponent) = none ∧
        key = ⟨id, algorithm, ⟨toNat modulus, toNat exponent⟩⟩ := by
  rw [ofComponents_eq_ok_iff, ofEncoded_eq_ok_iff]
  constructor
  · rintro ⟨modulusRead, exponentRead, sound, rfl, rfl⟩
    rcases decodeModulus_eq_ok_iff.mp modulusRead with ⟨modulus, inText, filled, value⟩
    rcases decodeExponent_eq_ok_iff.mp exponentRead with ⟨exponent, inText', filled', short, value'⟩
    refine ⟨modulus, exponent, ⟨inText, inText', filled, filled', short⟩, ?_, ?_⟩
    · rwa [← value, ← value']
    · rw [← value, ← value']
  · rintro ⟨modulus, exponent, publishes, sound, rfl⟩
    refine ⟨?_, ?_, sound, rfl, rfl⟩
    · exact decodeModulus_eq_ok_iff.mpr ⟨_, publishes.modulusText, publishes.modulus_ne_nil, rfl⟩
    · exact decodeExponent_eq_ok_iff.mpr
        ⟨_, publishes.exponentText, publishes.exponent_ne_nil, publishes.exponent_short, rfl⟩

/-- Of two byte strings that are published nothing counts but the numbers, and that the second is
not too long. -/
theorem ofComponents_text_eq_ok_iff {modulus exponent : List UInt8} :
    ofComponents id algorithm (text modulus) (text exponent) = .ok key ↔
      exponent.length ≤ exponentWidth ∧
        RsaKey.fault? (toNat modulus) (toNat exponent) = none ∧
        key = ⟨id, algorithm, ⟨toNat modulus, toNat exponent⟩⟩ := by
  rw [ofComponents_eq_ok_iff_publishes]
  constructor
  · rintro ⟨modulus', exponent', publishes, sound, made⟩
    obtain rfl := Base64Url.text_injective publishes.modulusText
    obtain rfl := Base64Url.text_injective publishes.exponentText
    exact ⟨publishes.exponent_short, sound, made⟩
  · rintro ⟨short, sound, made⟩
    -- No bytes stand for zero, which is neither a modulus nor an exponent.
    refine ⟨modulus, exponent, ⟨rfl, rfl, ?_, ?_, short⟩, sound, made⟩
    · rintro rfl
      exact RsaKey.fault?_zero_modulus _ sound
    · rintro rfl
      exact RsaKey.fault?_zero_exponent _ sound

/-- Zero bytes in front make no difference, as long as the exponent does not get too long. -/
theorem ofComponents_zeros_append {modulus exponent : List UInt8} {front back : Nat}
    (short : back + exponent.length ≤ exponentWidth) :
    ofComponents id algorithm (text (List.replicate front 0 ++ modulus))
        (text (List.replicate back 0 ++ exponent)) = .ok key ↔
      ofComponents id algorithm (text modulus) (text exponent) = .ok key := by
  have within : exponent.length ≤ exponentWidth := by omega
  have filled : (List.replicate back (0 : UInt8) ++ exponent).length ≤ exponentWidth := by
    rw [List.length_append, List.length_replicate]
    exact short
  rw [ofComponents_text_eq_ok_iff, ofComponents_text_eq_ok_iff, BigEndian.toNat_zeros_append,
    BigEndian.toNat_zeros_append]
  simp only [within, filled, true_and]

/-- An exponent of 64 bits is read from the fewest bytes that it has. -/
theorem ofComponents_toBytes {modulus : List UInt8} {exponent : Nat} (word : exponent < 2 ^ 64)
    (sound : RsaKey.fault? (toNat modulus) exponent = none) :
    ofComponents id algorithm (text modulus) (text (toBytes exponent)) =
      .ok ⟨id, algorithm, ⟨toNat modulus, exponent⟩⟩ := by
  have needed : BigEndian.byteLength exponent ≤ exponentWidth := BigEndian.byteLength_le word
  have short : (toBytes exponent).length ≤ exponentWidth := by
    rw [BigEndian.length_toBytes]
    exact Nat.max_le.mpr ⟨by decide, needed⟩
  rw [ofComponents_text_eq_ok_iff, BigEndian.toNat_toBytes]
  exact ⟨short, sound, rfl⟩

/-- A made key is given to verification as its own two numbers. -/
theorem verifies_verificationKey (made : ofComponents id algorithm n e = .ok key)
    (signed : RsaAlgorithm) (message signature : List UInt8) :
    key.verificationKey.verifies signed message signature =
      key.key.verifies signed message signature := by
  have sound := (ofEncoded_eq_ok_iff.mp (ofComponents_eq_ok_iff.mp made)).2.2.1
  unfold verificationKey RsaKeyBytes.verifies
  rw [RsaKey.numbers_bytes, sound]
  rfl

/-- The components make a key just when they are the texts of two byte strings, neither empty and
the second of at most eight bytes, whose numbers are accepted as a public key; these are then the
numbers of the key, and the numbers that verification is given. Zero bytes in front change no key,
and every accepted exponent of 64 bits is read from the fewest bytes that it has. -/
theorem ofComponents_exact (id algorithm n e : String) :
    (∀ key, ofComponents id algorithm n e = .ok key ↔
      ∃ modulus exponent, Publishes n e modulus exponent ∧
        RsaKey.fault? (toNat modulus) (toNat exponent) = none ∧
        key = ⟨id, algorithm, ⟨toNat modulus, toNat exponent⟩⟩) ∧
    (∀ key, ofComponents id algorithm n e = .ok key →
      key.key.exponent < 2 ^ 64 ∧ key.verificationKey.numbers = key.key ∧
        ∀ signed message signature, key.verificationKey.verifies signed message signature =
          key.key.verifies signed message signature) ∧
    (∀ modulus exponent front back, back + exponent.length ≤ exponentWidth → ∀ key,
      ofComponents id algorithm (text (List.replicate front 0 ++ modulus))
          (text (List.replicate back 0 ++ exponent)) = .ok key ↔
        ofComponents id algorithm (text modulus) (text exponent) = .ok key) ∧
    (∀ modulus exponent, exponent < 2 ^ 64 → RsaKey.fault? (toNat modulus) exponent = none →
      ofComponents id algorithm (text modulus) (text (toBytes exponent)) =
          .ok ⟨id, algorithm, ⟨toNat modulus, exponent⟩⟩ ∧
        ∀ bytes, bytes ≠ [] → toNat bytes = exponent →
          (toBytes exponent).length ≤ bytes.length) := by
  refine ⟨fun key => ofComponents_eq_ok_iff_publishes, ?_, ?_, ?_⟩
  · intro key made
    refine ⟨?_, key.key.numbers_bytes, verifies_verificationKey made⟩
    rcases ofComponents_eq_ok_iff_publishes.mp made with ⟨modulus, exponent, publishes, -, rfl⟩
    exact publishes.exponent_lt
  · intro modulus exponent front back short key
    exact ofComponents_zeros_append short
  · intro modulus exponent word sound
    refine ⟨ofComponents_toBytes word sound, ?_⟩
    rintro bytes filled rfl
    exact BigEndian.length_toBytes_le filled

/-- Zeros that fill the exponent up to eight bytes make no difference. -/
theorem ofComponents_exact_filled :
    ofComponents "k" "RS256" "ACM" "AAAAAAAAAAM" = .ok ⟨"k", "RS256", ⟨35, 3⟩⟩ := by
  have modulus : text [0, 35] = "ACM" := by decide
  have exponent : text [0, 0, 0, 0, 0, 0, 0, 3] = "AAAAAAAAAAM" := by decide
  have publishes : Publishes "ACM" "AAAAAAAAAAM" [0, 35] [0, 0, 0, 0, 0, 0, 0, 3] :=
    ⟨modulus.symm, exponent.symm, by decide, by decide, by decide⟩
  apply ((ofComponents_exact "k" "RS256" "ACM" "AAAAAAAAAAM").1 _).mpr
  exact ⟨_, _, publishes, by decide, rfl⟩

end KeyEntry

end BearerGate
