import BearerGate.Codec.BigEndian

/-!
# Secure hashes

The secure hash functions SHA-256, SHA-384 and SHA-512.

All three run the same schedule over blocks of sixteen words; they differ in the width of the
words, the rotations, the constants and the starting state. Words are fixed-width integers, so
addition drops the carry as the functions require.
-/

namespace BearerGate.Digest

/-- A word of 32 or 64 bits with the operations that the hash functions use. -/
structure Words (ω : Type) where
  /-- Bytes in a word. -/
  width : Nat
  ofNat : Nat → ω
  toNat : ω → Nat
  add : ω → ω → ω
  xor : ω → ω → ω
  and : ω → ω → ω
  complement : ω → ω
  rotateRight : ω → Nat → ω
  shiftRight : ω → Nat → ω

/-- Words of 32 bits. -/
def words32 : Words UInt32 where
  width := 4
  ofNat := UInt32.ofNat
  toNat := UInt32.toNat
  add a b := a + b
  xor a b := a ^^^ b
  and a b := a &&& b
  complement a := ~~~a
  rotateRight a n := (a >>> UInt32.ofNat n) ||| (a <<< UInt32.ofNat (32 - n))
  shiftRight a n := a >>> UInt32.ofNat n

/-- Words of 64 bits. -/
def words64 : Words UInt64 where
  width := 8
  ofNat := UInt64.ofNat
  toNat := UInt64.toNat
  add a b := a + b
  xor a b := a ^^^ b
  and a b := a &&& b
  complement a := ~~~a
  rotateRight a n := (a >>> UInt64.ofNat n) ||| (a <<< UInt64.ofNat (64 - n))
  shiftRight a n := a >>> UInt64.ofNat n

/-- Two rotations and a third rotation or shift, whose results are added bit by bit. -/
structure Mix where
  first : Nat
  second : Nat
  third : Nat

/-- What tells one hash function from another. -/
structure Scheme (ω : Type) where
  words : Words ω
  /-- The mixes of the message schedule, which end in a shift. -/
  scheduleLow : Mix
  scheduleHigh : Mix
  /-- The mixes of the rounds, which end in a rotation. -/
  roundA : Mix
  roundE : Mix
  /-- One constant per round. -/
  constants : List Nat
  start : List Nat
  /-- Bytes of the final state that make up the digest. -/
  digestLength : Nat

/-- The eight words of the running state. -/
structure State (ω : Type) where
  a : ω
  b : ω
  c : ω
  d : ω
  e : ω
  f : ω
  g : ω
  h : ω

variable {ω : Type}

/-- A mix that ends in a shift. -/
def Words.mixShift (w : Words ω) (m : Mix) (x : ω) : ω :=
  w.xor (w.xor (w.rotateRight x m.first) (w.rotateRight x m.second)) (w.shiftRight x m.third)

/-- A mix that ends in a rotation. -/
def Words.mixRotate (w : Words ω) (m : Mix) (x : ω) : ω :=
  w.xor (w.xor (w.rotateRight x m.first) (w.rotateRight x m.second)) (w.rotateRight x m.third)

/-- The next word of the message schedule, from the words so far, latest first. -/
def Scheme.nextWord (s : Scheme ω) (latest : List ω) : ω :=
  let w := s.words
  let back (n : Nat) : ω := latest.getD (n - 1) (w.ofNat 0)
  w.add (w.add (w.mixShift s.scheduleHigh (back 2)) (back 7))
    (w.add (w.mixShift s.scheduleLow (back 15)) (back 16))

/-- Extends a message schedule by `n` words. -/
def Scheme.extend (s : Scheme ω) : Nat → List ω → List ω
  | 0, latest => latest
  | n + 1, latest => s.extend n (s.nextWord latest :: latest)

/-- One round with a constant and a word of the schedule. -/
def Scheme.round (s : Scheme ω) (v : State ω) (constant word : ω) : State ω :=
  let w := s.words
  let choice := w.xor (w.and v.e v.f) (w.and (w.complement v.e) v.g)
  let majority := w.xor (w.xor (w.and v.a v.b) (w.and v.a v.c)) (w.and v.b v.c)
  let t1 := w.add (w.add (w.add v.h (w.mixRotate s.roundE v.e)) (w.add choice constant)) word
  let t2 := w.add (w.mixRotate s.roundA v.a) majority
  ⟨w.add t1 t2, v.a, v.b, v.c, w.add v.d t1, v.e, v.f, v.g⟩

/-- The state after one block. -/
def Scheme.compress (s : Scheme ω) (v : State ω) (block : List ω) : State ω :=
  let w := s.words
  let schedule := (s.extend (s.constants.length - 16) block.reverse).reverse
  let r := (s.constants.zip schedule).foldl (fun v p => s.round v (w.ofNat p.1) p.2) v
  ⟨w.add v.a r.a, w.add v.b r.b, w.add v.c r.c, w.add v.d r.d,
    w.add v.e r.e, w.add v.f r.f, w.add v.g r.g, w.add v.h r.h⟩

/-- Cuts a list into pieces of `n` elements, `n > 0`; the last may be shorter. -/
def chunks {α : Type} (n : Nat) (xs : List α) : List (List α) :=
  if n = 0 ∨ xs.isEmpty then []
  else xs.take n :: chunks n (xs.drop n)
termination_by xs.length
decreasing_by
  cases xs with
  | nil => simp_all
  | cons _ _ => simp_all; omega

/-- The message with a one bit, zeros and its length in bits behind it, in whole blocks. -/
def Scheme.pad (s : Scheme ω) (message : List UInt8) : List UInt8 :=
  let block := 16 * s.words.width
  let lengthField := 2 * s.words.width
  let used := message.length + 1 + lengthField
  let zeros := (block - used % block) % block
  message ++ 0x80 :: (List.replicate zeros 0 ++ BigEndian.ofNat lengthField (8 * message.length))

/-- The starting state. -/
def Scheme.initial (s : Scheme ω) : State ω :=
  let word (i : Nat) : ω := s.words.ofNat (s.start.getD i 0)
  ⟨word 0, word 1, word 2, word 3, word 4, word 5, word 6, word 7⟩

/-- The digest of a message. -/
def Scheme.hash (s : Scheme ω) (message : List UInt8) : List UInt8 :=
  let w := s.words
  let words := (chunks w.width (s.pad message)).map fun bytes => w.ofNat (BigEndian.toNat bytes)
  let v := (chunks 16 words).foldl s.compress s.initial
  ([v.a, v.b, v.c, v.d, v.e, v.f, v.g, v.h].flatMap fun x =>
    BigEndian.ofNat w.width (w.toNat x)).take s.digestLength

/-- The first 32 bits of the fractions of the cube roots of the first 64 primes. -/
def constants32 : List Nat := [
  0x428A2F98, 0x71374491, 0xB5C0FBCF, 0xE9B5DBA5, 0x3956C25B, 0x59F111F1, 0x923F82A4, 0xAB1C5ED5,
  0xD807AA98, 0x12835B01, 0x243185BE, 0x550C7DC3, 0x72BE5D74, 0x80DEB1FE, 0x9BDC06A7, 0xC19BF174,
  0xE49B69C1, 0xEFBE4786, 0x0FC19DC6, 0x240CA1CC, 0x2DE92C6F, 0x4A7484AA, 0x5CB0A9DC, 0x76F988DA,
  0x983E5152, 0xA831C66D, 0xB00327C8, 0xBF597FC7, 0xC6E00BF3, 0xD5A79147, 0x06CA6351, 0x14292967,
  0x27B70A85, 0x2E1B2138, 0x4D2C6DFC, 0x53380D13, 0x650A7354, 0x766A0ABB, 0x81C2C92E, 0x92722C85,
  0xA2BFE8A1, 0xA81A664B, 0xC24B8B70, 0xC76C51A3, 0xD192E819, 0xD6990624, 0xF40E3585, 0x106AA070,
  0x19A4C116, 0x1E376C08, 0x2748774C, 0x34B0BCB5, 0x391C0CB3, 0x4ED8AA4A, 0x5B9CCA4F, 0x682E6FF3,
  0x748F82EE, 0x78A5636F, 0x84C87814, 0x8CC70208, 0x90BEFFFA, 0xA4506CEB, 0xBEF9A3F7, 0xC67178F2]

/-- The first 64 bits of the fractions of the cube roots of the first 80 primes. -/
def constants64 : List Nat := [
  0x428A2F98D728AE22, 0x7137449123EF65CD, 0xB5C0FBCFEC4D3B2F, 0xE9B5DBA58189DBBC,
  0x3956C25BF348B538, 0x59F111F1B605D019, 0x923F82A4AF194F9B, 0xAB1C5ED5DA6D8118,
  0xD807AA98A3030242, 0x12835B0145706FBE, 0x243185BE4EE4B28C, 0x550C7DC3D5FFB4E2,
  0x72BE5D74F27B896F, 0x80DEB1FE3B1696B1, 0x9BDC06A725C71235, 0xC19BF174CF692694,
  0xE49B69C19EF14AD2, 0xEFBE4786384F25E3, 0x0FC19DC68B8CD5B5, 0x240CA1CC77AC9C65,
  0x2DE92C6F592B0275, 0x4A7484AA6EA6E483, 0x5CB0A9DCBD41FBD4, 0x76F988DA831153B5,
  0x983E5152EE66DFAB, 0xA831C66D2DB43210, 0xB00327C898FB213F, 0xBF597FC7BEEF0EE4,
  0xC6E00BF33DA88FC2, 0xD5A79147930AA725, 0x06CA6351E003826F, 0x142929670A0E6E70,
  0x27B70A8546D22FFC, 0x2E1B21385C26C926, 0x4D2C6DFC5AC42AED, 0x53380D139D95B3DF,
  0x650A73548BAF63DE, 0x766A0ABB3C77B2A8, 0x81C2C92E47EDAEE6, 0x92722C851482353B,
  0xA2BFE8A14CF10364, 0xA81A664BBC423001, 0xC24B8B70D0F89791, 0xC76C51A30654BE30,
  0xD192E819D6EF5218, 0xD69906245565A910, 0xF40E35855771202A, 0x106AA07032BBD1B8,
  0x19A4C116B8D2D0C8, 0x1E376C085141AB53, 0x2748774CDF8EEB99, 0x34B0BCB5E19B48A8,
  0x391C0CB3C5C95A63, 0x4ED8AA4AE3418ACB, 0x5B9CCA4F7763E373, 0x682E6FF3D6B2B8A3,
  0x748F82EE5DEFB2FC, 0x78A5636F43172F60, 0x84C87814A1F0AB72, 0x8CC702081A6439EC,
  0x90BEFFFA23631E28, 0xA4506CEBDE82BDE9, 0xBEF9A3F7B2C67915, 0xC67178F2E372532B,
  0xCA273ECEEA26619C, 0xD186B8C721C0C207, 0xEADA7DD6CDE0EB1E, 0xF57D4F7FEE6ED178,
  0x06F067AA72176FBA, 0x0A637DC5A2C898A6, 0x113F9804BEF90DAE, 0x1B710B35131C471B,
  0x28DB77F523047D84, 0x32CAAB7B40C72493, 0x3C9EBE0A15C9BEBC, 0x431D67C49C100D4C,
  0x4CC5D4BECB3E42B6, 0x597F299CFC657E2A, 0x5FCB6FAB3AD6FAEC, 0x6C44198C4A475817]

/-- The first 32 bits of the fractions of the square roots of the first eight primes. -/
def start256 : List Nat := [
  0x6A09E667, 0xBB67AE85, 0x3C6EF372, 0xA54FF53A, 0x510E527F, 0x9B05688C, 0x1F83D9AB, 0x5BE0CD19]

/-- The first 64 bits of the fractions of the square roots of the first eight primes. -/
def start512 : List Nat := [
  0x6A09E667F3BCC908, 0xBB67AE8584CAA73B, 0x3C6EF372FE94F82B, 0xA54FF53A5F1D36F1,
  0x510E527FADE682D1, 0x9B05688C2B3E6C1F, 0x1F83D9ABFB41BD6B, 0x5BE0CD19137E2179]

/-- The first 64 bits of the fractions of the square roots of the next eight primes. -/
def start384 : List Nat := [
  0xCBBB9D5DC1059ED8, 0x629A292A367CD507, 0x9159015A3070DD17, 0x152FECD8F70E5939,
  0x67332667FFC00B31, 0x8EB44A8768581511, 0xDB0C2E0D64F98FA7, 0x47B5481DBEFA4FA4]

/-- SHA-256. -/
def sha256 : Scheme UInt32 where
  words := words32
  scheduleLow := ⟨7, 18, 3⟩
  scheduleHigh := ⟨17, 19, 10⟩
  roundA := ⟨2, 13, 22⟩
  roundE := ⟨6, 11, 25⟩
  constants := constants32
  start := start256
  digestLength := 32

/-- SHA-512. -/
def sha512 : Scheme UInt64 where
  words := words64
  scheduleLow := ⟨1, 8, 7⟩
  scheduleHigh := ⟨19, 61, 6⟩
  roundA := ⟨28, 34, 39⟩
  roundE := ⟨14, 18, 41⟩
  constants := constants64
  start := start512
  digestLength := 64

/-- SHA-384: SHA-512 from another start, cut short. -/
def sha384 : Scheme UInt64 :=
  { sha512 with start := start384, digestLength := 48 }

end BearerGate.Digest
