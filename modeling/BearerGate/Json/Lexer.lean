import BearerGate.Json.Number
import BearerGate.Text.Digit
import BearerGate.Text.Utf8

/-!
# JSON tokens

The tokens of JSON text.

What makes text unfit to be read and what makes it no JSON at all are kept apart. A string with
half a surrogate pair or with bytes that belong to no character is a token without a decoded
value: such a string may be skipped but not read, and it matters whether a reader notices that
inside the string or at its end. Everything else that breaks the rules for a token ends the tokens
with a fault.
-/

namespace BearerGate.Json

open BearerGate.Text (Glyph)

/-- What stands between quotation marks. -/
inductive StringContent
  | text (value : String)
  /-- Nothing that can be decoded. A reader stops there behind the closing quotation mark, or
  before it. -/
  | unreadable (atEnd : Bool)
  deriving DecidableEq

/-- The decoded value of a string, if it has one. -/
def StringContent.text? : StringContent → Option String
  | .text value => some value
  | .unreadable _ => none

/-- A token. -/
inductive Token
  | openBrace
  | closeBrace
  | openBracket
  | closeBracket
  | comma
  | colon
  | null
  | bool (value : Bool)
  | number (literal : Literal)
  | string (content : StringContent)
  /-- From here on the text has no tokens. -/
  | fault
  deriving DecidableEq

/-- Part of a string: a character, a unit of UTF-16 given by number, or bytes of no character. -/
inductive Piece
  | char (c : Char)
  | unit (n : Nat)
  | stray
  deriving DecidableEq

/-- The number of four digits to base sixteen. -/
def hexUnit? (a b c d : Glyph) : Option Nat := do
  let a ← Text.hexDigit? (← a)
  let b ← Text.hexDigit? (← b)
  let c ← Text.hexDigit? (← c)
  let d ← Text.hexDigit? (← d)
  pure (((a * 16 + b) * 16 + c) * 16 + d)

/-- The character that a backslash and a letter stand for. -/
def escaped? (c : Char) : Option Char :=
  if c = '"' then some '"'
  else if c = '\\' then some '\\'
  else if c = '/' then some '/'
  else if c = 'b' then some (Char.ofNat 8)
  else if c = 'f' then some (Char.ofNat 12)
  else if c = 'n' then some '\n'
  else if c = 'r' then some '\r'
  else if c = 't' then some '\t'
  else none

/-- The pieces of a string up to its closing quotation mark, and the text behind that. -/
def scanString : List Glyph → Option (List Piece × List Glyph)
  | [] => none
  | none :: rest => (scanString rest).map fun r => (.stray :: r.1, r.2)
  | some '"' :: rest => some ([], rest)
  | some '\\' :: some 'u' :: a :: b :: c :: d :: rest =>
    match hexUnit? a b c d with
    | some n => (scanString rest).map fun r => (.unit n :: r.1, r.2)
    | none => none
  | some '\\' :: some e :: rest =>
    match escaped? e with
    | some c => (scanString rest).map fun r => (.char c :: r.1, r.2)
    | none => none
  | some '\\' :: _ => none
  | some c :: rest =>
    if c.toNat < 0x20 then none
    else (scanString rest).map fun r => (.char c :: r.1, r.2)

/-- The text behind a string is shorter than the text from its start on. -/
theorem scanString_length : ∀ {text : List Glyph} {pieces : List Piece} {rest : List Glyph},
    scanString text = some (pieces, rest) → rest.length < text.length := by
  intro text
  fun_induction scanString text with
  | case1 => intro _ _ h; simp at h
  | case2 r ih =>
    intro _ _ h
    obtain ⟨p, hp, e⟩ := Option.map_eq_some_iff.1 h
    cases e
    exact Nat.lt_succ_of_lt (ih hp)
  | case3 r => intro _ _ h; simp at h; simp [h.2]
  | case4 a b c d r n hn ih =>
    intro _ _ h
    obtain ⟨p, hp, e⟩ := Option.map_eq_some_iff.1 h
    cases e
    have := ih hp
    simp only [List.length_cons]
    omega
  | case5 => intro _ _ h; simp at h
  | case6 e r _ c hc ih =>
    intro _ _ h
    obtain ⟨p, hp, e⟩ := Option.map_eq_some_iff.1 h
    cases e
    have := ih hp
    simp only [List.length_cons]
    omega
  | case7 => intro _ _ h; simp at h
  | case8 => intro _ _ h; simp at h
  | case9 => intro _ _ h; simp at h
  | case10 c r _ _ _ _ _ ih =>
    intro _ _ h
    obtain ⟨p, hp, e⟩ := Option.map_eq_some_iff.1 h
    cases e
    exact Nat.lt_succ_of_lt (ih hp)

/-- Whether a unit of UTF-16 is the first half of a pair. -/
def isHighHalf (n : Nat) : Bool := 0xD800 ≤ n && n ≤ 0xDBFF

/-- Whether a unit of UTF-16 is the second half of a pair. -/
def isLowHalf (n : Nat) : Bool := 0xDC00 ≤ n && n ≤ 0xDFFF

/-- Where a reader stops at a string that cannot be decoded. -/
inductive StringFlaw
  | inside
  | atEnd
  deriving DecidableEq

/-- The characters of a string, unless half a pair stands alone or bytes belong to no character. A
first half is missed behind the next character, a second half at once, and bytes of no character
are found once all the rest is read. -/
def assemble : List Piece → Except StringFlaw (List Char)
  | [] => .ok []
  | .char c :: rest => (assemble rest).map (c :: ·)
  | [.unit n] =>
    if isHighHalf n then .error .atEnd
    else if isLowHalf n then .error .inside
    else .ok [Char.ofNat n]
  | .unit n :: .unit m :: rest =>
    if isHighHalf n then
      if isLowHalf m then
        (assemble rest).map (Char.ofNat (0x10000 + (n - 0xD800) * 0x400 + (m - 0xDC00)) :: ·)
      else .error .inside
    else if isLowHalf n then .error .inside
    else (assemble (.unit m :: rest)).map (Char.ofNat n :: ·)
  | .unit n :: rest =>
    if isHighHalf n || isLowHalf n then .error .inside
    else (assemble rest).map (Char.ofNat n :: ·)
  | .stray :: rest =>
    match assemble rest with
    | .error .inside => .error .inside
    | _ => .error .atEnd

/-- What a string holds. -/
def contentOf (pieces : List Piece) : StringContent :=
  match assemble pieces with
  | .ok chars => .text (String.ofList chars)
  | .error flaw => .unreadable (flaw = .atEnd)

/-- The value of a decimal digit. -/
def digit? : Glyph → Option Nat
  | none => none
  | some c => Text.digit? 10 c

/-- The digits at the start of the text, and the text behind them. -/
def scanDigits : List Glyph → List Nat × List Glyph
  | [] => ([], [])
  | g :: rest =>
    match digit? g with
    | none => ([], g :: rest)
    | some d =>
      let r := scanDigits rest
      (d :: r.1, r.2)

theorem scanDigits_length (text : List Glyph) : (scanDigits text).2.length ≤ text.length := by
  fun_induction scanDigits text with
  | case1 => simp
  | case2 => simp
  | case3 g rest d hd r ih => simpa using Nat.le_succ_of_le ih

/-- The digits at the start of the text, if there is one, and the text behind them. -/
def scanSomeDigits (text : List Glyph) : Option (List Nat × List Glyph) :=
  if (scanDigits text).1 = [] then none else some (scanDigits text)

theorem scanSomeDigits_length {text : List Glyph} {r : List Nat × List Glyph}
    (h : scanSomeDigits text = some r) : r.2.length ≤ text.length := by
  unfold scanSomeDigits at h
  split at h
  · simp at h
  · simp only [Option.some.injEq] at h
    subst h
    exact scanDigits_length text

/-- The fraction of a number: the digits behind a point, at least one, or nothing. -/
def scanFraction : List Glyph → Option (List Nat × List Glyph)
  | some '.' :: rest => scanSomeDigits rest
  | text => some ([], text)

/-- The sign of an exponent: whether it is a minus. -/
def scanSign : List Glyph → Bool × List Glyph
  | some '-' :: rest => (true, rest)
  | some '+' :: rest => (false, rest)
  | text => (false, text)

/-- Reads the sign and the digits of an exponent. -/
def scanPowerDigits (text : List Glyph) : Option (Option (Bool × List Nat) × List Glyph) :=
  (scanSomeDigits (scanSign text).2).map fun r => (some ((scanSign text).1, r.1), r.2)

/-- The exponent of a number, if it has one. -/
def scanPower : List Glyph → Option (Option (Bool × List Nat) × List Glyph)
  | some 'e' :: rest => scanPowerDigits rest
  | some 'E' :: rest => scanPowerDigits rest
  | text => some (none, text)

/-- A number from its first digit on. A zero in front of other digits is not allowed. -/
def scanNumber (negative : Bool) (text : List Glyph) : Option (Literal × List Glyph) := do
  let (whole, rest) := scanDigits text
  if whole = [] ∨ (whole.head? = some 0 ∧ whole.length ≠ 1) then none
  else
    let (fraction, rest) ← scanFraction rest
    let (power, rest) ← scanPower rest
    pure (⟨negative, whole, fraction, power⟩, rest)

theorem scanFraction_length {text : List Glyph} {r : List Nat × List Glyph}
    (h : scanFraction text = some r) : r.2.length ≤ text.length := by
  unfold scanFraction at h
  split at h
  · exact Nat.le_succ_of_le (scanSomeDigits_length h)
  · simp only [Option.some.injEq] at h
    subst h
    simp

theorem scanSign_length (text : List Glyph) : (scanSign text).2.length ≤ text.length := by
  unfold scanSign
  split <;> simp

theorem scanPowerDigits_length {text : List Glyph} {r : Option (Bool × List Nat) × List Glyph}
    (h : scanPowerDigits text = some r) : r.2.length ≤ text.length := by
  obtain ⟨p, hp, e⟩ := Option.map_eq_some_iff.1 h
  subst e
  exact Nat.le_trans (scanSomeDigits_length hp) (scanSign_length text)

theorem scanPower_length {text : List Glyph} {r : Option (Bool × List Nat) × List Glyph}
    (h : scanPower text = some r) : r.2.length ≤ text.length := by
  unfold scanPower at h
  split at h
  · exact Nat.le_succ_of_le (scanPowerDigits_length h)
  · exact Nat.le_succ_of_le (scanPowerDigits_length h)
  · simp only [Option.some.injEq] at h
    subst h
    simp

/-- The text behind a number is shorter than the text from its first digit on. -/
theorem scanNumber_length {negative : Bool} {text : List Glyph} {r : Literal × List Glyph}
    (h : scanNumber negative text = some r) : r.2.length < text.length := by
  unfold scanNumber at h
  have digits : (scanDigits text).1 ≠ [] → (scanDigits text).2.length < text.length := by
    cases text with
    | nil => simp [scanDigits]
    | cons g rest =>
      have := scanDigits_length rest
      unfold scanDigits
      split
      · simp
      · intro _; simp only [List.length_cons]; omega
  simp only at h
  split at h
  · simp at h
  next ok =>
    simp only [bind, Option.bind_eq_some_iff] at h
    obtain ⟨f, hf, p, hp, e⟩ := h
    simp only [pure, Option.some.injEq] at e
    subst e
    have h1 := scanFraction_length hf
    have h2 := scanPower_length hp
    have h3 := digits (fun e => ok (.inl e))
    simp only
    omega

/-- The text behind a word, if the text starts with it. -/
def stripWord : List Char → List Glyph → Option (List Glyph)
  | [], text => some text
  | _ :: _, [] => none
  | c :: word, g :: text => if g = some c then stripWord word text else none

theorem stripWord_length : ∀ {word : List Char} {text rest : List Glyph},
    stripWord word text = some rest → rest.length ≤ text.length
  | [], _, _, h => by simp [stripWord] at h; simp [h]
  | _ :: _, [], _, h => by simp [stripWord] at h
  | c :: word, g :: text, rest, h => by
    unfold stripWord at h
    split at h
    · exact Nat.le_succ_of_le (stripWord_length h)
    · simp at h

/-- Whether the character may stand between tokens. -/
def isSpace (c : Char) : Bool :=
  c = ' ' || c = '\t' || c = '\n' || c = '\r'

/-- The punctuation tokens. -/
def punctuation? (c : Char) : Option Token :=
  if c = '\x7b' then some .openBrace
  else if c = '\x7d' then some .closeBrace
  else if c = '[' then some .openBracket
  else if c = ']' then some .closeBracket
  else if c = ',' then some .comma
  else if c = ':' then some .colon
  else none

/-- One token that starts with `c`, and the text behind it. -/
def scanToken (c : Char) (rest : List Glyph) : Option (Token × List Glyph) :=
  match punctuation? c with
  | some token => some (token, rest)
  | none =>
    if c = '"' then
      (scanString rest).map fun r => (.string (contentOf r.1), r.2)
    else if c = '-' then (scanNumber true rest).map fun r => (.number r.1, r.2)
    else if (digit? (some c)).isSome then
      (scanNumber false (some c :: rest)).map fun r => (.number r.1, r.2)
    else if c = 'n' then (stripWord ['u', 'l', 'l'] rest).map fun r => (.null, r)
    else if c = 't' then (stripWord ['r', 'u', 'e'] rest).map fun r => (.bool true, r)
    else if c = 'f' then (stripWord ['a', 'l', 's', 'e'] rest).map fun r => (.bool false, r)
    else none

theorem scanToken_length {c : Char} {rest : List Glyph} {r : Token × List Glyph}
    (h : scanToken c rest = some r) : r.2.length ≤ rest.length := by
  have literal : ∀ {negative : Bool} {text : List Glyph}, text.length ≤ rest.length + 1 →
      (scanNumber negative text).map (fun r => (Token.number r.1, r.2)) = some r →
      r.2.length ≤ rest.length := by
    intro negative text bound h
    obtain ⟨p, hp, e⟩ := Option.map_eq_some_iff.1 h
    have := scanNumber_length hp
    subst e
    simp only
    omega
  have word : ∀ {letters : List Char} {token : Token},
      (stripWord letters rest).map (fun r => (token, r)) = some r → r.2.length ≤ rest.length := by
    intro letters token h
    obtain ⟨p, hp, e⟩ := Option.map_eq_some_iff.1 h
    subst e
    exact stripWord_length hp
  unfold scanToken at h
  split at h
  · simp only [Option.some.injEq] at h; subst h; simp
  split at h
  · obtain ⟨p, hp, e⟩ := Option.map_eq_some_iff.1 h
    subst e
    exact Nat.le_of_lt (scanString_length hp)
  split at h
  · exact literal (Nat.le_succ _) h
  split at h
  · exact literal (Nat.le_refl _) h
  split at h
  · exact word h
  split at h
  · exact word h
  split at h
  · exact word h
  · simp at h

/-- The tokens of a text, up to the first place where there is none. -/
def lex : List Glyph → List Token
  | [] => []
  | none :: _ => [.fault]
  | some c :: rest =>
    if isSpace c then lex rest
    else
      match _h : scanToken c rest with
      | some r => r.1 :: lex r.2
      | none => [.fault]
termination_by text => text.length
decreasing_by
  · simp
  · have := scanToken_length _h
    simp only [List.length_cons]
    omega

/-- The tokens of a list of bytes. -/
def tokens (bytes : List UInt8) : List Token :=
  lex (Text.Utf8.decode bytes)

end BearerGate.Json
