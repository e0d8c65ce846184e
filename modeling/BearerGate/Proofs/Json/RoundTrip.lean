import BearerGate.Proofs.Dict
import BearerGate.Proofs.Json.Integers
import BearerGate.Proofs.Json.Strings
import BearerGate.Proofs.Json.Tokens
import BearerGate.Proofs.Text.Encoding

/-!
# Values are read as they are written

The compact text of a value without doubles is read as one document, `Document.ofJson`
(`Document.ofBytes?_text`). A double is left out of this: its text need not be read as the same
double.
-/

namespace BearerGate.Json

open BearerGate.Text (Glyph)

mutual

/-- Whether no number in a value is a double. -/
def isFloatFree : Json → Bool
  | .null | .bool _ | .string _ | .number (.integer _) => true
  | .number (.double _) => false
  | .array items => itemsFloatFree items
  | .object members => membersFloatFree members

/-- Whether no number in the items is a double. -/
def itemsFloatFree : List Json → Bool
  | [] => true
  | item :: items => item.isFloatFree && itemsFloatFree items

/-- Whether no number in the members is a double. -/
def membersFloatFree : List (String × Json) → Bool
  | [] => true
  | (_, value) :: members => value.isFloatFree && membersFloatFree members

end

/-- The literal of a number; a double has none of its own and gets that of zero. -/
def Number.literal : Number → Literal
  | .integer n => .ofInteger n
  | .double _ => .ofInteger 0

mutual

/-- The document that a value is written as. -/
def Document.ofJson : Json → Document
  | .null => .null
  | .bool value => .bool value
  | .number n => .number n.literal
  | .string s => .string (.text s)
  | .array items => .array (itemsOfJson items)
  | .object members => .object (membersOfJson members)

/-- The documents that items are written as. -/
def Document.itemsOfJson : List Json → List Document
  | [] => []
  | item :: items => ofJson item :: itemsOfJson items

/-- The documents that members are written as, with their names. -/
def Document.membersOfJson : List (String × Json) → List (StringContent × Document)
  | [] => []
  | (name, value) :: members => (.text name, ofJson value) :: membersOfJson members

end

theorem Document.itemsOfJson_eq_map (items : List Json) :
    itemsOfJson items = items.map ofJson := by
  induction items with
  | nil => rfl
  | cons item items ih => rw [itemsOfJson, ih, List.map_cons]

theorem Document.membersOfJson_eq_map (members : List (String × Json)) :
    membersOfJson members = members.map fun member => (.text member.1, ofJson member.2) := by
  induction members with
  | nil => rfl
  | cons member members ih => rw [membersOfJson, ih, List.map_cons]

/-! ## Tokens -/

theorem lex_of_scanToken {c : Char} {text rest : List Glyph} {token : Token}
    (blank : isSpace c = false) (scanned : scanToken c text = some (token, rest)) :
    lex (some c :: text) = token :: lex rest := by
  rw [lex, if_neg (by rw [blank]; exact Bool.false_ne_true)]
  split
  · next read found =>
    rw [scanned] at found
    cases found
    rfl
  · next found =>
    rw [scanned] at found
    cases found

theorem lex_stringChars (s : String) (rest : List Glyph) :
    lex ((stringChars s).map some ++ rest) = .string (.text s) :: lex rest := by
  unfold stringChars
  exact lex_of_scanToken rfl (scanToken_stringChars s rest)

theorem lex_integerChars (n : Int) {rest : List Glyph} (ends : NumberEnds rest) :
    lex ((integerChars n).map some ++ rest) = .number (.ofInteger n) :: lex rest := by
  obtain ⟨c, text, starts, blank, scanned⟩ := scanToken_integerChars n ends
  rw [starts, lex_of_scanToken blank scanned]

theorem lex_punctuation {c : Char} {token : Token} (mark : punctuation? c = some token)
    (blank : isSpace c = false) (rest : List Glyph) :
    lex (some c :: rest) = token :: lex rest := by
  refine lex_of_scanToken blank ?_
  unfold scanToken
  rw [mark]

/-- A comma or a closing mark ends a number. -/
theorem numberEnds_cons {c : Char} (mark : c = ',' ∨ c = ']' ∨ c = '\x7d') (rest : List Glyph) :
    NumberEnds (some c :: rest) := by
  intro d first
  cases first
  rcases mark with rfl | rfl | rfl
  · decide
  · decide
  · decide

theorem numberEnds_itemsChars (items : List Json) (rest : List Glyph) :
    NumberEnds ((itemsChars items).map some ++ rest) := by
  cases items with
  | nil => exact numberEnds_cons (by decide) _
  | cons item items => exact numberEnds_cons (by decide) _

theorem numberEnds_membersChars (members : List (String × Json)) (rest : List Glyph) :
    NumberEnds ((membersChars members).map some ++ rest) := by
  cases members with
  | nil => exact numberEnds_cons (by decide) _
  | cons member members => exact numberEnds_cons (by decide) _

open Document (ofJson itemsOfJson membersOfJson itemsTokens membersTokens)

mutual

/-- A written value has the tokens of its document. -/
theorem lex_chars : ∀ (value : Json), value.isFloatFree = true → ∀ {rest : List Glyph},
    NumberEnds rest → lex (value.chars.map some ++ rest) = (ofJson value).toTokens ++ lex rest
  | .null, _, rest, _ => lex_of_scanToken rfl (by rfl)
  | .bool true, _, rest, _ => lex_of_scanToken rfl (by rfl)
  | .bool false, _, rest, _ => lex_of_scanToken rfl (by rfl)
  | .number (.integer n), _, rest, ends => lex_integerChars n ends
  | .string s, _, rest, _ => lex_stringChars s rest
  | .array [], _, rest, _ => by
    change lex (some '[' :: some ']' :: rest) = _
    rw [lex_punctuation rfl rfl, lex_punctuation rfl rfl]
    rfl
  | .array (item :: items), exact, rest, _ => by
    rw [isFloatFree, itemsFloatFree, Bool.and_eq_true] at exact
    -- The first item may be a number, which the comma or bracket behind it ends.
    have first := lex_chars item exact.1 (numberEnds_itemsChars items rest)
    have others := lex_itemsChars items exact.2 rest
    simp only [chars, List.cons_append, List.map_cons, List.map_append, List.append_assoc]
    rw [lex_punctuation rfl rfl, first, others]
    simp only [ofJson, itemsOfJson, Document.toTokens, List.cons_append, List.append_assoc]
  | .object [], _, rest, _ => by
    change lex (some '\x7b' :: some '\x7d' :: rest) = _
    rw [lex_punctuation rfl rfl, lex_punctuation rfl rfl]
    rfl
  | .object ((name, value) :: members), exact, rest, _ => by
    rw [isFloatFree, membersFloatFree, Bool.and_eq_true] at exact
    have first := lex_chars value exact.1 (numberEnds_membersChars members rest)
    have others := lex_membersChars members exact.2 rest
    simp only [chars, List.cons_append, List.map_cons, List.map_append, List.append_assoc]
    rw [lex_punctuation rfl rfl, lex_stringChars, lex_punctuation rfl rfl, first, others]
    simp only [ofJson, membersOfJson, Document.toTokens, List.cons_append, List.append_assoc]

/-- The items behind one have the tokens of their documents. -/
theorem lex_itemsChars : ∀ (items : List Json), itemsFloatFree items = true →
    ∀ (rest : List Glyph), lex ((itemsChars items).map some ++ rest) =
      itemsTokens (itemsOfJson items) ++ lex rest
  | [], _, rest => lex_punctuation rfl rfl rest
  | item :: items, exact, rest => by
    rw [itemsFloatFree, Bool.and_eq_true] at exact
    have first := lex_chars item exact.1 (numberEnds_itemsChars items rest)
    have others := lex_itemsChars items exact.2 rest
    simp only [itemsChars, List.cons_append, List.map_cons, List.map_append, List.append_assoc]
    rw [lex_punctuation rfl rfl, first, others]
    simp only [itemsOfJson, itemsTokens, List.cons_append, List.append_assoc]

/-- The members behind one have the tokens of their documents. -/
theorem lex_membersChars : ∀ (members : List (String × Json)), membersFloatFree members = true →
    ∀ (rest : List Glyph), lex ((membersChars members).map some ++ rest) =
      membersTokens (membersOfJson members) ++ lex rest
  | [], _, rest => lex_punctuation rfl rfl rest
  | (name, value) :: members, exact, rest => by
    rw [membersFloatFree, Bool.and_eq_true] at exact
    have first := lex_chars value exact.1 (numberEnds_membersChars members rest)
    have others := lex_membersChars members exact.2 rest
    simp only [membersChars, List.cons_append, List.map_cons, List.map_append, List.append_assoc]
    rw [lex_punctuation rfl rfl, lex_stringChars, lex_punctuation rfl rfl, first, others]
    simp only [membersOfJson, membersTokens, List.cons_append, List.append_assoc]

end

/-- A written value is read as its document. -/
theorem Document.ofBytes?_text {value : Json} (exact : value.isFloatFree = true) :
    ofBytes? (Text.Utf8.encode value.text) = some (ofJson value) := by
  have ends : NumberEnds [] := by
    intro c first
    cases first
  have lexed := lex_chars value exact ends
  rw [List.append_nil, lex, List.append_nil] at lexed
  unfold ofBytes? tokens text
  rw [Text.Utf8.decode_encode, String.toList_ofList, lexed, ofTokens?_toTokens]

theorem Document.ofBytes?_of_text {text : String} (value : Json) (written : value.text = text)
    (exact : value.isFloatFree = true) :
    ofBytes? (Text.Utf8.encode text) = some (ofJson value) := by
  rw [← written]
  exact ofBytes?_text exact

/-! ## Values that were read -/

theorem itemsFloatFree_iff {items : List Json} :
    itemsFloatFree items = true ↔ ∀ item ∈ items, item.isFloatFree = true := by
  induction items with
  | nil => simp [itemsFloatFree]
  | cons item items ih => simp [itemsFloatFree, ih]

theorem membersFloatFree_iff {members : List (String × Json)} :
    membersFloatFree members = true ↔ ∀ member ∈ members, member.2.isFloatFree = true := by
  induction members with
  | nil => simp [membersFloatFree]
  | cons member members ih => simp [membersFloatFree, ih]

namespace Document

theorem ofJson_eq_null_iff {value : Json} : ofJson value = .null ↔ value = .null := by
  cases value with
  | null => exact iff_of_true rfl rfl
  | _ => exact iff_of_false nofun nofun

/-- Nothing but null is read as null. -/
theorem eq_null_of_toJson? {document : Document} {depth : Nat}
    (read : document.toJson? depth = some .null) : document = .null := by
  cases document with
  | null => rfl
  | bool b => cases read
  | number literal =>
    obtain ⟨n, -, same⟩ := Option.map_eq_some_iff.mp read
    cases same
  | string content =>
    obtain ⟨text, -, same⟩ := Option.map_eq_some_iff.mp read
    cases same
  | array items =>
    cases depth with
    | zero => cases read
    | succ depth =>
      obtain ⟨values, -, same⟩ := Option.map_eq_some_iff.mp read
      cases same
  | object members =>
    cases depth with
    | zero => cases read
    | succ depth =>
      obtain ⟨pairs, -, same⟩ := Option.map_eq_some_iff.mp read
      cases same

theorem itemsToJson?_itemsOfJson {values : List Json} {depth : Nat}
    (stable : ∀ value ∈ values, (ofJson value).toJson? depth = some value) :
    itemsToJson? (itemsOfJson values) depth = some values := by
  induction values with
  | nil => rfl
  | cons value values ih =>
    have here := stable value List.mem_cons_self
    have later := ih fun other member => stable other (List.mem_cons_of_mem value member)
    rw [itemsOfJson, itemsToJson?, here, later]

theorem membersToJson?_membersOfJson {pairs : List (String × Json)} {depth : Nat}
    (stable : ∀ pair ∈ pairs, (ofJson pair.2).toJson? depth = some pair.2) :
    membersToJson? (membersOfJson pairs) depth = some pairs := by
  induction pairs with
  | nil => rfl
  | cons pair pairs ih =>
    have here := stable pair List.mem_cons_self
    have later := ih fun other member => stable other (List.mem_cons_of_mem pair member)
    rw [membersOfJson, membersToJson?, here, later]
    rfl

/-- An object is read as the dictionary of its members if each of their values is read. -/
theorem toJson?_ofJson_object {members : List (String × Json)} {depth : Nat}
    (stable : ∀ member ∈ members, (ofJson member.2).toJson? depth = some member.2) :
    (ofJson (.object members)).toJson? (depth + 1) = some (.ofDict (.ofList members)) :=
  congrArg (Option.map fun pairs => ofDict (.ofList pairs)) (membersToJson?_membersOfJson stable)

mutual

/-- A value that was read is read again from what it is written as. -/
theorem toJson?_ofJson : ∀ (document : Document) {depth : Nat} {value : Json},
    document.toJson? depth = some value → value.isFloatFree = true →
      (ofJson value).toJson? depth = some value
  | .null, depth, value, read, exact => by
    cases read
    rfl
  | .bool b, depth, value, read, exact => by
    cases read
    rfl
  | .number literal, depth, value, read, exact => by
    obtain ⟨n, known, rfl⟩ := Option.map_eq_some_iff.mp read
    cases n with
    | integer n =>
      obtain ⟨low, high⟩ := Number.bounds_of_ofLiteral? known
      exact congrArg (Option.map Json.number) (Number.ofLiteral?_ofInteger low high)
    | double x => cases exact
  | .string content, depth, value, read, exact => by
    obtain ⟨text, known, rfl⟩ := Option.map_eq_some_iff.mp read
    rfl
  | .array items, 0, value, read, exact => by cases read
  | .array items, depth + 1, value, read, exact => by
    obtain ⟨values, known, rfl⟩ := Option.map_eq_some_iff.mp read
    have stable := toJson?_of_mem_items items known
    have free := itemsFloatFree_iff.mp exact
    have again := itemsToJson?_itemsOfJson fun other member =>
      stable other member (free other member)
    exact congrArg (Option.map Json.array) again
  | .object members, 0, value, read, exact => by cases read
  | .object members, depth + 1, value, read, exact => by
    obtain ⟨pairs, known, rfl⟩ := Option.map_eq_some_iff.mp read
    have stable := toJson?_of_mem_members members known
    have free := membersFloatFree_iff.mp exact
    have again := toJson?_ofJson_object fun pair member =>
      stable pair (Dict.mem_of_mem_entries_ofList member) (free pair member)
    -- The members that are written are in order and distinct, so they are the dictionary's own.
    rw [Dict.ofList_entries] at again
    exact again

theorem toJson?_of_mem_items : ∀ (items : List Document) {depth : Nat} {values : List Json},
    itemsToJson? items depth = some values → ∀ value ∈ values, value.isFloatFree = true →
      (ofJson value).toJson? depth = some value
  | [], depth, values, read, value, member, exact => by
    cases read
    cases member
  | item :: items, depth, values, read, value, member, exact => by
    rw [itemsToJson?] at read
    split at read
    · next first others here later =>
      cases read
      rcases List.mem_cons.mp member with rfl | member
      · exact toJson?_ofJson item here exact
      · exact toJson?_of_mem_items items later value member exact
    · cases read

theorem toJson?_of_mem_members : ∀ (members : List (StringContent × Document)) {depth : Nat}
    {pairs : List (String × Json)}, membersToJson? members depth = some pairs →
      ∀ pair ∈ pairs, pair.2.isFloatFree = true → (ofJson pair.2).toJson? depth = some pair.2
  | [], depth, pairs, read, pair, member, exact => by
    cases read
    cases member
  | (name, document) :: members, depth, pairs, read, pair, member, exact => by
    rw [membersToJson?] at read
    split at read
    · next decoded first others named here later =>
      cases read
      rcases List.mem_cons.mp member with rfl | member
      · exact toJson?_ofJson document here exact
      · exact toJson?_of_mem_members members later pair member exact
    · cases read

end

end Document

end BearerGate.Json
