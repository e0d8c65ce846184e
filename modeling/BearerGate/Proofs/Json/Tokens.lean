import BearerGate.Json.Document

/-!
# Documents and their tokens

Every document is made up of tokens in one way, and the parser gives it back from them, whatever
follows and whatever containers are open (`parseValue_toTokens`).
-/

namespace BearerGate.Json

namespace Document

mutual

/-- The tokens that make up a document. -/
def toTokens : Document → List Token
  | .null => [.null]
  | .bool value => [.bool value]
  | .number literal => [.number literal]
  | .string content => [.string content]
  | .array [] => [.openBracket, .closeBracket]
  | .array (item :: items) => .openBracket :: item.toTokens ++ itemsTokens items
  | .object [] => [.openBrace, .closeBrace]
  | .object ((name, value) :: members) =>
    .openBrace :: .string name :: .colon :: value.toTokens ++ membersTokens members

/-- The items behind the first, each after a comma, and the closing bracket. -/
def itemsTokens : List Document → List Token
  | [] => [.closeBracket]
  | item :: items => .comma :: item.toTokens ++ itemsTokens items

/-- The members behind the first, each after a comma, and the closing brace. -/
def membersTokens : List (StringContent × Document) → List Token
  | [] => [.closeBrace]
  | (name, value) :: members =>
    .comma :: .string name :: .colon :: value.toTokens ++ membersTokens members

end

/-- No document begins with a closing bracket. -/
theorem toTokens_eq_cons (document : Document) :
    ∃ token rest, document.toTokens = token :: rest ∧ token ≠ .closeBracket := by
  cases document with
  | array items =>
    cases items with
    | nil => exact ⟨_, _, rfl, by simp⟩
    | cons item items => exact ⟨_, _, by rw [toTokens, List.cons_append], by simp⟩
  | object members =>
    cases members with
    | nil => exact ⟨_, _, rfl, by simp⟩
    | cons member members => exact ⟨_, _, by rw [toTokens, List.cons_append], by simp⟩
  | _ => exact ⟨_, _, rfl, by simp⟩

end Document

open Document (itemsTokens membersTokens)

/-- A bracket in front of a document opens an array. -/
theorem parseValue_openBracket (item : Document) (rest : List Token) (frames : List Frame) :
    parseValue (.openBracket :: (item.toTokens ++ rest)) frames =
      parseValue (item.toTokens ++ rest) (.array [] :: frames) := by
  obtain ⟨token, more, starts, other⟩ := item.toTokens_eq_cons
  rw [starts, List.cons_append]
  cases token with
  | closeBracket => exact (other rfl).elim
  | _ => rfl

mutual

/-- A document is parsed from its tokens. -/
theorem parseValue_toTokens : ∀ (document : Document) (rest : List Token) (frames : List Frame),
    parseValue (document.toTokens ++ rest) frames = parseAfter rest frames document
  | .null, _, _ => rfl
  | .bool _, _, _ => rfl
  | .number _, _, _ => rfl
  | .string _, _, _ => rfl
  | .array [], _, _ => rfl
  | .array (item :: items), rest, frames => by
    simp only [Document.toTokens, List.cons_append, List.append_assoc]
    rw [parseValue_openBracket, parseValue_toTokens item, parseAfter_itemsTokens items]
    rfl
  | .object [], _, _ => rfl
  | .object ((name, value) :: members), rest, frames => by
    simp only [Document.toTokens, List.cons_append, List.append_assoc]
    change parseValue (value.toTokens ++ (membersTokens members ++ rest)) _ = _
    rw [parseValue_toTokens value, parseAfter_membersTokens members]
    rfl

/-- The items behind one that is parsed are those that their tokens make up. -/
theorem parseAfter_itemsTokens : ∀ (items : List Document) (rest : List Token)
    (frames : List Frame) (done : List Document) (value : Document),
    parseAfter (itemsTokens items ++ rest) (.array done :: frames) value =
      parseAfter rest frames (.array ((value :: done).reverse ++ items))
  | [], rest, frames, done, value => by
    rw [List.append_nil]
    rfl
  | item :: items, rest, frames, done, value => by
    simp only [itemsTokens, List.cons_append, List.append_assoc]
    change parseValue (item.toTokens ++ (itemsTokens items ++ rest)) _ = _
    rw [parseValue_toTokens item, parseAfter_itemsTokens items, List.reverse_cons,
      List.append_assoc]
    rfl

/-- The members behind one that is parsed are those that their tokens make up. -/
theorem parseAfter_membersTokens : ∀ (members : List (StringContent × Document))
    (rest : List Token) (frames : List Frame) (done : List (StringContent × Document))
    (name : StringContent) (value : Document),
    parseAfter (membersTokens members ++ rest) (.object done name :: frames) value =
      parseAfter rest frames (.object (((name, value) :: done).reverse ++ members))
  | [], rest, frames, done, name, value => by
    rw [List.append_nil]
    rfl
  | (next, document) :: members, rest, frames, done, name, value => by
    simp only [membersTokens, List.cons_append, List.append_assoc]
    change parseValue (document.toTokens ++ (membersTokens members ++ rest)) _ = _
    rw [parseValue_toTokens document, parseAfter_membersTokens members, List.reverse_cons,
      List.append_assoc]
    rfl

end

/-- The tokens that make up a document are those of no other. -/
theorem Document.ofTokens?_toTokens (document : Document) :
    ofTokens? document.toTokens = some document := by
  have parsed := parseValue_toTokens document [] []
  rw [List.append_nil] at parsed
  unfold ofTokens?
  rw [parsed]
  rfl

end BearerGate.Json
