import BearerGate.Http.Response
import BearerGate.Proofs.Json.Written
import Mathlib.Data.List.Basic

/-!
# Errors are read from their responses

The body of a response to a failed call says all that the error says (`RpcError.response_lossless`).
It is an object with a code, a message and, only if there are any, details, and each is read from it
as it was given, whatever characters it is made of. So errors with the same body are equal, and the
error that a response carries besides is the one that its body spells.
-/

namespace BearerGate

open Json (Document)

theorem ErrorCode.ofName?_name (code : ErrorCode) : ofName? code.name = some code := by
  cases code with
  | _ => rfl

theorem ErrorCode.name_injective : Function.Injective name := by
  intro code other same
  have found := ofName?_name code
  rw [same, ofName?_name other] at found
  exact (Option.some.inj found).symm

namespace RpcError

/-- The error with details added one after another. -/
def withDetails (error : RpcError) (details : List (String × String)) : RpcError :=
  details.foldl (fun error detail => error.withDetail detail.1 detail.2) error

theorem new_withDetails (code : ErrorCode) (message : String) (details : List (String × String)) :
    (new code message).withDetails details = ⟨code, message, .ofList details⟩ := by
  suffices general : ∀ held : Dict String,
      (⟨code, message, held⟩ : RpcError).withDetails details =
        ⟨code, message, details.foldl (fun held detail => held.insert detail.1 detail.2) held⟩ from
    general .empty
  induction details with
  | nil => exact fun _ => rfl
  | cons detail details ih => exact fun held => ih (held.insert detail.1 detail.2)

/-! ## What is written -/

variable (error : RpcError)

/-- The members of the object that an error is written as. -/
def members : List (String × Json) :=
  [("code", .string error.code.name), ("msg", .string error.message)] ++
    if error.details.isEmpty then [] else [("meta", .ofDict (error.details.map .string))]

theorem body_response : error.response.body = (Json.object error.members).text := rfl

theorem names_members : error.members.map (·.1) =
    ["code", "msg"] ++ if error.details.isEmpty then [] else ["meta"] := by
  unfold members
  cases error.details.isEmpty with
  | true => rfl
  | false => rfl

theorem mem_members {member : String × Json} (written : member ∈ error.members) :
    (∃ text, member.2 = .string text) ∨ member.2 = .ofDict (error.details.map .string) := by
  rcases List.mem_append.mp written with always | sometimes
  · left
    rcases List.mem_pair.mp always with rfl | rfl
    · exact ⟨_, rfl⟩
    · exact ⟨_, rfl⟩
  · right
    obtain ⟨-, listed⟩ := List.mem_ite_nil_left.mp sometimes
    rw [List.mem_singleton.mp listed]

theorem isFloatFree_details : (Json.ofDict (error.details.map .string)).isFloatFree = true := by
  refine Json.membersFloatFree_iff.mpr fun member listed => ?_
  obtain ⟨detail, -, rfl⟩ := List.mem_map.mp listed
  rfl

theorem toJson?_details (depth : Nat) :
    (Document.ofJson (.ofDict (error.details.map .string))).toJson? (depth + 1) =
      some (.ofDict (error.details.map .string)) := by
  refine (Document.toJson?_ofJson_object fun member listed => ?_).trans ?_
  · obtain ⟨detail, -, rfl⟩ := List.mem_map.mp listed
    rfl
  · rw [Dict.ofList_entries]

theorem isFloatFree_members : (Json.object error.members).isFloatFree = true := by
  refine Json.membersFloatFree_iff.mpr fun member written => ?_
  rcases error.mem_members written with ⟨text, is⟩ | is
  · rw [is]
    rfl
  · rw [is]
    exact error.isFloatFree_details

/-! ## What is read -/

/-- The body of a response to a failed call is the document of the error's members. -/
theorem ofBytes?_body : Document.ofBytes? (Text.Utf8.encode error.response.body) =
    some (.ofJson (.object error.members)) := by
  rw [body_response]
  exact Document.ofBytes?_text error.isFloatFree_members

theorem toJson?_members : (Document.ofJson (.object error.members)).toJson? Document.depthLimit =
    some (.ofDict (.ofList error.members)) := by
  refine Document.toJson?_ofJson_object fun member written => ?_
  rcases error.mem_members written with ⟨text, is⟩ | is
  · rw [is]
    rfl
  · rw [is]
    exact error.toJson?_details _

/-- No name is repeated, so each holds what is written for it. -/
theorem get?_members (name : String) : (Dict.ofList error.members).get? name =
    if name = "meta" then
      if error.details.isEmpty then none else some (.ofDict (error.details.map .string))
    else if name = "msg" then some (.string error.message)
    else if name = "code" then some (.string error.code.name)
    else none := by
  rw [Dict.get?_ofList, members]
  cases error.details.isEmpty with
  | true =>
    change [("msg", Json.string error.message), ("code", .string error.code.name)].lookup name = _
    rw [Dict.lookup_entry, Dict.lookup_entry, List.lookup_nil]
    by_cases described : name = "meta"
    · rw [described]
      rfl
    · rw [if_neg described]
  | false =>
    change [("meta", Json.ofDict (error.details.map .string)), ("msg", .string error.message),
      ("code", .string error.code.name)].lookup name = _
    rw [Dict.lookup_entry, Dict.lookup_entry, Dict.lookup_entry, List.lookup_nil]
    rfl

/-- Details that are left out are as well known as those that are written. -/
theorem writtenDetails_injective : Function.Injective fun details : Dict String =>
    if details.isEmpty then none else some (Json.ofDict (details.map .string)) := by
  intro details other same
  dsimp only at same
  cases bare : details.isEmpty with
  | true =>
    cases bare' : other.isEmpty with
    | true =>
      have nothing : details.entries = [] := List.isEmpty_iff.mp bare
      exact Dict.ext_entries (nothing.trans (List.isEmpty_iff.mp bare').symm)
    | false =>
      rw [bare, bare'] at same
      cases same
  | false =>
    cases bare' : other.isEmpty with
    | true =>
      rw [bare, bare'] at same
      cases same
    | false =>
      rw [bare, bare'] at same
      have entries := Json.object.inj (Option.some.inj same)
      exact Dict.map_injective (fun _ _ => Json.string.inj) (Dict.ext_entries entries)

/-- Errors that are written with the same members are equal. -/
theorem ofList_members_injective : Function.Injective fun error => Dict.ofList (members error) := by
  intro error other same
  have agree (name : String) :
      (Dict.ofList error.members).get? name = (Dict.ofList other.members).get? name :=
    congrArg (Dict.get? · name) same
  simp only [get?_members] at agree
  obtain ⟨code, message, details⟩ := error
  obtain ⟨code', message', details'⟩ := other
  have codes : code = code' :=
    ErrorCode.name_injective (Json.string.inj (Option.some.inj (agree "code")))
  have messages : message = message' := Json.string.inj (Option.some.inj (agree "msg"))
  have described : details = details' := writtenDetails_injective (agree "meta")
  rw [codes, messages, described]

end RpcError

/-- A document that is an object with the code and the message of an error and, if there are any,
its details, of which the last counts under each name. -/
structure Json.Document.SpellsError (document : Document) (code : ErrorCode) (message : String)
    (details : List (String × String)) : Prop where
  names : ∃ parts, document.members? = some parts ∧
    parts.map (·.1) = ["code", "msg"] ++ if details = [] then [] else ["meta"]
  values : ∃ members, document.toJson? Document.depthLimit = some (.ofDict members) ∧
    members.get? "code" = some (.string code.name) ∧
      members.get? "msg" = some (.string message) ∧
        (details ≠ [] → ∃ held : Dict Json, members.get? "meta" = some (.ofDict held) ∧
          ∀ name, held.get? name = (details.reverse.lookup name).map .string)

namespace RpcError

theorem response_body_injective : Function.Injective fun error => (response error).body := by
  intro error other same
  have read := error.ofBytes?_body
  dsimp only at same
  rw [same, other.ofBytes?_body] at read
  have values := error.toJson?_members
  rw [← Option.some.inj read, other.toJson?_members] at values
  have entries : (Dict.ofList other.members).entries = (Dict.ofList error.members).entries :=
    Json.object.inj (Option.some.inj values)
  exact (ofList_members_injective (Dict.ext_entries entries)).symm

theorem spellsError (code : ErrorCode) (message : String) (details : List (String × String)) :
    (Document.ofJson (.object ((new code message).withDetails details).members)).SpellsError code
      message details := by
  rw [new_withDetails]
  constructor
  · refine ⟨_, Document.members?_ofJson _, ?_⟩
    rw [List.map_map]
    refine (names_members _).trans ?_
    simp only [Dict.isEmpty_ofList_iff]
  · refine ⟨_, toJson?_members _, ?_, ?_, ?_⟩
    · rw [get?_members]
      rfl
    · rw [get?_members]
      rfl
    · intro given
      have held : ¬ (Dict.ofList details).isEmpty = true := fun nothing =>
        given (Dict.isEmpty_ofList_iff.mp nothing)
      refine ⟨(Dict.ofList details).map .string, ?_, fun name => ?_⟩
      · rw [get?_members, if_pos rfl, if_neg held]
      · rw [Dict.get?_map, Dict.get?_ofList]

/-- Nothing of an error is lost in the response to a failed call: it has the status of the code, its
body is a document that spells the error and no other, and it carries the error itself. -/
theorem response_lossless (code : ErrorCode) (message : String) (details : List (String × String)) :
    ((new code message).withDetails details).response.status = code.httpStatus ∧
      (∃ document, Document.ofBytes? (Text.Utf8.encode
          ((new code message).withDetails details).response.body) = some document ∧
        document.SpellsError code message details) ∧
      ((new code message).withDetails details).response.failure =
        some ((new code message).withDetails details) ∧
      ∀ other : RpcError,
        other.response.body = ((new code message).withDetails details).response.body →
          other = (new code message).withDetails details := by
  refine ⟨?_, ?_, rfl, ?_⟩
  · rw [new_withDetails]
    rfl
  · exact ⟨_, ofBytes?_body _, spellsError code message details⟩
  · exact fun other same => response_body_injective same

end RpcError

end BearerGate
