import BearerGate.Proofs.Json.Record
import BearerGate.Proofs.Json.RoundTrip

/-!
# Written records

The members that an object is written with are the members that are read of it, in their order.
They make up a record of any names among which theirs come in this order (`record?_ofJson`), and
what is read under a name is the written part (`part?_ofJson`).
-/

namespace BearerGate

open Json (Document StringContent)

/-- Items are read as they are written if each is. -/
theorem mapM_map_of_inverse {α β : Type} {read : β → Option α} {write : α → β}
    (inverse : ∀ item, read (write item) = some item) (items : List α) :
    (items.map write).mapM read = some items := by
  induction items with
  | nil => rfl
  | cons item items ih =>
    rw [List.map_cons, List.mapM_cons, inverse, ih]
    rfl

namespace Json.Document

theorem decodedMembers_membersOfJson (members : List (String × Json)) :
    decodedMembers (membersOfJson members) =
      members.map fun member => (member.1, ofJson member.2) := by
  unfold decodedMembers
  rw [membersOfJson_eq_map, List.filterMap_map]
  exact congrFun List.filterMap_eq_map members

theorem text?_isSome_of_mem_membersOfJson {members : List (String × Json)}
    {member : StringContent × Document} (written : member ∈ membersOfJson members) :
    member.1.text?.isSome = true := by
  rw [membersOfJson_eq_map] at written
  obtain ⟨given, -, rfl⟩ := List.mem_map.mp written
  rfl

theorem members?_ofJson (members : List (String × Json)) :
    (ofJson (.object members)).members? =
      some (members.map fun member => (member.1, ofJson member.2)) :=
  members?_object_eq_some_iff.mpr
    ⟨fun _ => text?_isSome_of_mem_membersOfJson, (decodedMembers_membersOfJson members).symm⟩

/-- A record of known members in their order is read as these members. -/
theorem record?_ofJson {names : List String} (distinct : names.Nodup)
    {members : List (String × Json)} (listed : (members.map (·.1)).Sublist names) :
    (ofJson (.object members)).record? names =
      some (members.map fun member => (member.1, ofJson member.2)) := by
  have all : ((decodedMembers (membersOfJson members)).filter fun member =>
      names.contains member.1) = members.map fun member => (member.1, ofJson member.2) := by
    rw [decodedMembers_membersOfJson, List.filter_eq_self]
    intro member written
    obtain ⟨given, among, rfl⟩ := List.mem_map.mp written
    exact List.contains_iff_mem.mpr (listed.subset (List.mem_map_of_mem among))
  refine record?_object.mpr ⟨⟨fun member => text?_isSome_of_mem_membersOfJson, ?_⟩, all.symm⟩
  rw [all, List.map_map]
  exact distinct.sublist listed

/-- A written part is what is read of the member, and the default where there is none. -/
theorem part?_ofJson {α : Type} (members : List (String × Json)) (name : String) (fallback : α)
    (read : Document → Option α) :
    part? (members.map fun member => (member.1, ofJson member.2)) name fallback read =
      match members.lookup name with
      | none => some fallback
      | some value => read (ofJson value) := by
  have looked : (members.map fun member => (member.1, ofJson member.2)).lookup name =
      (members.lookup name).map ofJson := by
    induction members with
    | nil => rfl
    | cons member members ih =>
      rw [List.map_cons, Dict.lookup_entry, Dict.lookup_entry, ih]
      split
      · rfl
      · rfl
  unfold part?
  rw [looked]
  cases members.lookup name with
  | none => rfl
  | some value => rfl

theorem int64?_ofJson (n : Int64) : (ofJson (.int n.toInt)).int64? = some n := by
  have low := n.le_toInt
  have high := n.toInt_lt
  have read : Number.ofLiteral? (.ofInteger n.toInt) = some (.integer n.toInt) :=
    Number.ofLiteral?_ofInteger (by omega) (by omega)
  have whole : (ofJson (.int n.toInt)).integer? (-0x8000000000000000) 0x7FFFFFFFFFFFFFFF =
      some n.toInt := by
    change (number (.ofInteger n.toInt)).integer? _ _ = _
    simp only [integer?, read]
    exact if_pos ⟨by omega, by omega⟩
  rw [int64?, whole, Option.map_some, Int64.ofInt_toInt]

theorem mapM_text?_ofJson (texts : List String) :
    (itemsOfJson (texts.map .string)).mapM text? = some texts := by
  have inverse : ∀ text, (ofJson (.string text)).text? = some text := fun _ => rfl
  rw [itemsOfJson_eq_map, List.map_map]
  exact mapM_map_of_inverse inverse texts

end Json.Document

end BearerGate
