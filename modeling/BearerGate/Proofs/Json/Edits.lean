import BearerGate.Proofs.Json.Record
import Mathlib.Data.List.Nodup

/-!
# Records with one part changed

A record in which one part is written differently, or is put in or left out (`Document.Puts`), has
that part as it is written now, and every other part as before.
-/

namespace BearerGate.Json.Document

/-- A member, or none. -/
def slot (key : StringContent) (value : Option Document) : List (StringContent × Document) :=
  value.toList.map fun value => (key, value)

/-- The second record is the first with the part under `name` given as `new` instead of `old`, where
`none` stands for a part that is left out. In an array only the last part can be left out. -/
inductive Puts (names : List String) (name : String) (old new : Option Document) :
    Document → Document → Prop
  | named {key : StringContent} (decoded : key.text? = some name)
    {before after : List (StringContent × Document)}
    (once : ∀ member ∈ before ++ after, member.1.text? ≠ some name) :
    Puts names name old new (.object (before ++ slot key old ++ after))
      (.object (before ++ slot key new ++ after))
  | inOrder {front back : List Document} (place : names[front.length]? = some name)
    (last : old = none ∨ new = none → back = []) :
    Puts names name old new (.array (front ++ old.toList ++ back))
      (.array (front ++ new.toList ++ back))

theorem Puts.ne_null {names : List String} {name : String} {old new : Option Document}
    {document other : Document} (puts : Puts names name old new document other) :
    document ≠ .null ∧ other ≠ .null := by
  cases puts with
  | named => exact ⟨nofun, nofun⟩
  | inOrder => exact ⟨nofun, nofun⟩

/-! ## Members -/

/-- The members that a record knows, with their names. -/
def knownMembers (names : List String) (members : List (StringContent × Document)) :
    List (String × Document) :=
  (decodedMembers members).filter fun member => names.contains member.1

theorem knownMembers_append (names : List String) (front back : List (StringContent × Document)) :
    knownMembers names (front ++ back) = knownMembers names front ++ knownMembers names back := by
  unfold knownMembers decodedMembers
  rw [List.filterMap_append, List.filter_append]

theorem knownMembers_slot {names : List String} {name : String} (known : name ∈ names)
    {key : StringContent} (decoded : key.text? = some name) (value : Option Document) :
    knownMembers names (slot key value) = value.toList.map fun value => (name, value) := by
  cases value with
  | none => rfl
  | some value =>
    have one : decodedMembers [(key, value)] = [(name, value)] := by
      unfold decodedMembers
      rw [List.filterMap_cons_some (by rw [decoded]; rfl)]
      rfl
    change (decodedMembers [(key, value)]).filter _ = _
    rw [one]
    exact List.filter_cons_of_pos (List.contains_iff_mem.mpr known)

theorem ne_of_mem_knownMembers {names : List String} {name : String}
    {members : List (StringContent × Document)}
    (others : ∀ member ∈ members, member.1.text? ≠ some name) {part : String × Document}
    (found : part ∈ knownMembers names members) : part.1 ≠ name := by
  rintro rfl
  obtain ⟨key, decoded, member⟩ := mem_decodedMembers.mp (List.mem_filter.mp found).1
  exact others _ member decoded

theorem lookup_knownMembers_eq_none {names : List String} {name : String}
    {members : List (StringContent × Document)}
    (others : ∀ member ∈ members, member.1.text? ≠ some name) :
    (knownMembers names members).lookup name = none := by
  rw [List.lookup_eq_none_iff]
  intro part found
  have apart := ne_of_mem_knownMembers others found
  simpa using apart.symm

section

variable {names : List String} {name : String} {key : StringContent}
  {before after : List (StringContent × Document)}
  (known : name ∈ names) (decoded : key.text? = some name)
  (once : ∀ member ∈ before ++ after, member.1.text? ≠ some name)
include known decoded once

theorem lookup_knownMembers_slot (value : Option Document) (other : String) :
    (knownMembers names (before ++ slot key value ++ after)).lookup other =
      if other = name then value
      else ((knownMembers names before).lookup other).or
        ((knownMembers names after).lookup other) := by
  rw [knownMembers_append, knownMembers_append, knownMembers_slot known decoded,
    List.lookup_append, List.lookup_append, Dict.lookup_map_toList]
  split
  · next same =>
    subst same
    rw [lookup_knownMembers_eq_none fun member found => once member (List.mem_append_left _ found),
      lookup_knownMembers_eq_none fun member found => once member (List.mem_append_right _ found),
      Option.none_or, Option.or_none]
  · rw [Option.or_none]

/-- Whether members give a record does not depend on a part that is given at most once. -/
theorem givesRecord_slot {old new : Option Document}
    (gives : GivesRecord names (before ++ slot key old ++ after)) :
    GivesRecord names (before ++ slot key new ++ after) := by
  have listed (value : Option Document) :
      (knownMembers names (before ++ slot key value ++ after)).map (·.1) =
        (knownMembers names before).map (·.1) ++ (value.toList.map fun _ => name) ++
          (knownMembers names after).map (·.1) := by
    rw [knownMembers_append, knownMembers_append, knownMembers_slot known decoded,
      List.map_append, List.map_append, List.map_map]
    rfl
  constructor
  · intro member found
    rw [List.mem_append, List.mem_append] at found
    rcases found with (earlier | here) | later
    · exact gives.named member (List.mem_append_left _ (List.mem_append_left _ earlier))
    · obtain ⟨value, -, rfl⟩ := List.mem_map.mp here
      rw [decoded]
      rfl
    · exact gives.named member (List.mem_append_right _ later)
  · have absent : name ∉ (knownMembers names before).map (·.1) ++
        (knownMembers names after).map (·.1) := by
      rw [← List.map_append, ← knownMembers_append]
      intro found
      obtain ⟨part, among, same⟩ := List.mem_map.mp found
      exact ne_of_mem_knownMembers once among same
    have others : ((knownMembers names before).map (·.1) ++
        (knownMembers names after).map (·.1)).Nodup := by
      have given : ((knownMembers names (before ++ slot key old ++ after)).map (·.1)).Nodup :=
        gives.once
      rw [listed, List.append_assoc] at given
      exact given.sublist ((List.Sublist.refl _).append (List.sublist_append_right _ _))
    change ((knownMembers names (before ++ slot key new ++ after)).map (·.1)).Nodup
    rw [listed]
    cases new with
    | none => rwa [Option.toList_none, List.map_nil, List.append_nil]
    | some value =>
      rw [Option.toList_some, List.map_cons, List.map_nil, List.append_assoc,
        List.singleton_append, List.nodup_middle, List.nodup_cons]
      exact ⟨absent, others⟩

end

/-! ## Items -/

theorem lookup_zip {names : List String} (distinct : names.Nodup) {i : Nat} {name : String}
    (place : names[i]? = some name) (items : List Document) :
    (names.zip items).lookup name = items[i]? := by
  rw [Option.ext_iff]
  intro value
  rw [lookup_zip_eq_some_iff distinct]
  constructor
  · rintro ⟨j, there, item⟩
    have bound : i < names.length := (List.getElem?_eq_some_iff.mp place).1
    obtain rfl := (List.getElem?_inj bound distinct).mp (place.trans there.symm)
    exact item
  · intro item
    exact ⟨i, place, item⟩

theorem getElem?_append_toList {front back : List Document} {value : Option Document}
    (last : value = none → back = []) (i : Nat) :
    (front ++ value.toList ++ back)[i]? =
      if i < front.length then front[i]?
      else if i = front.length then value
      else back[i - front.length - 1]? := by
  rw [List.append_assoc, List.getElem?_append]
  split
  · rfl
  · next notBefore =>
    cases value with
    | none =>
      rw [last rfl]
      simp
    | some value =>
      rw [Option.toList_some, List.singleton_append, List.getElem?_cons]
      split
      · next here => rw [if_pos (by omega)]
      · next behind => rw [if_neg (by omega)]

/-! ## The record -/

/-- A record with one part changed has that part as it is now and the others as before. -/
theorem Puts.exists_parts {names : List String} (distinct : names.Nodup) {name : String}
    (known : name ∈ names) {old new : Option Document} {document other : Document}
    (puts : Puts names name old new document other) {parts : List (String × Document)}
    (read : document.record? names = some parts) :
    ∃ parts', other.record? names = some parts' ∧ parts.lookup name = old ∧
      parts'.lookup name = new ∧
      ∀ key ∈ names, key ≠ name → parts'.lookup key = parts.lookup key := by
  cases puts with
  | named decoded once =>
    obtain ⟨gives, rfl⟩ := record?_object.mp read
    refine ⟨_, record?_object.mpr ⟨givesRecord_slot known decoded once gives, rfl⟩, ?_, ?_, ?_⟩
    · exact (lookup_knownMembers_slot known decoded once old name).trans (if_pos rfl)
    · exact (lookup_knownMembers_slot known decoded once new name).trans (if_pos rfl)
    · intro key _ apart
      exact ((lookup_knownMembers_slot known decoded once new key).trans (if_neg apart)).trans
        ((lookup_knownMembers_slot known decoded once old key).trans (if_neg apart)).symm
  | @inOrder front back place last =>
    change (if _ then some _ else none) = some parts at read
    rw [Option.ite_none_right_eq_some, Option.some_inj] at read
    obtain ⟨short, rfl⟩ := read
    have room : front.length < names.length := (List.getElem?_eq_some_iff.mp place).1
    have fits : (front ++ new.toList ++ back).length ≤ names.length := by
      cases old with
      | none =>
        rw [last (.inl rfl)]
        cases new with
        | none => simpa using Nat.le_of_lt room
        | some value =>
          rw [List.append_nil, List.length_append]
          exact room
      | some old =>
        cases new with
        | none =>
          rw [last (.inr rfl)]
          simpa using Nat.le_of_lt room
        | some value => simpa using short
    have old_last (missing : old = none) : back = [] := last (.inl missing)
    have new_last (missing : new = none) : back = [] := last (.inr missing)
    refine ⟨_, if_pos fits, ?_, ?_, ?_⟩
    · rw [lookup_zip distinct place, getElem?_append_toList old_last,
        if_neg (Nat.lt_irrefl _), if_pos rfl]
    · rw [lookup_zip distinct place, getElem?_append_toList new_last,
        if_neg (Nat.lt_irrefl _), if_pos rfl]
    · intro key among apart
      obtain ⟨i, here⟩ := List.mem_iff_getElem?.mp among
      have elsewhere : i ≠ front.length := by
        rintro rfl
        exact apart (Option.some.inj (here.symm.trans place))
      rw [lookup_zip distinct here, lookup_zip distinct here, getElem?_append_toList new_last,
        getElem?_append_toList old_last, if_neg elsewhere, if_neg elsewhere]

end BearerGate.Json.Document
