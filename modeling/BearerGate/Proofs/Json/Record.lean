import BearerGate.Json.Document
import BearerGate.Proofs.Dict

/-!
# Parts of records

What a record gives for each of its names: the member of that name if it is written as an object,
and the item in its place if it is written as an array (`Document.Part`). An object gives a record
if its names can be decoded and none of the known ones is repeated (`record?_object`), so nothing
hangs on the values of the members, or on the order in which they stand.
-/

namespace BearerGate

/-- A list can be read part by part if every part can be read. -/
theorem mapM_option {α β : Type} (read : α → Option β) (items : List α) :
    items.mapM read =
      if ∀ item ∈ items, (read item).isSome = true then some (items.filterMap read) else none := by
  induction items with
  | nil => rfl
  | cons item items ih =>
    rw [List.mapM_cons, ih]
    cases here : read item with
    | none => simp [here]
    | some value =>
      by_cases rest : ∀ item ∈ items, (read item).isSome = true
      · have all : ∀ other ∈ item :: items, (read other).isSome = true :=
          List.forall_mem_cons.mpr ⟨by rw [here]; rfl, rest⟩
        rw [if_pos rest, if_pos all, List.filterMap_cons_some here]
        rfl
      · have some_not : ¬ ∀ other ∈ item :: items, (read other).isSome = true :=
          fun all => rest (List.forall_mem_cons.mp all).2
        rw [if_neg rest, if_neg some_not]
        rfl

namespace Json.Document

/-! ## Records of objects -/

/-- The members of an object that have decoded names. -/
def decodedMembers (members : List (StringContent × Document)) : List (String × Document) :=
  members.filterMap fun member => member.1.text?.map fun name => (name, member.2)

theorem decodedMembers_append_cons {name : StringContent} {decoded : String}
    (named : name.text? = some decoded) (before after : List (StringContent × Document))
    (value : Document) :
    decodedMembers (before ++ (name, value) :: after) =
      decodedMembers before ++ (decoded, value) :: decodedMembers after := by
  unfold decodedMembers
  rw [List.filterMap_append, List.filterMap_cons_some]
  rw [named]
  rfl

/-- An object that gives a record: all names decode, and none of the known ones is repeated. -/
structure GivesRecord (names : List String) (members : List (StringContent × Document)) : Prop where
  named : ∀ member ∈ members, member.1.text?.isSome = true
  once : (((decodedMembers members).filter fun member => names.contains member.1).map (·.1)).Nodup

theorem record?_object {names : List String} {members : List (StringContent × Document)}
    {parts : List (String × Document)} :
    (object members).record? names = some parts ↔ GivesRecord names members ∧
      parts = (decodedMembers members).filter fun member => names.contains member.1 := by
  have named : ∀ member : StringContent × Document,
      (member.1.text?.map fun name => (name, member.2)).isSome = member.1.text?.isSome :=
    fun member => Option.isSome_map
  have read : (object members).members? =
      if ∀ member ∈ members, member.1.text?.isSome = true then some (decodedMembers members)
      else none := by
    change members.mapM _ = _
    rw [mapM_option]
    simp only [named]
    rfl
  change ((object members).members?.bind fun members => _) = some parts ↔ _
  rw [read]
  constructor
  · intro found
    split at found
    next all =>
      dsimp only [Option.bind] at found
      split at found
      next once =>
        cases found
        exact ⟨⟨all, once⟩, rfl⟩
      next => cases found
    next => cases found
  · rintro ⟨⟨all, once⟩, rfl⟩
    rw [if_pos all]
    exact if_pos once

/-- A member that is there is the part of its name, if the name is not repeated. -/
theorem lookup_of_mem {parts : List (String × Document)} (once : (parts.map (·.1)).Nodup)
    {name : String} {value : Document} (member : (name, value) ∈ parts) :
    parts.lookup name = some value := by
  obtain ⟨front, back, rfl⟩ := List.append_of_mem member
  rw [List.lookup_eq_some_iff]
  refine ⟨front, back, rfl, fun other before => ?_⟩
  rw [List.map_append, List.nodup_append] at once
  have apart : other.1 ≠ name :=
    once.2.2 other.1 (List.mem_map_of_mem before) name List.mem_cons_self
  simpa using apart.symm

theorem part?_isSome_iff {α : Type} {parts : List (String × Document)}
    (once : (parts.map (·.1)).Nodup) {name : String} {fallback : α} {read : Document → Option α} :
    (part? parts name fallback read).isSome = true ↔
      ∀ value, (name, value) ∈ parts → (read value).isSome = true := by
  unfold part?
  constructor
  · intro found value member
    rw [lookup_of_mem once member] at found
    exact found
  · intro all
    cases looked : parts.lookup name with
    | none => rfl
    | some value =>
      obtain ⟨front, back, rfl, -⟩ := List.lookup_eq_some_iff.mp looked
      exact all value (List.mem_append_right _ List.mem_cons_self)

/-- A member is the part of its name, whatever comes behind it. -/
theorem part?_named {α : Type} {before : List (String × Document)} {name : String}
    (first : before.lookup name = none) (after : List (String × Document)) (value : Document)
    (fallback : α) (read : Document → Option α) :
    part? (before ++ (name, value) :: after) name fallback read = read value := by
  unfold part?
  rw [List.lookup_append, first, List.lookup_cons_self]
  rfl

/-- A member is of no account for the parts of other names. -/
theorem part?_aside {α : Type} {name other : String} (apart : name ≠ other)
    (before after : List (String × Document)) (value : Document) (fallback : α)
    (read : Document → Option α) :
    part? (before ++ (other, value) :: after) name fallback read =
      part? (before ++ after) name fallback read := by
  have passed : (name == other) = false := beq_false_of_ne apart
  unfold part?
  rw [List.lookup_append, List.lookup_append, List.lookup_cons, passed]

theorem list?_array {α : Type} (read : Document → Option α) (items : List Document) :
    (array items).list? read = items.mapM read :=
  rfl

/-! ## The part of a name -/

/-- The part of a record that stands under a name, in a record whose names come in the given order
where they are not written. -/
inductive Part (names : List String) (name : String) : Document → Document → Prop
  | named {key : StringContent} (decoded : key.text? = some name)
    (before after : List (StringContent × Document)) (value : Document) :
    Part names name (.object (before ++ (key, value) :: after)) value
  | inOrder {i : Nat} (place : names[i]? = some name) {items : List Document} {value : Document}
    (item : items[i]? = some value) : Part names name (.array items) value

theorem mem_decodedMembers {members : List (StringContent × Document)} {name : String}
    {value : Document} : (name, value) ∈ decodedMembers members ↔
      ∃ key, key.text? = some name ∧ (key, value) ∈ members := by
  unfold decodedMembers
  rw [List.mem_filterMap]
  constructor
  · rintro ⟨⟨key, value'⟩, member, read⟩
    obtain ⟨name', decoded, same⟩ := Option.map_eq_some_iff.mp read
    cases same
    exact ⟨key, decoded, member⟩
  · rintro ⟨key, decoded, member⟩
    exact ⟨(key, value), member, by rw [decoded]; rfl⟩

theorem lookup_eq_some_iff_of_nodup {parts : List (String × Document)}
    (once : (parts.map (·.1)).Nodup) {name : String} {value : Document} :
    parts.lookup name = some value ↔ (name, value) ∈ parts :=
  ⟨Dict.mem_of_lookup, lookup_of_mem once⟩

theorem map_fst_zip_sublist : ∀ (names : List String) (items : List Document),
    ((names.zip items).map (·.1)).Sublist names
  | [], _ => by simp
  | name :: names, [] => by simp
  | name :: names, item :: items => (map_fst_zip_sublist names items).cons_cons name

/-- Items that are given in order have the names that stand in their places. -/
theorem lookup_zip_eq_some_iff {names : List String} (distinct : names.Nodup)
    {items : List Document} {name : String} {value : Document} :
    (names.zip items).lookup name = some value ↔
      ∃ i : Nat, names[i]? = some name ∧ items[i]? = some value := by
  rw [lookup_eq_some_iff_of_nodup (distinct.sublist (map_fst_zip_sublist names items)),
    List.mem_iff_getElem?]
  exact exists_congr fun _ => List.getElem?_zip_eq_some

/-- What a record has under a name is its part of that name. -/
theorem lookup_record?_eq_some_iff {names : List String} (distinct : names.Nodup)
    {document : Document} {parts : List (String × Document)}
    (read : document.record? names = some parts) {name : String} (known : name ∈ names)
    {value : Document} : parts.lookup name = some value ↔ Part names name document value := by
  cases document with
  | array items =>
    change (if _ then some (names.zip items) else none) = some parts at read
    split at read
    · cases read
      rw [lookup_zip_eq_some_iff distinct]
      constructor
      · rintro ⟨i, place, item⟩
        exact .inOrder place item
      · rintro ⟨⟩
        next i place item => exact ⟨i, place, item⟩
    · cases read
  | object members =>
    obtain ⟨gives, rfl⟩ := record?_object.mp read
    rw [lookup_eq_some_iff_of_nodup gives.once, List.mem_filter, List.contains_iff_mem,
      mem_decodedMembers]
    constructor
    · rintro ⟨⟨key, decoded, member⟩, -⟩
      obtain ⟨before, after, rfl⟩ := List.append_of_mem member
      exact .named decoded before after value
    · rintro ⟨⟩
      next key decoded before after =>
        exact ⟨⟨key, decoded, List.mem_append_right _ List.mem_cons_self⟩, known⟩
  | _ => cases read

/-! ## Members of an object -/

/-- The last member of a name in an object. -/
inductive LastMember (name : String) : Document → Document → Prop
  | last {key : StringContent} (decoded : key.text? = some name)
    (before after : List (StringContent × Document)) (value : Document)
    (others : ∀ member ∈ after, member.1.text? ≠ some name) :
    LastMember name (.object (before ++ (key, value) :: after)) value

theorem members?_object_eq_some_iff {members : List (StringContent × Document)}
    {decoded : List (String × Document)} : (object members).members? = some decoded ↔
      (∀ member ∈ members, member.1.text?.isSome = true) ∧ decoded = decodedMembers members := by
  change members.mapM _ = _ ↔ _
  rw [mapM_option, Option.ite_none_right_eq_some, Option.some_inj]
  simp only [Option.isSome_map, eq_comm (a := decoded)]
  rfl

theorem lookup_reverse_decodedMembers {members : List (StringContent × Document)} {name : String}
    {value : Document} : (decodedMembers members).reverse.lookup name = some value ↔
      LastMember name (object members) value := by
  rw [List.lookup_eq_some_iff]
  constructor
  · rintro ⟨later, earlier, split, others⟩
    rw [List.reverse_eq_iff, List.reverse_append, List.reverse_cons, List.append_assoc,
      List.singleton_append] at split
    obtain ⟨before, rest, rfl, -, found⟩ := List.filterMap_eq_append_iff.mp split
    obtain ⟨skipped, ⟨key, value'⟩, after, rfl, -, read, behind⟩ :=
      List.filterMap_eq_cons_iff.mp found
    obtain ⟨name', decoded, same⟩ := Option.map_eq_some_iff.mp read
    cases same
    rw [← List.append_assoc]
    refine .last decoded _ after _ fun member present named => ?_
    have listed : (name, member.2) ∈ later.reverse := by
      rw [← behind]
      exact mem_decodedMembers.mpr ⟨member.1, named, present⟩
    exact bne_iff_ne.mp (others _ (List.mem_reverse.mp listed)) rfl
  · intro last
    cases last with
    | last decoded before after value others =>
      rw [decodedMembers_append_cons decoded]
      refine ⟨(decodedMembers after).reverse, (decodedMembers before).reverse, by simp, ?_⟩
      intro member present
      obtain ⟨key, named, listed⟩ := mem_decodedMembers.mp (List.mem_reverse.mp present)
      refine bne_iff_ne.mpr fun same => others _ listed ?_
      rw [named, ← same]

/-- The last member of a name is the last one that is left without the members of other names. -/
theorem lastMember_iff_filter {members : List (StringContent × Document)} {name : String}
    {value : Document} : LastMember name (object members) value ↔
      ∃ before key, (members.filter fun member => member.1.text? = some name) =
        before ++ [(key, value)] := by
  constructor
  · intro last
    cases last with
    | @last key decoded before after value others =>
      have rest : (after.filter fun member => member.1.text? = some name) = [] :=
        List.filter_eq_nil_iff.mpr fun member present => by simpa using others member present
      refine ⟨before.filter fun member => member.1.text? = some name, key, ?_⟩
      rw [List.filter_append, List.filter_cons_of_pos (by simpa using decoded), rest]
  · rintro ⟨front, key, split⟩
    obtain ⟨before, rest, rfl, -, found⟩ := List.filter_eq_append_iff.mp split
    obtain ⟨skipped, after, rfl, -, decoded, behind⟩ := List.filter_eq_cons_iff.mp found
    rw [← List.append_assoc]
    refine .last (by simpa using decoded) _ after value fun member present => ?_
    simpa using List.filter_eq_nil_iff.mp behind member present

/-! ## Reading a part -/

theorem text?_eq_some_iff {document : Document} {text : String} :
    document.text? = some text ↔ document = .string (.text text) := by
  constructor
  · intro read
    cases document with
    | string content =>
      cases content with
      | text value =>
        cases read
        rfl
      | unreadable atEnd => cases read
    | _ => cases read
  · rintro rfl
    rfl

theorem part?_congr {α : Type} {parts parts' : List (String × Document)} {name : String}
    (same : parts'.lookup name = parts.lookup name) (fallback : α) (read : Document → Option α) :
    part? parts' name fallback read = part? parts name fallback read := by
  unfold part?
  rw [same]

theorem part?_eq_some_iff {α : Type} {parts : List (String × Document)} {name : String}
    {fallback result : α} {read : Document → Option α} :
    part? parts name fallback read = some result ↔
      (∃ value, parts.lookup name = some value ∧ read value = some result) ∨
        (parts.lookup name = none ∧ result = fallback) := by
  unfold part?
  cases parts.lookup name with
  | none => simp [eq_comm]
  | some value => simp

theorem orNull?_of_ne_null {α : Type} {read : Document → Option α} {document : Document}
    (given : document ≠ .null) : orNull? read document = (read document).map some := by
  unfold orNull?
  split
  · exact (given rfl).elim
  · rfl

theorem orDefault?_eq_some_iff {α : Type} {fallback result : α} {read : Document → Option α}
    {document : Document} : orDefault? fallback read document = some result ↔
      (document = .null ∧ result = fallback) ∨
        (document ≠ .null ∧ read document = some result) := by
  unfold orDefault?
  by_cases null : document = .null
  · simp [null, orNull?, eq_comm]
  · have kept : ((fun value => value.getD fallback) ∘ some : α → α) = id := rfl
    rw [orNull?_of_ne_null null, Option.map_map, kept, Option.map_id, id_eq]
    simp [null]

/-- A part that may be null is read where it is given, and where it is not, or is null, the default
stands for it. -/
theorem part?_orDefault?_eq_some_iff {α : Type} {parts : List (String × Document)} {name : String}
    {fallback result : α} {read : Document → Option α} :
    part? parts name fallback (orDefault? fallback read) = some result ↔
      (∃ value, parts.lookup name = some value ∧ value ≠ .null ∧ read value = some result) ∨
        ((∀ value, parts.lookup name = some value → value = .null) ∧ result = fallback) := by
  rw [part?_eq_some_iff]
  cases parts.lookup name with
  | none => simp
  | some value =>
    simp only [Option.some_inj, exists_eq_left', forall_eq', reduceCtorEq, false_and, or_false]
    exact orDefault?_eq_some_iff.trans or_comm

end Json.Document

end BearerGate
