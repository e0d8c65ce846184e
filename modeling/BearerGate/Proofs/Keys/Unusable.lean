import BearerGate.Keys.KeySet
import BearerGate.Proofs.Json.Record
import BearerGate.Proofs.Json.RoundTrip

/-!
# One more key in a document

A key set document is read in two steps: first every element of its list is taken apart into
strings, then the strings are made into a key. A key that fails the second step is left out, and
the set is what it would be without it. An element that fails the first step leaves no set at all,
however good the other keys are; such an element need not be malformed JSON, a member that is null
is enough.
-/

namespace BearerGate

open Json (Document StringContent)

namespace PublishedKey

open Json.Document (GivesRecord decodedMembers)

/-! ## Elements that can be taken apart -/

/-- The members that a published key is read from. -/
def memberNames : List String := ["kty", "alg", "kid", "n", "e"]

/-- An object that a published key can be read from: the known members that are there are
strings. -/
structure Legible (members : List (StringContent × Document)) : Prop where
  record : GivesRecord memberNames members
  strings : ∀ name ∈ memberNames, ∀ value, (name, value) ∈ decodedMembers members →
    value.text?.isSome = true

/-- A published key can be read from an object just if each of its members can. -/
theorem ofDocument?_isSome_of_parts {members : List (StringContent × Document)}
    {parts : List (String × Document)}
    (read : (Document.object members).record? memberNames = some parts) :
    (ofDocument? (.object members)).isSome = true ↔
      ∀ name ∈ memberNames, (Document.part? parts name "" Document.text?).isSome = true := by
  have listed : (∀ name ∈ memberNames, (Document.part? parts name "" Document.text?).isSome =
      true) ↔ (Document.part? parts "kty" "" Document.text?).isSome = true ∧
        (Document.part? parts "alg" "" Document.text?).isSome = true ∧
        (Document.part? parts "kid" "" Document.text?).isSome = true ∧
        (Document.part? parts "n" "" Document.text?).isSome = true ∧
        (Document.part? parts "e" "" Document.text?).isSome = true := by
    simp [memberNames]
  have read' : (Document.object members).record? ["kty", "alg", "kid", "n", "e"] = some parts :=
    read
  rw [listed]
  unfold ofDocument?
  simp only [read', Option.bind_eq_bind, Option.bind_some]
  generalize Document.part? parts "kty" "" Document.text? = type
  generalize Document.part? parts "alg" "" Document.text? = algorithm
  generalize Document.part? parts "kid" "" Document.text? = id
  generalize Document.part? parts "n" "" Document.text? = modulus
  generalize Document.part? parts "e" "" Document.text? = exponent
  cases type <;> cases algorithm <;> cases id <;> cases modulus <;> cases exponent <;> simp

theorem ofDocument?_isSome_iff {members : List (StringContent × Document)} :
    (ofDocument? (.object members)).isSome = true ↔ Legible members := by
  cases read : (Document.object members).record? memberNames with
  | none =>
    constructor
    · intro found
      have nothing : ofDocument? (.object members) = none := by
        unfold ofDocument?
        exact congrArg (Option.bind · _) read
      rw [nothing] at found
      cases found
    · intro legible
      have found := Json.Document.record?_object.mpr ⟨legible.record, rfl⟩
      cases read.symm.trans found
  | some parts =>
    rw [ofDocument?_isSome_of_parts read]
    obtain ⟨gives, known⟩ := Json.Document.record?_object.mp read
    have once : (parts.map (·.1)).Nodup := by
      rw [known]
      exact gives.once
    have strings : ∀ name ∈ memberNames,
        ((Document.part? parts name "" Document.text?).isSome = true ↔
          ∀ value, (name, value) ∈ decodedMembers members → value.text?.isSome = true) := by
      intro name named
      rw [Json.Document.part?_isSome_iff once]
      refine forall_congr' fun value => ?_
      rw [known, List.mem_filter, List.contains_iff_mem]
      exact ⟨fun all member => all ⟨member, named⟩, fun all member => all member.1⟩
    constructor
    · intro all
      exact ⟨gives, fun name named => (strings name named).mp (all name named)⟩
    · intro legible name named
      exact (strings name named).mpr (legible.strings name named)

end PublishedKey

/-! ## The document with the element -/

namespace KeySet

/-- The members that a key set is read from. -/
def memberNames : List String := ["keys", "keysMeta", "maxTokenTTL"]

/-- The second document is the first with one more element in its list of keys. The list is the
member of that name, or comes first where the members are given in order. -/
inductive Enlarges (extra : Document) : Document → Document → Prop
  | named {name : StringContent} (keys : name.text? = some "keys")
    (before after : List (StringContent × Document)) (front back : List Document) :
    Enlarges extra (.object (before ++ (name, .array (front ++ back)) :: after))
      (.object (before ++ (name, .array (front ++ extra :: back)) :: after))
  | inOrder (front back rest : List Document) :
    Enlarges extra (.array (.array (front ++ back) :: rest))
      (.array (.array (front ++ extra :: back) :: rest))

/-- The parts of a record in which one known member is named. -/
theorem filter_decodedMembers_named {name : StringContent} (keys : name.text? = some "keys")
    (before after : List (StringContent × Document)) (value : Document) :
    ((Document.decodedMembers (before ++ (name, value) :: after)).filter fun member =>
        memberNames.contains member.1) =
      ((Document.decodedMembers before).filter fun member => memberNames.contains member.1) ++
        ("keys", value) ::
          (Document.decodedMembers after).filter fun member => memberNames.contains member.1 := by
  rw [Document.decodedMembers_append_cons keys, List.filter_append]
  rfl

/-- Records do not look at the values of their members. -/
theorem record?_enlarged {extra document larger : Document}
    (enlarges : Enlarges extra document larger) {parts : List (String × Document)}
    (read : document.record? memberNames = some parts) :
    ∃ before front back after, parts = before ++ ("keys", .array (front ++ back)) :: after ∧
      before.lookup "keys" = none ∧
      larger.record? memberNames =
        some (before ++ ("keys", .array (front ++ extra :: back)) :: after) := by
  cases enlarges with
  | inOrder front back rest =>
    refine ⟨[], front, back, ["keysMeta", "maxTokenTTL"].zip rest, ?_, rfl, ?_⟩
    · change (if _ then some _ else none) = some parts at read
      split at read
      · cases read
        rfl
      · cases read
    · change (if _ then some _ else none) = some parts at read
      split at read
      next short => exact if_pos short
      next => cases read
  | @named name keys before after front back =>
    obtain ⟨gives, rfl⟩ := Document.record?_object.mp read
    have once := gives.once
    rw [filter_decodedMembers_named keys, List.map_append, List.map_cons] at once
    refine ⟨_, front, back, _, filter_decodedMembers_named keys before after _, ?_, ?_⟩
    · rw [List.lookup_eq_none_iff]
      intro member known
      have apart : member.1 ≠ "keys" := (List.nodup_append.mp once).2.2 member.1
        (List.mem_map_of_mem known) "keys" List.mem_cons_self
      simpa using apart.symm
    · -- Whether an object gives a record depends on the names, which are the same.
      rw [← filter_decodedMembers_named keys]
      refine Document.record?_object.mpr ⟨⟨?_, ?_⟩, rfl⟩
      · intro member present
        rw [List.mem_append, List.mem_cons] at present
        obtain earlier | rfl | later := present
        · exact gives.named member (List.mem_append_left _ earlier)
        · exact gives.named (name, .array (front ++ back))
            (List.mem_append_right _ List.mem_cons_self)
        · exact gives.named member (List.mem_append_right _ (List.mem_cons_of_mem _ later))
      · rw [filter_decodedMembers_named keys, List.map_append, List.map_cons]
        exact once

/-- An element that makes no key has no effect on the keys if it can be taken apart. -/
theorem list?_enlarged {extra : Document}
    (unusable : (PublishedKey.ofDocument? extra).bind PublishedKey.usable? = none)
    {front back : List Document} {published : List PublishedKey}
    (read : (Document.array (front ++ back)).list? PublishedKey.ofDocument? = some published) :
    ((Document.array (front ++ extra :: back)).list? PublishedKey.ofDocument?).map
        (·.filterMap PublishedKey.usable?) =
      (PublishedKey.ofDocument? extra).map fun _ => published.filterMap PublishedKey.usable? := by
  rw [Json.Document.list?_array, mapM_option] at read ⊢
  split at read
  next all =>
    cases read
    cases taken : PublishedKey.ofDocument? extra with
    | none =>
      have not_all : ¬ ∀ item ∈ front ++ extra :: back,
          (PublishedKey.ofDocument? item).isSome = true := by
        intro every
        have readable := every extra (List.mem_append_right _ List.mem_cons_self)
        rw [taken] at readable
        cases readable
      rw [if_neg not_all]
      rfl
    | some key =>
      have every : ∀ item ∈ front ++ extra :: back,
          (PublishedKey.ofDocument? item).isSome = true := by
        intro item present
        rw [List.mem_append, List.mem_cons] at present
        obtain earlier | rfl | later := present
        · exact all item (List.mem_append_left _ earlier)
        · rw [taken]
          rfl
        · exact all item (List.mem_append_right _ later)
      have skipped : key.usable? = none := by
        rw [taken] at unusable
        exact unusable
      rw [if_pos every, List.filterMap_append, List.filterMap_cons_some taken,
        List.filterMap_append]
      change some (List.filterMap _ (_ ++ key :: _)) = some _
      rw [List.filterMap_append, List.filterMap_cons_none skipped, ← List.filterMap_append]
  next => cases read

theorem ofDocument?_enlarged {extra document larger : Document}
    (enlarges : Enlarges extra document larger)
    (unusable : (PublishedKey.ofDocument? extra).bind PublishedKey.usable? = none)
    {keys : KeySet} (read : ofDocument? document = some keys) :
    ofDocument? larger = (PublishedKey.ofDocument? extra).map fun _ => keys := by
  obtain ⟨parts, record, read⟩ := Option.bind_eq_some_iff.mp read
  obtain ⟨published, listed, read⟩ := Option.bind_eq_some_iff.mp read
  obtain ⟨times, timed, read⟩ := Option.bind_eq_some_iff.mp read
  obtain ⟨ttl, limited, read⟩ := Option.bind_eq_some_iff.mp read
  cases read
  obtain ⟨before, front, back, after, rfl, first, record'⟩ := record?_enlarged enlarges record
  have times_apart : "keysMeta" ≠ "keys" := by decide
  have ttl_apart : "maxTokenTTL" ≠ "keys" := by decide
  rw [Document.part?_named first] at listed
  rw [Document.part?_aside times_apart] at timed
  rw [Document.part?_aside ttl_apart] at limited
  have relisted := list?_enlarged unusable listed
  unfold ofDocument?
  refine (congrArg (Option.bind · _) record').trans ?_
  simp only [Option.bind_eq_bind, Option.bind_some, Document.part?_named first,
    Document.part?_aside times_apart, Document.part?_aside ttl_apart, timed, limited]
  cases taken : PublishedKey.ofDocument? extra with
  | none =>
    rw [taken, Option.map_none, Option.map_eq_none_iff] at relisted
    rw [relisted]
    rfl
  | some key =>
    rw [taken, Option.map_some, Option.map_eq_some_iff] at relisted
    obtain ⟨republished, relisted, same⟩ := relisted
    rw [relisted]
    exact congrArg (fun keys => some (KeySet.mk keys times ttl)) same

/-- A document that is enlarged by an object that is no usable key gives the same set if the
members of the object can be read, and no set if they cannot. -/
theorem ofBytes_enlarged {body enlarged : List UInt8} {document larger : Document}
    {members : List (StringContent × Document)} (parsed : Document.ofBytes? body = some document)
    (reparsed : Document.ofBytes? enlarged = some larger)
    (enlarges : Enlarges (.object members) document larger)
    (unusable : (PublishedKey.ofDocument? (.object members)).bind PublishedKey.usable? = none)
    {keys : KeySet} (accepted : ofBytes body = .ok keys) :
    (PublishedKey.Legible members → ofBytes enlarged = .ok keys) ∧
      (¬ PublishedKey.Legible members →
        ofBytes enlarged = .error (.undecodable KeyFailure.undisclosed)) := by
  have read : ofDocument? document = some keys := by
    unfold ofBytes at accepted
    rw [parsed, Option.bind_some] at accepted
    split at accepted
    next found =>
      cases accepted
      exact found
    next => cases accepted
  have reread := ofDocument?_enlarged enlarges unusable read
  rw [← PublishedKey.ofDocument?_isSome_iff]
  unfold ofBytes
  rw [reparsed, Option.bind_some, reread]
  cases PublishedKey.ofDocument? (.object members) with
  | none => exact ⟨fun legible => (Bool.false_ne_true legible).elim, fun _ => rfl⟩
  | some key => exact ⟨fun _ => rfl, fun illegible => (illegible rfl).elim⟩

/-! ## One key and an elliptic one -/

/-- A key set document with one usable key, of the modulus 7, and what is behind it. -/
def oneKeyBody (more : String) : List UInt8 :=
  Text.Utf8.encode
    ("\x7b\"keys\":[\x7b\"kid\":\"k\",\"n\":\"Bw\",\"e\":\"Aw\"\x7d" ++ more ++ "]\x7d")

/-- The usable key in such a document. -/
def oneKeyDocument : Document :=
  .object [(.text "kid", .string (.text "k")), (.text "n", .string (.text "Bw")),
    (.text "e", .string (.text "Aw"))]

/-- Such a document as a value, with the elements behind the usable key. -/
def oneKeyValue (more : List Json) : Json :=
  .object [("keys", .array
    (.object [("kid", .string "k"), ("n", .string "Bw"), ("e", .string "Aw")] :: more))]

theorem ofBytes?_oneKeyBody : Document.ofBytes? (oneKeyBody "") =
    some (.object [(.text "keys", .array [oneKeyDocument])]) := by
  apply Document.ofBytes?_of_text (oneKeyValue [])
  · decide +kernel
  · rfl

theorem exists_ofBytes_oneKeyBody :
    ∃ keys, ofBytes (oneKeyBody "") = .ok keys ∧ keys.ids = ["k"] := by
  have named : (ofBytes (oneKeyBody "")).toOption.map ids = some ["k"] := by decide +kernel
  cases read : ofBytes (oneKeyBody "") with
  | error failure =>
    rw [read] at named
    cases named
  | ok keys =>
    rw [read] at named
    exact ⟨keys, rfl, Option.some.inj named⟩

theorem ofBytes_enlarged_elliptic :
    ∃ keys, ofBytes (oneKeyBody "") = .ok keys ∧ keys.ids = ["k"] ∧
      ofBytes (oneKeyBody ",\x7b\"kty\":\"EC\"\x7d") = .ok keys := by
  have reparsed : Document.ofBytes? (oneKeyBody ",\x7b\"kty\":\"EC\"\x7d") =
      some (.object [(.text "keys", .array
        [oneKeyDocument, .object [(.text "kty", .string (.text "EC"))]])]) := by
    apply Document.ofBytes?_of_text (oneKeyValue [.object [("kty", .string "EC")]])
    · decide +kernel
    · rfl
  have legible : PublishedKey.Legible [(.text "kty", .string (.text "EC"))] :=
    PublishedKey.ofDocument?_isSome_iff.mp rfl
  obtain ⟨keys, accepted, named⟩ := exists_ofBytes_oneKeyBody
  exact ⟨keys, accepted, named, (ofBytes_enlarged ofBytes?_oneKeyBody reparsed
    (.named rfl [] [] [oneKeyDocument] []) rfl accepted).1 legible⟩

/-- An elliptic key whose name is null leaves no key at all. -/
theorem ofBytes_elliptic_unnamed :
    ∃ keys document larger, ofBytes (oneKeyBody "") = .ok keys ∧ keys.ids = ["k"] ∧
      Document.ofBytes? (oneKeyBody "") = some document ∧
      Document.ofBytes? (oneKeyBody ",\x7b\"kty\":\"EC\",\"kid\":null\x7d") = some larger ∧
      Enlarges (.object [(.text "kty", .string (.text "EC")), (.text "kid", .null)]) document
        larger ∧
      (PublishedKey.ofDocument? (.object [(.text "kty", .string (.text "EC")),
        (.text "kid", .null)])).bind PublishedKey.usable? = none ∧
      ofBytes (oneKeyBody ",\x7b\"kty\":\"EC\",\"kid\":null\x7d") =
        .error (.undecodable KeyFailure.undisclosed) := by
  have reparsed : Document.ofBytes? (oneKeyBody ",\x7b\"kty\":\"EC\",\"kid\":null\x7d") =
      some (.object [(.text "keys", .array [oneKeyDocument,
        .object [(.text "kty", .string (.text "EC")), (.text "kid", .null)]])]) := by
    apply Document.ofBytes?_of_text
      (oneKeyValue [.object [("kty", .string "EC"), ("kid", .null)]])
    · decide +kernel
    · rfl
  obtain ⟨keys, accepted, named⟩ := exists_ofBytes_oneKeyBody
  refine ⟨keys, _, _, accepted, named, ofBytes?_oneKeyBody, reparsed,
    .named rfl [] [] [oneKeyDocument] [], rfl, ?_⟩
  unfold ofBytes
  rw [reparsed]
  rfl

end KeySet

end BearerGate
