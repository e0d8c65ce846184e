import BearerGate.Proofs.Keys.Components
import BearerGate.Proofs.Keys.CurrentKeys
import BearerGate.Proofs.Keys.Unusable

/-!
# The keys of a document

A key set holds the usable keys of the document that it was read from, each as it is published and
in the order in which they are published. A name that is published more than once stands for the
first usable key that bears it, so neither a later key nor an unusable one ever wins.

`PublishedKey.Makes` says when a published key is usable and what it comes to, and `Kept` which keys
of a list are kept. Both are settled by the document alone.
-/

namespace BearerGate

open Json (Document)

/-! ## One published key -/

/-- A published key is usable and makes `key`: it is an RSA key or of no given type, its components
decode, and the numbers that they decode to are a key. -/
structure PublishedKey.Makes (published : PublishedKey) (key : KeyEntry) : Prop where
  type : published.type = "" ∨ published.type = "RSA"
  made : KeyEntry.ofComponents published.id published.algorithm published.modulus
    published.exponent = .ok key
  id : key.id = published.id
  algorithm : key.algorithm = published.algorithm
  modulus : KeyEntry.decodeModulus published.modulus = .ok key.key.modulus
  exponent : KeyEntry.decodeExponent published.exponent = .ok key.key.exponent

theorem PublishedKey.usable?_eq_some_iff {published : PublishedKey} {key : KeyEntry} :
    published.usable? = some key ↔ published.Makes key := by
  unfold usable?
  constructor
  · intro usable
    split at usable
    · cases usable
    · next type =>
      split at usable
      · next entry made =>
        cases usable
        obtain ⟨modulus, exponent, -, id, algorithm⟩ :=
          KeyEntry.ofEncoded_eq_ok_iff.mp (KeyEntry.ofComponents_eq_ok_iff.mp made)
        have given : published.type = "" ∨ published.type = "RSA" := by
          by_cases none : published.type = ""
          · exact .inl none
          · exact .inr (Decidable.byContradiction fun other => type ⟨none, other⟩)
        exact ⟨given, made, id, algorithm, modulus, exponent⟩
      · cases usable
  · intro makes
    have type : ¬ (published.type ≠ "" ∧ published.type ≠ "RSA") := by
      rintro ⟨given, other⟩
      exact makes.type.elim given other
    rw [if_neg type, makes.made]

/-! ## The keys of a list -/

namespace KeySet

/-- The second list has what the usable keys of the first make, in the same order. -/
inductive Kept : List PublishedKey → List KeyEntry → Prop
  | nil : Kept [] []
  | kept {published : PublishedKey} {key : KeyEntry} {rest : List PublishedKey}
    {keys : List KeyEntry} (makes : published.Makes key) (later : Kept rest keys) :
    Kept (published :: rest) (key :: keys)
  | skipped {published : PublishedKey} {rest : List PublishedKey} {keys : List KeyEntry}
    (unusable : ∀ key, ¬ published.Makes key) (later : Kept rest keys) :
    Kept (published :: rest) keys

theorem kept_filterMap (all : List PublishedKey) :
    Kept all (all.filterMap PublishedKey.usable?) := by
  induction all with
  | nil => exact .nil
  | cons published rest ih =>
    cases usable : published.usable? with
    | none =>
      rw [List.filterMap_cons_none usable]
      refine .skipped (fun key makes => ?_) ih
      rw [PublishedKey.usable?_eq_some_iff.mpr makes] at usable
      cases usable
    | some key =>
      rw [List.filterMap_cons_some usable]
      exact .kept (PublishedKey.usable?_eq_some_iff.mp usable) ih

/-- A key of the given name is made by the first usable one that is published under it. -/
def FirstMade (all : List PublishedKey) (id : String) (key : KeyEntry) : Prop :=
  ∃ earlier published later, all = earlier ++ published :: later ∧ published.id = id ∧
    published.Makes key ∧ ∀ other ∈ earlier, other.id = id → ∀ made, ¬ other.Makes made

theorem firstMade_cons_of_makes {published : PublishedKey} {rest : List PublishedKey}
    {id : String} {key first : KeyEntry} (makes : published.Makes first)
    (named : published.id = id) : FirstMade (published :: rest) id key ↔ first = key := by
  constructor
  · rintro ⟨earlier, found, later, split, -, made, none⟩
    cases earlier with
    | nil =>
      cases split
      exact Except.ok.inj (makes.made.symm.trans made.made)
    | cons other earlier =>
      cases split
      exact (none published List.mem_cons_self named first makes).elim
  · rintro rfl
    exact ⟨[], published, rest, rfl, named, makes, fun other found => by cases found⟩

/-- A published key of another name, or an unusable one, does not count. -/
theorem firstMade_cons_of_not {published : PublishedKey} {rest : List PublishedKey} {id : String}
    {key : KeyEntry} (passed : published.id = id → ∀ made, ¬ published.Makes made) :
    FirstMade (published :: rest) id key ↔ FirstMade rest id key := by
  constructor
  · rintro ⟨earlier, found, later, split, named, made, none⟩
    cases earlier with
    | nil =>
      cases split
      exact (passed named key made).elim
    | cons other earlier =>
      cases split
      exact ⟨earlier, found, later, rfl, named, made,
        fun before member => none before (List.mem_cons_of_mem _ member)⟩
  · rintro ⟨earlier, found, later, rfl, named, made, none⟩
    refine ⟨published :: earlier, found, later, rfl, named, made, ?_⟩
    rintro other (_ | ⟨_, member⟩)
    · exact passed
    · exact none other member

/-- Looking a name up finds what the first usable key of that name makes. -/
theorem Kept.find?_eq_some_iff {all : List PublishedKey} {keys : List KeyEntry}
    (kept : Kept all keys) {id : String} {key : KeyEntry} :
    keys.find? (fun key => key.id = id) = some key ↔ FirstMade all id key := by
  induction kept with
  | nil =>
    constructor
    · intro found
      cases found
    · rintro ⟨earlier, published, later, split, -⟩
      cases earlier with
      | nil => cases split
      | cons other earlier => cases split
  | @kept published first rest keys makes later ih =>
    by_cases named : published.id = id
    · rw [firstMade_cons_of_makes makes named, List.find?_cons_of_pos]
      · exact ⟨Option.some.inj, congrArg some⟩
      · exact decide_eq_true (makes.id.trans named)
    · rw [firstMade_cons_of_not fun same => (named same).elim, List.find?_cons_of_neg, ih]
      intro same
      exact named (makes.id.symm.trans (of_decide_eq_true same))
  | @skipped published rest keys unusable later ih =>
    rw [firstMade_cons_of_not fun _ => unusable, ih]

/-- Looking a name up finds nothing if no usable key bears it, and only then. -/
theorem Kept.find?_eq_none_iff {all : List PublishedKey} {keys : List KeyEntry}
    (kept : Kept all keys) {id : String} :
    keys.find? (fun key => key.id = id) = none ↔
      ∀ published ∈ all, published.id = id → ∀ key, ¬ published.Makes key := by
  induction kept with
  | nil => exact ⟨fun _ published found => (by cases found), fun _ => rfl⟩
  | @kept published first rest keys makes later ih =>
    rw [List.forall_mem_cons]
    by_cases named : published.id = id
    · rw [List.find?_cons_of_pos]
      · exact ⟨fun found => (by cases found), fun none => (none.1 named first makes).elim⟩
      · exact decide_eq_true (makes.id.trans named)
    · rw [List.find?_cons_of_neg, ih]
      · exact ⟨fun none => ⟨fun same => (named same).elim, none⟩, fun none => none.2⟩
      · intro same
        exact named (makes.id.symm.trans (of_decide_eq_true same))
  | @skipped published rest keys unusable later ih =>
    rw [List.forall_mem_cons, ih]
    exact ⟨fun none => ⟨fun _ => unusable, none⟩, fun none => none.2⟩

/-! ## Documents -/

/-- A key set document as it is published, with all of its keys. -/
structure Publication where
  keys : List PublishedKey
  publishedAt : Dict Int64
  maxTokenTtl : Option Nat

namespace Publication

/-- What a key set document publishes. -/
def ofDocument? (document : Document) : Option Publication := do
  let parts ← document.record? KeySet.memberNames
  let keys ← Document.part? parts "keys" [] (Document.list? PublishedKey.ofDocument?)
  let times ← Document.part? parts "keysMeta" .empty publicationTimes?
  let ttl ← Document.part? parts "maxTokenTTL" none (Document.orNull? Document.uint64?)
  pure ⟨keys, times, ttl⟩

/-- What the bytes publish. -/
def ofBytes? (body : List UInt8) : Option Publication :=
  (Document.ofBytes? body).bind ofDocument?

/-- The usable keys of a publication. -/
def keySet (publication : Publication) : KeySet :=
  ⟨publication.keys.filterMap PublishedKey.usable?, publication.publishedAt,
    publication.maxTokenTtl⟩

end Publication

theorem ofDocument?_eq_map (document : Document) :
    ofDocument? document = (Publication.ofDocument? document).map Publication.keySet := by
  unfold ofDocument? Publication.ofDocument? memberNames
  cases document.record? ["keys", "keysMeta", "maxTokenTTL"] with
  | none => rfl
  | some parts =>
    simp only [Option.bind_eq_bind, Option.bind_some]
    cases Document.part? parts "keys" [] (Document.list? PublishedKey.ofDocument?) with
    | none => rfl
    | some keys =>
      cases Document.part? parts "keysMeta" .empty publicationTimes? with
      | none => rfl
      | some times =>
        cases Document.part? parts "maxTokenTTL" none (Document.orNull? Document.uint64?) with
        | none => rfl
        | some ttl => rfl

/-- A body that publishes something gives its usable keys, and any other gives none. -/
theorem ofBytes_eq_ok_iff {body : List UInt8} {keys : KeySet} :
    ofBytes body = .ok keys ↔
      ∃ publication, Publication.ofBytes? body = some publication ∧ keys = publication.keySet := by
  unfold ofBytes Publication.ofBytes?
  cases Document.ofBytes? body with
  | none => simp
  | some document =>
    simp only [Option.bind_some]
    rw [ofDocument?_eq_map]
    cases Publication.ofDocument? document with
    | none => simp
    | some publication => simp [eq_comm]

/-- The elements of a document's list of keys; a document without one has none. -/
def elements? (document : Document) : Option (List Document) := do
  let parts ← document.record? memberNames
  Document.part? parts "keys" [] (Document.list? some)

/-- The elements of the list of keys in a body. -/
def Lists (body : List UInt8) (elements : List Document) : Prop :=
  (Document.ofBytes? body).bind elements? = some elements

/-- The published keys are the elements of the list, each taken apart. -/
theorem Publication.exists_lists {body : List UInt8} {publication : Publication}
    (read : ofBytes? body = some publication) :
    ∃ elements, Lists body elements ∧
      elements.mapM PublishedKey.ofDocument? = some publication.keys := by
  obtain ⟨document, parsed, read⟩ := Option.bind_eq_some_iff.mp read
  obtain ⟨parts, record, read⟩ := Option.bind_eq_some_iff.mp read
  obtain ⟨keys, listed, read⟩ := Option.bind_eq_some_iff.mp read
  obtain ⟨times, timed, read⟩ := Option.bind_eq_some_iff.mp read
  obtain ⟨ttl, limited, read⟩ := Option.bind_eq_some_iff.mp read
  cases read
  unfold Lists elements?
  rw [parsed]
  simp only [Option.bind_some, Option.bind_eq_bind, record]
  unfold Document.part? at listed ⊢
  cases looked : parts.lookup "keys" with
  | none =>
    rw [looked] at listed
    cases listed
    exact ⟨[], rfl, rfl⟩
  | some value =>
    rw [looked] at listed
    cases value with
    | array items =>
      refine ⟨items, ?_, listed⟩
      change items.mapM some = some items
      rw [mapM_option]
      simp
    | null | bool _ | number _ | string _ | object _ => cases listed

theorem Lists.unique {body : List UInt8} {elements others : List Document}
    (lists : Lists body elements) (again : Lists body others) : elements = others :=
  Option.some.inj (lists.symm.trans again)

/-- Lists that are put together have the keys of the one and then those of the other. -/
theorem keys_of_lists_append {body front back : List UInt8} {frontElements backElements :
    List Document} {keys frontKeys backKeys : KeySet}
    (lists : Lists body (frontElements ++ backElements)) (frontLists : Lists front frontElements)
    (backLists : Lists back backElements) (accepted : ofBytes body = .ok keys)
    (frontAccepted : ofBytes front = .ok frontKeys) (backAccepted : ofBytes back = .ok backKeys) :
    keys.keys = frontKeys.keys ++ backKeys.keys := by
  obtain ⟨publication, read, rfl⟩ := ofBytes_eq_ok_iff.mp accepted
  obtain ⟨frontPublication, frontRead, rfl⟩ := ofBytes_eq_ok_iff.mp frontAccepted
  obtain ⟨backPublication, backRead, rfl⟩ := ofBytes_eq_ok_iff.mp backAccepted
  obtain ⟨elements, listed, taken⟩ := Publication.exists_lists read
  obtain ⟨elements', listed', frontTaken⟩ := Publication.exists_lists frontRead
  obtain ⟨elements'', listed'', backTaken⟩ := Publication.exists_lists backRead
  obtain rfl := listed.unique lists
  obtain rfl := listed'.unique frontLists
  obtain rfl := listed''.unique backLists
  have together : publication.keys = frontPublication.keys ++ backPublication.keys := by
    rw [List.mapM_append, frontTaken, backTaken] at taken
    exact (Option.some.inj taken).symm
  unfold Publication.keySet
  rw [together, List.filterMap_append]

end KeySet

/-! ## Questions for a key -/

/-- A manager answers a question from a body: the endpoint answers with it and nothing fresh is
cached, or the fresh set in its cache was read from it. -/
def KeyManager.AnswersFrom (manager : KeyManager) (turn : Turn) (body : List UInt8) : Prop :=
  (manager.endpoint = .answers 200 body ∧ manager.cache.Stale turn.served) ∨
    ∃ keys, KeySet.ofBytes body = .ok keys ∧ manager.cache.fresh? turn.served = some keys

theorem KeyManager.AnswersFrom.resolve_eq {manager : KeyManager} {turn : Turn}
    {body : List UInt8} {keys : KeySet} (answers : manager.AnswersFrom turn body)
    (accepted : KeySet.ofBytes body = .ok keys) (id : String) :
    (manager.resolve turn id).1 = keys.lookup id := by
  have current : (manager.currentKeys turn).1 = .ok keys := by
    obtain ⟨answered, stale⟩ | ⟨cached, read, fresh⟩ := answers
    · have brought : (KeyRequest.mk manager.endpoint turn.ended true).outcome = .ok keys :=
        KeyRequest.outcome_eq_ok_iff.mpr ⟨rfl, body, answered, accepted⟩
      rw [currentKeys_of_stale stale]
      exact brought
    · rw [currentKeys_of_fresh fresh]
      exact read.symm.trans accepted
  change (manager.currentKeys turn).1.bind (·.lookup id) = keys.lookup id
  rw [current]
  rfl

namespace KeySet

/-- A body that publishes something gives a key set. It has what the usable keys of the body make,
in the order of the document; a look-up and a question of a manager find the first usable key of a
name and nothing if there is none; and of a list that is two lists put together the keys are those
of the one and then those of the other. -/
theorem ofBytes_kept {body : List UInt8} {publication : Publication}
    (published : Publication.ofBytes? body = some publication) :
    ∃ elements keys, Lists body elements ∧
      elements.mapM PublishedKey.ofDocument? = some publication.keys ∧
      ofBytes body = .ok keys ∧ Kept publication.keys keys.keys ∧
      (∀ id key, keys.find? id = some key ↔ FirstMade publication.keys id key) ∧
      (∀ id, keys.find? id = none ↔
        ∀ published ∈ publication.keys, published.id = id → ∀ key, ¬ published.Makes key) ∧
      (∀ (manager : KeyManager) (turn : Turn) (id : String), manager.AnswersFrom turn body →
        (∀ key, (manager.resolve turn id).1 = .ok key ↔ FirstMade publication.keys id key) ∧
        ((manager.resolve turn id).1 = .error (.notFound id) ↔
          ∀ published ∈ publication.keys, published.id = id → ∀ key, ¬ published.Makes key)) ∧
      (∀ (front back : List UInt8) (frontElements backElements : List Document)
        (frontKeys backKeys : KeySet), Lists front frontElements → Lists back backElements →
        ofBytes front = .ok frontKeys → ofBytes back = .ok backKeys →
        elements = frontElements ++ backElements →
        keys.keys = frontKeys.keys ++ backKeys.keys) := by
  obtain ⟨elements, lists, taken⟩ := Publication.exists_lists published
  have accepted := ofBytes_eq_ok_iff.mpr ⟨publication, published, rfl⟩
  have kept : Kept publication.keys publication.keySet.keys := kept_filterMap publication.keys
  refine ⟨elements, publication.keySet, lists, taken, accepted, kept,
    fun id key => kept.find?_eq_some_iff, fun id => kept.find?_eq_none_iff, ?_, ?_⟩
  · intro manager turn id answers
    rw [answers.resolve_eq accepted]
    exact ⟨fun key => lookup_eq_ok_iff_find?.trans kept.find?_eq_some_iff,
      lookup_eq_notFound_iff.trans kept.find?_eq_none_iff⟩
  · rintro front back frontElements backElements frontKeys backKeys frontLists backLists
      frontAccepted backAccepted rfl
    exact keys_of_lists_append lists frontLists backLists accepted frontAccepted backAccepted

/-- A document that publishes three keys of one name. The modulus of the first does not decode. -/
def shadowedBody : List UInt8 :=
  Text.Utf8.encode
    ("\x7b\"keys\":[\x7b\"kid\":\"k\",\"n\":\"%\",\"e\":\"Aw\"\x7d," ++
      "\x7b\"kid\":\"k\",\"n\":\"Bw\",\"e\":\"Aw\"\x7d," ++
      "\x7b\"kid\":\"k\",\"n\":\"DQ\",\"e\":\"Aw\"\x7d]\x7d")

/-- One of these keys as a value. -/
def shadowedKey (modulus : String) : Json :=
  .object [("kid", .string "k"), ("n", .string modulus), ("e", .string "Aw")]

/-- The name stands for the second key, of the modulus 7. -/
theorem ofBytes_kept_shadowed :
    ∃ keys, ofBytes shadowedBody = .ok keys ∧ keys.find? "k" = some ⟨"k", "", ⟨7, 3⟩⟩ := by
  have parsed : Document.ofBytes? shadowedBody = some (.ofJson (.object [("keys", .array
      [shadowedKey "%", shadowedKey "Bw", shadowedKey "DQ"])])) := by
    apply Document.ofBytes?_of_text
    · decide +kernel
    · rfl
  have published : Publication.ofBytes? shadowedBody =
      some ⟨[⟨"", "", "k", "%", "Aw"⟩, ⟨"", "", "k", "Bw", "Aw"⟩, ⟨"", "", "k", "DQ", "Aw"⟩],
        .empty, none⟩ := by
    unfold Publication.ofBytes?
    rw [parsed]
    rfl
  have unusable : (PublishedKey.mk "" "" "k" "%" "Aw").usable? = none := by decide +kernel
  have usable : (PublishedKey.mk "" "" "k" "Bw" "Aw").usable? = some ⟨"k", "", ⟨7, 3⟩⟩ := by
    decide +kernel
  obtain ⟨_, keys, -, -, accepted, -, found, -⟩ := ofBytes_kept published
  refine ⟨keys, accepted, (found "k" _).mpr ⟨[_], _, [_], rfl, rfl,
    PublishedKey.usable?_eq_some_iff.mp usable, ?_⟩⟩
  rintro other member - key makes
  obtain rfl := List.mem_singleton.mp member
  rw [PublishedKey.usable?_eq_some_iff.mpr makes] at unusable
  cases unusable

end KeySet

end BearerGate
