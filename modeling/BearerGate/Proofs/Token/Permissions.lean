import BearerGate.Proofs.Json.RoundTrip
import BearerGate.Proofs.Token.Reading

/-!
# What a token permits

The checks of permissions answer from what the token lists: the list of its organisation, and the
list that the last member of a unit's name gives (`Claims.GrantsInOrganisation`,
`Claims.GrantsInUnit`). A unit inherits from the organisation; nothing is handed from one unit to
another or from a unit to the organisation.

A token that lists nothing need not have the parts that would hold the lists, and may give them as
null.
-/

namespace BearerGate

open Json (Document StringContent)
open Json.Document (Part LastMember part? orDefault?)

namespace Claims

/-! ## What a token lists -/

/-- A list has a text among its items. -/
def Lists (list : Document) (text : String) : Prop :=
  ∃ items, list = .array items ∧ .string (.text text) ∈ items

/-- The part of a token's permissions that stands under a name. -/
def PermissionPart (document : Document) (name : String) (value : Document) : Prop :=
  ∃ permissions, Part memberNames "permissions" document permissions ∧
    Part permissionNames name permissions value

/-- A token lists a permission for its organisation. -/
def GrantsInOrganisation (document : Document) (permission : String) : Prop :=
  ∃ org, PermissionPart document "org" org ∧ Lists org permission

/-- What the last member of a unit's name gives. -/
def OwnPart (document : Document) (unit : String) (own : Document) : Prop :=
  ∃ units, PermissionPart document "units" units ∧ LastMember unit units own

/-- A token lists a permission for a unit. -/
def GrantsInUnit (document : Document) (unit permission : String) : Prop :=
  ∃ own, OwnPart document unit own ∧ Lists own permission

/-- Two tokens agree on a unit: they have the same list for the organisation and for the unit, or
both have none. Their other units may differ in any way. -/
structure AgreeOn (unit : String) (document other : Document) : Prop where
  org : ∀ list, PermissionPart document "org" list ↔ PermissionPart other "org" list
  own : ∀ list, OwnPart document unit list ↔ OwnPart other unit list

/-! ## What is read of it -/

theorem has_nameSet? {list : Document} {set : NameSet} (read : nameSet? list = some set)
    {text : String} : set.has text = true ↔ Lists list text := by
  obtain ⟨texts, listed, rfl⟩ := Option.map_eq_some_iff.mp read
  cases list with
  | array items =>
    change items.mapM Document.text? = some texts at listed
    rw [mapM_option, Option.ite_none_right_eq_some, Option.some_inj] at listed
    obtain ⟨-, rfl⟩ := listed
    rw [NameSet.has_ofNames, List.mem_filterMap]
    simp only [Document.text?_eq_some_iff]
    constructor
    · rintro ⟨item, member, rfl⟩
      exact ⟨items, rfl, member⟩
    · rintro ⟨items', same, member⟩
      cases same
      exact ⟨_, member, rfl⟩
  | _ => cases listed

/-- Null stands for a list of nothing. -/
theorem has_orDefault?_nameSet? {list : Document} {set : NameSet}
    (read : orDefault? .empty nameSet? list = some set) {text : String} :
    set.has text = true ↔ Lists list text := by
  rcases Document.orDefault?_eq_some_iff.mp read with ⟨rfl, rfl⟩ | ⟨-, read⟩
  · constructor
    · intro found
      cases found
    · rintro ⟨items, same, -⟩
      cases same
  · exact has_nameSet? read

/-- The list that is read, or none if the part is missing or null, has what is listed. -/
theorem has_of_part? {parts : List (String × Document)} {name : String} {set : NameSet}
    (read : part? parts name .empty (orDefault? .empty nameSet?) = some set) {text : String} :
    set.has text = true ↔ ∃ list, parts.lookup name = some list ∧ Lists list text := by
  rcases Document.part?_eq_some_iff.mp read with ⟨list, found, read⟩ | ⟨missing, rfl⟩
  · simp [found, has_orDefault?_nameSet? read]
  · rw [missing]
    constructor
    · intro found
      cases found
    · rintro ⟨list, found, -⟩
      cases found

/-- Permissions are read from two parts, also if none are given. -/
theorem exists_permissionParts {document : Document} {claims : Claims}
    (read : ofDocument? document = some claims) :
    ∃ parts, (∀ name ∈ permissionNames, ∀ value,
        parts.lookup name = some value ↔ PermissionPart document name value) ∧
      part? parts "org" .empty (orDefault? .empty nameSet?) = some claims.permissions.org ∧
      part? parts "units" .empty (orDefault? .empty units?) = some claims.permissions.units := by
  obtain ⟨parts, record, from_parts⟩ := ofDocument?_eq_some_iff.mp read
  have stands (value : Document) : parts.lookup "permissions" = some value ↔
      Part memberNames "permissions" document value :=
    Document.lookup_record?_eq_some_iff memberNames_nodup record (by decide)
  rcases Document.part?_orDefault?_eq_some_iff.mp from_parts.permissions with
    ⟨value, found, -, read⟩ | ⟨missing, none⟩
  · obtain ⟨inner, record', org, units⟩ := permissions?_eq_some_iff.mp read
    refine ⟨inner, fun name known value' => ?_, org, units⟩
    rw [Document.lookup_record?_eq_some_iff permissionNames_nodup record' known]
    constructor
    · intro part
      exact ⟨value, (stands value).mp found, part⟩
    · rintro ⟨permissions, here, part⟩
      rw [← stands, found] at here
      cases here
      exact part
  · rw [none]
    refine ⟨[], fun name known value => ⟨fun found => (by cases found), ?_⟩, rfl, rfl⟩
    rintro ⟨permissions, here, part⟩
    rw [missing permissions ((stands permissions).mpr here)] at part
    cases part

theorem has_org {document : Document} {claims : Claims}
    (read : ofDocument? document = some claims) {permission : String} :
    claims.permissions.org.has permission = true ↔ GrantsInOrganisation document permission := by
  obtain ⟨parts, stands, org, -⟩ := exists_permissionParts read
  rw [has_of_part? org]
  simp only [stands "org" (by decide)]
  rfl

theorem has_get?_units {document : Document} {claims : Claims}
    (read : ofDocument? document = some claims) {unit permission : String} :
    (∃ own, claims.permissions.units.get? unit = some own ∧ own.has permission = true) ↔
      GrantsInUnit document unit permission := by
  obtain ⟨parts, stands, -, units⟩ := exists_permissionParts read
  unfold GrantsInUnit OwnPart
  simp only [← stands "units" (by decide)]
  rcases Document.part?_orDefault?_eq_some_iff.mp units with
    ⟨given, found, -, read⟩ | ⟨missing, none⟩
  · obtain ⟨of_last, exists_last⟩ := get?_units? read unit
    constructor
    · rintro ⟨held, holds, has⟩
      obtain ⟨own, last⟩ := exists_last held holds
      obtain ⟨held', holds', read_own⟩ := of_last own last
      obtain rfl := Option.some.inj (holds.symm.trans holds')
      exact ⟨own, ⟨given, found, last⟩, (has_orDefault?_nameSet? read_own).mp has⟩
    · rintro ⟨own, ⟨units, here, last⟩, lists⟩
      obtain rfl := Option.some.inj (found.symm.trans here)
      obtain ⟨held, holds, read_own⟩ := of_last own last
      exact ⟨held, holds, (has_orDefault?_nameSet? read_own).mpr lists⟩
  · rw [none]
    constructor
    · rintro ⟨own, found, -⟩
      cases found
    · rintro ⟨own, ⟨units, found, last⟩, -⟩
      rw [missing units found] at last
      cases last

/-! ## What is held -/

theorem holdsInOrganisation_iff {claims : Claims} {required : List String} :
    claims.holdsInOrganisation required = true ↔
      ∀ permission ∈ required, claims.permissions.org.has permission = true :=
  List.all_eq_true

/-- A unit has its own permissions and those of the organisation. -/
theorem holdsInUnit_iff {claims : Claims} {unit : String} {required : List String} :
    claims.holdsInUnit unit required = true ↔
      ∀ permission ∈ required, claims.permissions.org.has permission = true ∨
        ∃ own, claims.permissions.units.get? unit = some own ∧ own.has permission = true := by
  unfold holdsInUnit
  rw [List.all_eq_true]
  refine forall₂_congr fun permission _ => ?_
  unfold Permissions.inUnit
  cases claims.permissions.units.get? unit with
  | none => simp
  | some own => simp [NameSet.has_union]

theorem grantsInOrganisation_congr {document other : Document}
    (org : ∀ list, PermissionPart document "org" list ↔ PermissionPart other "org" list)
    (permission : String) :
    GrantsInOrganisation document permission ↔ GrantsInOrganisation other permission :=
  exists_congr fun list => and_congr_left' (org list)

theorem AgreeOn.grantsInUnit_iff {unit : String} {document other : Document}
    (agree : AgreeOn unit document other) (permission : String) :
    GrantsInUnit document unit permission ↔ GrantsInUnit other unit permission :=
  exists_congr fun list => and_congr_left' (agree.own list)

theorem permissionPart_unique {document : Document} {claims : Claims}
    (read : ofDocument? document = some claims) {name : String} (known : name ∈ permissionNames)
    {value other : Document} (part : PermissionPart document name value)
    (again : PermissionPart document name other) : value = other := by
  obtain ⟨parts, stands, -, -⟩ := exists_permissionParts read
  rw [← stands name known] at part again
  exact Option.some.inj (part.symm.trans again)

/-- Members of other names may come, go and change. -/
theorem agreeOn_of_filter {document other : Document} {claims claims' : Claims}
    (read : ofDocument? document = some claims) (read' : ofDocument? other = some claims')
    (org : ∀ list, PermissionPart document "org" list ↔ PermissionPart other "org" list)
    {members others : List (StringContent × Document)}
    (units : PermissionPart document "units" (.object members))
    (units' : PermissionPart other "units" (.object others)) {unit : String}
    (same : (members.filter fun member => member.1.text? = some unit) =
      others.filter fun member => member.1.text? = some unit) : AgreeOn unit document other := by
  have own {document : Document} {claims : Claims} (read : ofDocument? document = some claims)
      {members : List (StringContent × Document)}
      (units : PermissionPart document "units" (.object members)) (list : Document) :
      OwnPart document unit list ↔ LastMember unit (.object members) list := by
    constructor
    · rintro ⟨given, part, last⟩
      rwa [permissionPart_unique read (by decide) units part]
    · intro last
      exact ⟨_, units, last⟩
  refine ⟨org, fun list => ?_⟩
  rw [own read units, own read' units', Document.lastMember_iff_filter, same,
    Document.lastMember_iff_filter]

variable {document : Document} {claims : Claims} (read : ofDocument? document = some claims)
include read

theorem holdsInUnit_iff_grants {unit : String} {required : List String} :
    claims.holdsInUnit unit required = true ↔ ∀ permission ∈ required,
      GrantsInOrganisation document permission ∨ GrantsInUnit document unit permission := by
  rw [holdsInUnit_iff]
  simp only [has_org read, has_get?_units read]

theorem holdsInOrganisation_iff_grants {required : List String} :
    claims.holdsInOrganisation required = true ↔
      ∀ permission ∈ required, GrantsInOrganisation document permission := by
  rw [holdsInOrganisation_iff]
  simp only [has_org read]

section

variable {other : Document} {claims' : Claims} (read' : ofDocument? other = some claims')
  (same : ∀ permission, GrantsInOrganisation document permission ↔
    GrantsInOrganisation other permission)
include read' same

theorem holdsInOrganisation_congr (required : List String) :
    claims'.holdsInOrganisation required = claims.holdsInOrganisation required := by
  rw [Bool.eq_iff_iff, holdsInOrganisation_iff_grants read, holdsInOrganisation_iff_grants read']
  simp only [same]

theorem holdsInUnit_congr {unit : String} (own : ∀ permission,
    GrantsInUnit document unit permission ↔ GrantsInUnit other unit permission)
    (required : List String) :
    claims'.holdsInUnit unit required = claims.holdsInUnit unit required := by
  rw [Bool.eq_iff_iff, holdsInUnit_iff_grants read, holdsInUnit_iff_grants read']
  simp only [same, own]

end

omit read

/-- A check answers from what the token lists, for the organisation and, in a unit, for the last
member of the unit's name. So what is held in the organisation is held in every unit; no list of a
unit has a bearing on the organisation or on another unit; the lists and the requirement count as
sets; and requirements may be checked one after the other. -/
theorem holds_iff_grants {bytes : List UInt8} {document : Document} {claims : Claims}
    (parsed : Document.ofBytes? bytes = some document) (accepted : ofBytes? bytes = some claims) :
    (∀ unit required, claims.holdsInUnit unit required = true ↔
      ∀ permission ∈ required,
        GrantsInOrganisation document permission ∨ GrantsInUnit document unit permission) ∧
    (∀ required, claims.holdsInOrganisation required = true ↔
      ∀ permission ∈ required, GrantsInOrganisation document permission) ∧
    (∀ unit required, claims.holdsInOrganisation required = true →
      claims.holdsInUnit unit required = true) ∧
    (∀ bytes' other claims', Document.ofBytes? bytes' = some other →
      ofBytes? bytes' = some claims' →
      (∀ unit, AgreeOn unit document other → ∀ required,
        claims'.holdsInUnit unit required = claims.holdsInUnit unit required) ∧
      ((∀ list, PermissionPart document "org" list ↔ PermissionPart other "org" list) →
        ∀ required, claims'.holdsInOrganisation required = claims.holdsInOrganisation required) ∧
      ((∀ permission, GrantsInOrganisation document permission ↔
          GrantsInOrganisation other permission) →
        (∀ required,
          claims'.holdsInOrganisation required = claims.holdsInOrganisation required) ∧
        ∀ unit, (∀ permission, GrantsInUnit document unit permission ↔
            GrantsInUnit other unit permission) → ∀ required,
          claims'.holdsInUnit unit required = claims.holdsInUnit unit required)) ∧
    (∀ unit required required', (∀ permission, permission ∈ required ↔ permission ∈ required') →
      claims.holdsInUnit unit required = claims.holdsInUnit unit required' ∧
      claims.holdsInOrganisation required = claims.holdsInOrganisation required') ∧
    ∀ unit required more,
      claims.holdsInUnit unit (required ++ more) =
        (claims.holdsInUnit unit required && claims.holdsInUnit unit more) ∧
      claims.holdsInOrganisation (required ++ more) =
        (claims.holdsInOrganisation required && claims.holdsInOrganisation more) := by
  obtain ⟨document', parsed', read⟩ := ofBytes?_eq_some_iff.mp accepted
  obtain rfl := Option.some.inj (parsed.symm.trans parsed')
  refine ⟨fun unit required => holdsInUnit_iff_grants read,
    fun required => holdsInOrganisation_iff_grants read, ?_, ?_, ?_, ?_⟩
  · intro unit required held
    rw [holdsInOrganisation_iff] at held
    exact holdsInUnit_iff.mpr fun permission member => .inl (held permission member)
  · intro bytes' other claims' parsed' accepted'
    obtain ⟨other', reparsed, read'⟩ := ofBytes?_eq_some_iff.mp accepted'
    obtain rfl := Option.some.inj (parsed'.symm.trans reparsed)
    refine ⟨fun unit agree => ?_, fun org => ?_, fun same => ⟨?_, fun unit own => ?_⟩⟩
    · exact holdsInUnit_congr read read' (grantsInOrganisation_congr agree.org)
        agree.grantsInUnit_iff
    · exact holdsInOrganisation_congr read read' (grantsInOrganisation_congr org)
    · exact holdsInOrganisation_congr read read' same
    · exact holdsInUnit_congr read read' same own
  · intro unit required required' same
    constructor
    · rw [Bool.eq_iff_iff, holdsInUnit_iff, holdsInUnit_iff]
      simp only [same]
    · rw [Bool.eq_iff_iff, holdsInOrganisation_iff, holdsInOrganisation_iff]
      simp only [same]
  · intro unit required more
    exact ⟨List.all_append, List.all_append⟩

/-- A token that permits `kill` in the organisation and has members for units. -/
def agentToken (units : String) : List UInt8 :=
  Text.Utf8.encode
    ("\x7b\"permissions\":\x7b\"org\":[\"kill\"],\"units\":\x7b" ++ units ++ "\x7d\x7d\x7d")

/-- The document of such a token. -/
def agentDocument (units : List (StringContent × Document)) : Document :=
  .object [(.text "permissions", .object [(.text "org", .array [.string (.text "kill")]),
    (.text "units", .object units)])]

/-- Such a token as a value, with one permission for each of the units. -/
def agentValue (units : List (String × String)) : Json :=
  .object [("permissions", .object [("org", .array [.string "kill"]),
    ("units", .object (units.map fun unit => (unit.1, .array [.string unit.2])))])]

/-- The member of a unit with one permission. -/
def agentUnit (name permission : String) : StringContent × Document :=
  (.text name, .array [.string (.text permission)])

/-- Units of which one has two members. -/
def agentUnits : List (StringContent × Document) :=
  [agentUnit "mi6" "run", agentUnit "mi6" "read"]

/-- The same with one more unit in between. -/
def moreAgentUnits : List (StringContent × Document) :=
  [agentUnit "mi6" "run", agentUnit "q" "lab", agentUnit "mi6" "read"]

/-- The first member of a unit is of no account, and another unit may be added. -/
theorem holds_iff_grants_agent :
    ∃ claims claims',
      ofBytes? (agentToken "\"mi6\":[\"run\"],\"mi6\":[\"read\"]") = some claims ∧
      ofBytes? (agentToken "\"mi6\":[\"run\"],\"q\":[\"lab\"],\"mi6\":[\"read\"]") =
        some claims' ∧
      claims.holdsInUnit "mi6" ["read", "kill", "read"] = true ∧
      claims.holdsInUnit "mi6" ["run"] = false ∧
      ∀ required, claims'.holdsInUnit "mi6" required = claims.holdsInUnit "mi6" required := by
  have parsed : Document.ofBytes? (agentToken "\"mi6\":[\"run\"],\"mi6\":[\"read\"]") =
      some (agentDocument agentUnits) := by
    apply Document.ofBytes?_of_text (agentValue [("mi6", "run"), ("mi6", "read")])
    · decide +kernel
    · rfl
  have parsed' : Document.ofBytes?
      (agentToken "\"mi6\":[\"run\"],\"q\":[\"lab\"],\"mi6\":[\"read\"]") =
      some (agentDocument moreAgentUnits) := by
    apply Document.ofBytes?_of_text (agentValue [("mi6", "run"), ("q", "lab"), ("mi6", "read")])
    · decide +kernel
    · rfl
  have readable : (ofDocument? (agentDocument agentUnits)).isSome = true := rfl
  have readable' : (ofDocument? (agentDocument moreAgentUnits)).isSome = true := rfl
  obtain ⟨claims, read⟩ := Option.isSome_iff_exists.mp readable
  obtain ⟨claims', read'⟩ := Option.isSome_iff_exists.mp readable'
  have accepted := ofBytes?_eq_some_iff.mpr ⟨_, parsed, read⟩
  have accepted' := ofBytes?_eq_some_iff.mpr ⟨_, parsed', read'⟩
  have units (units : List (StringContent × Document)) :
      PermissionPart (agentDocument units) "units" (.object units) :=
    ⟨_, .named rfl [] [] _, .named rfl [_] [] _⟩
  have org (units : List (StringContent × Document)) :
      PermissionPart (agentDocument units) "org" (.array [.string (.text "kill")]) :=
    ⟨_, .named rfl [] [] _, .named rfl [] [_] _⟩
  have same_org (list : Document) : PermissionPart (agentDocument agentUnits) "org" list ↔
      PermissionPart (agentDocument moreAgentUnits) "org" list := by
    constructor
    · intro part
      rw [permissionPart_unique read (by decide) part (org agentUnits)]
      exact org moreAgentUnits
    · intro part
      rw [permissionPart_unique read' (by decide) part (org moreAgentUnits)]
      exact org agentUnits
  have agree : AgreeOn "mi6" (agentDocument agentUnits) (agentDocument moreAgentUnits) :=
    agreeOn_of_filter read read' same_org (units agentUnits) (units moreAgentUnits) rfl
  obtain ⟨-, -, -, others, -⟩ := holds_iff_grants parsed accepted
  refine ⟨claims, claims', accepted, accepted', ?_, ?_,
    (others _ _ _ parsed' accepted').1 "mi6" agree⟩
  · cases read
    decide +kernel
  · cases read
    decide +kernel

end Claims

end BearerGate
