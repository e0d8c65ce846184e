import BearerGate.Proofs.Json.Written
import BearerGate.Proofs.Token.Reading

/-!
# Claims are read as they are written

What is written of claims is read as the same claims again (`Claims.ofDocument?_toJson`). Reading
and writing treat each member in a way of its own: some are always written, some only if they hold
something, and some may be null or missing where the written form has neither. What makes the two
agree is that the written members are a part of those that are known, in the same order, and that
each is read back by itself.

The audience is any value. It is read back if it was read before and has no doubles in it.
-/

namespace BearerGate

open Json (Document StringContent)

namespace Claims

open Json.Document (ofJson itemsOfJson membersOfJson part? orDefault? orNull? record?_ofJson
  part?_ofJson)

/-! ## The parts -/

theorem texts?_ofJson (texts : List String) :
    (ofJson (stringsJson texts)).texts? = some texts :=
  Document.mapM_text?_ofJson texts

theorem nameSet?_ofJson (set : NameSet) : nameSet? (ofJson (nameSetJson set)) = some set := by
  have entries : (Dict.names set).map (fun name => (name, ())) = set.entries := by
    unfold Dict.names
    rw [List.map_map]
    exact List.map_id set.entries
  have names : NameSet.ofNames (Dict.names set) = set := by
    rw [NameSet.ofNames, entries, Dict.ofList_entries]
  unfold nameSet? nameSetJson
  rw [texts?_ofJson, Option.map_some, names]

theorem orDefault?_nameSet?_ofJson (set : NameSet) :
    orDefault? .empty nameSet? (ofJson (nameSetJson set)) = some set :=
  Document.orDefault?_eq_some_iff.mpr (.inr ⟨nofun, nameSet?_ofJson set⟩)

theorem mapM_unit_ofJson (units : List (String × NameSet)) :
    ((units.map fun unit => (unit.1, nameSetJson unit.2)).map fun member =>
        (member.1, ofJson member.2)).mapM
      (fun member => (orDefault? .empty nameSet? member.2).map fun held => (member.1, held)) =
        some units := by
  rw [List.map_map]
  refine mapM_map_of_inverse (fun unit => ?_) units
  exact congrArg (Option.map fun held => (unit.1, held)) (orDefault?_nameSet?_ofJson unit.2)

theorem units?_ofJson (units : Dict NameSet) :
    units? (ofJson (.object (units.entries.map fun unit => (unit.1, nameSetJson unit.2)))) =
      some units := by
  refine Option.bind_eq_some_iff.mpr ⟨_, Document.members?_ofJson _, ?_⟩
  refine Option.bind_eq_some_iff.mpr ⟨_, mapM_unit_ofJson units.entries, ?_⟩
  exact congrArg some (Dict.ofList_entries units)

theorem permissions?_ofJson (permissions : Permissions) :
    permissions? (ofJson (permissionsJson permissions)) = some permissions := by
  have record : (ofJson (permissionsJson permissions)).record? permissionNames = some _ :=
    record?_ofJson permissionNames_nodup (List.Sublist.refl _)
  refine permissions?_eq_some_iff.mpr ⟨_, record, ?_, ?_⟩
  · exact (part?_ofJson _ "org" _ _).trans (orDefault?_nameSet?_ofJson permissions.org)
  · refine (part?_ofJson _ "units" _ _).trans ?_
    exact Document.orDefault?_eq_some_iff.mpr (.inr ⟨nofun, units?_ofJson permissions.units⟩)

theorem userInfo?_ofJson (info : UserInfo) :
    userInfo? (ofJson (userInfoJson info)) = some info := by
  have record : (ofJson (userInfoJson info)).record? userInfoNames = some _ :=
    record?_ofJson (by decide) (List.Sublist.refl _)
  exact userInfo?_eq_some_iff.mpr ⟨_, record, part?_ofJson _ "given_name" _ _,
    part?_ofJson _ "family_name" _ _, part?_ofJson _ "email" _ _, part?_ofJson _ "picture" _ _⟩

/-! ## Texts without doubles -/

theorem isFloatFree_stringsJson (texts : List String) : (stringsJson texts).isFloatFree = true := by
  refine Json.itemsFloatFree_iff.mpr fun item member => ?_
  obtain ⟨text, -, rfl⟩ := List.mem_map.mp member
  rfl

theorem isFloatFree_permissionsJson (permissions : Permissions) :
    (permissionsJson permissions).isFloatFree = true := by
  have units : (Json.object (permissions.units.entries.map fun unit =>
      (unit.1, nameSetJson unit.2))).isFloatFree = true := by
    refine Json.membersFloatFree_iff.mpr fun member written => ?_
    obtain ⟨unit, -, rfl⟩ := List.mem_map.mp written
    exact isFloatFree_stringsJson _
  refine Json.membersFloatFree_iff.mpr fun member written => ?_
  simp only [List.mem_cons, List.not_mem_nil, or_false] at written
  rcases written with rfl | rfl
  · exact isFloatFree_stringsJson _
  · exact units

/-! ## The whole -/

/-- The known members in their order, each with the value that is written, if any is. -/
def memberValues (claims : Claims) : List (String × Option Json) :=
  [("sub", some (.string claims.subject)), ("org", some (.string claims.organisation)),
    ("ntt", some (.string claims.tokenType)),
    ("permissions", some (permissionsJson claims.permissions)),
    ("groups", if claims.groups.isEmpty then none else some (stringsJson claims.groups)),
    ("userinfo", claims.userInfo.map userInfoJson),
    ("exp", claims.expiresAt.map fun time => .int time.toInt),
    ("iat", claims.issuedAt.map fun time => .int time.toInt),
    ("nbf", claims.notBefore.map fun time => .int time.toInt), ("iss", claims.issuer.map .string),
    ("aud", claims.audience), ("jti", claims.tokenId.map .string)]

/-- The members that are written. -/
def writtenMembers (values : List (String × Option Json)) : List (String × Json) :=
  values.flatMap fun member => optionalMember member.1 member.2

theorem toJson_eq (claims : Claims) :
    claims.toJson = .object (writtenMembers claims.memberValues) := by
  unfold toJson writtenMembers memberValues
  simp only [List.flatMap_cons, List.flatMap_nil, List.append_assoc, List.append_nil]
  split
  · rfl
  · rfl

theorem writtenMembers_sublist (values : List (String × Option Json)) :
    ((writtenMembers values).map (·.1)).Sublist (values.map (·.1)) := by
  induction values with
  | nil => exact List.Sublist.refl []
  | cons member values ih =>
    obtain ⟨name, value⟩ := member
    cases value with
    | none => exact ih.cons name
    | some value => exact ih.cons_cons name

theorem lookup_writtenMembers {values : List (String × Option Json)}
    (distinct : (values.map (·.1)).Nodup) {name : String} {value : Option Json}
    (member : (name, value) ∈ values) : (writtenMembers values).lookup name = value := by
  induction values with
  | nil => cases member
  | cons first values ih =>
    rw [List.map_cons, List.nodup_cons] at distinct
    have split : (writtenMembers (first :: values)).lookup name =
        ((optionalMember first.1 first.2).lookup name).or ((writtenMembers values).lookup name) :=
      List.lookup_append
    rw [split, optionalMember, Dict.lookup_map_toList]
    rcases List.mem_cons.mp member with rfl | later
    · have absent : (writtenMembers values).lookup name = none := by
        rw [List.lookup_eq_none_iff]
        intro other written
        have among := (writtenMembers_sublist values).subset (List.mem_map_of_mem written)
        have apart : name ≠ other.1 := fun same => distinct.1 (same ▸ among)
        simpa using apart
      rw [if_pos rfl, absent, Option.or_none]
    · have apart : name ≠ first.1 := fun same => distinct.1 (same ▸ List.mem_map_of_mem later)
      rw [if_neg apart, Option.none_or, ih distinct.2 later]

variable {claims : Claims}

/-- A written member is read by itself. -/
theorem part?_written {α : Type} {i : Nat} {name : String} {value : Option Json}
    (place : claims.memberValues[i]? = some (name, value)) (fallback : α)
    (read : Document → Option α) :
    part? ((writtenMembers claims.memberValues).map fun member => (member.1, ofJson member.2)) name
      fallback read = value.elim (some fallback) fun value => read (ofJson value) := by
  have distinct : (claims.memberValues.map (·.1)).Nodup := memberNames_nodup
  rw [part?_ofJson, lookup_writtenMembers distinct (List.mem_of_getElem? place)]
  cases value with
  | none => rfl
  | some value => rfl

/-- A member that may be missing is read as what is written, or as nothing. -/
theorem part?_orNull?_written {α : Type} {i : Nat} {name : String} {value : Option α}
    {write : α → Json} (place : claims.memberValues[i]? = some (name, value.map write))
    {read : Document → Option α} (reads : ∀ given, value = some given →
      ofJson (write given) ≠ .null ∧ read (ofJson (write given)) = some given) :
    part? ((writtenMembers claims.memberValues).map fun member => (member.1, ofJson member.2)) name
      none (orNull? read) = some value := by
  rw [part?_written place]
  cases value with
  | none => rfl
  | some given =>
    obtain ⟨notNull, same⟩ := reads given rfl
    rw [Option.map_some, Option.elim_some, Document.orNull?_of_ne_null notNull, same]
    rfl

theorem part?_groups_written :
    part? ((writtenMembers claims.memberValues).map fun member => (member.1, ofJson member.2))
      "groups" [] (orDefault? [] Document.texts?) = some claims.groups := by
  have place : claims.memberValues[4]? = some ("groups",
      if claims.groups.isEmpty then none else some (stringsJson claims.groups)) := rfl
  rw [part?_written place]
  split
  · next empty => exact congrArg some (List.isEmpty_iff.mp empty).symm
  · exact Document.orDefault?_eq_some_iff.mpr (.inr ⟨nofun, texts?_ofJson claims.groups⟩)

/-- Claims are read as they are written, if the audience is. -/
theorem ofDocument?_toJson (stable : ∀ audience, claims.audience = some audience →
    ofJson audience ≠ .null ∧
      (ofJson audience).toJson? (Document.depthLimit - 1) = some audience) :
    ofDocument? (ofJson claims.toJson) = some claims := by
  have listed : ((writtenMembers claims.memberValues).map (·.1)).Sublist memberNames :=
    writtenMembers_sublist claims.memberValues
  have audience_place : claims.memberValues[10]? = some ("aud", claims.audience.map id) := by
    rw [Option.map_id]
    rfl
  rw [toJson_eq]
  refine ofDocument?_eq_some_iff.mpr ⟨_, record?_ofJson memberNames_nodup listed, ?_⟩
  -- The numbers are the places in `memberValues`; what is always written cannot be missing.
  exact {
    subject := part?_written (i := 0) rfl _ _
    organisation := part?_written (i := 1) rfl _ _
    tokenType := part?_written (i := 2) rfl _ _
    permissions := (part?_written (i := 3) rfl _ _).trans <|
      Document.orDefault?_eq_some_iff.mpr (.inr ⟨nofun, permissions?_ofJson claims.permissions⟩)
    groups := part?_groups_written
    userInfo := part?_orNull?_written (i := 5) rfl fun info _ => ⟨nofun, userInfo?_ofJson info⟩
    expiresAt := part?_orNull?_written (i := 6) rfl fun time _ =>
      ⟨nofun, Document.int64?_ofJson time⟩
    issuedAt := part?_orNull?_written (i := 7) rfl fun time _ =>
      ⟨nofun, Document.int64?_ofJson time⟩
    notBefore := part?_orNull?_written (i := 8) rfl fun time _ =>
      ⟨nofun, Document.int64?_ofJson time⟩
    issuer := part?_orNull?_written (i := 9) rfl fun issuer _ => ⟨nofun, rfl⟩
    audience := part?_orNull?_written audience_place fun audience held => stable audience held
    tokenId := part?_orNull?_written (i := 11) rfl fun id _ => ⟨nofun, rfl⟩ }

theorem isFloatFree_of_map {α : Type} {write : α → Json}
    (free : ∀ given, (write given).isFloatFree = true) {value : Option α} {held : Json}
    (found : value.map write = some held) : held.isFloatFree = true := by
  obtain ⟨given, -, rfl⟩ := Option.map_eq_some_iff.mp found
  exact free given

/-- Only the audience may have doubles in it. -/
theorem isFloatFree_toJson
    (exact : ∀ audience, claims.audience = some audience → audience.isFloatFree = true) :
    claims.toJson.isFloatFree = true := by
  rw [toJson_eq]
  refine Json.membersFloatFree_iff.mpr fun member written => ?_
  obtain ⟨⟨name, value⟩, known, listed⟩ := List.mem_flatMap.mp written
  obtain ⟨held, given, rfl⟩ := List.mem_map.mp listed
  rw [Option.mem_toList] at given
  change held.isFloatFree = true
  simp only [memberValues, List.mem_cons, Prod.mk.injEq, List.not_mem_nil, or_false] at known
  rcases known with ⟨-, rfl⟩ | ⟨-, rfl⟩ | ⟨-, rfl⟩ | ⟨-, rfl⟩ | ⟨-, rfl⟩ | ⟨-, rfl⟩ | ⟨-, rfl⟩ |
    ⟨-, rfl⟩ | ⟨-, rfl⟩ | ⟨-, rfl⟩ | ⟨-, rfl⟩ | ⟨-, rfl⟩
  · cases given
    rfl
  · cases given
    rfl
  · cases given
    rfl
  · cases given
    exact isFloatFree_permissionsJson claims.permissions
  · split at given
    · cases given
    · cases given
      exact isFloatFree_stringsJson claims.groups
  · exact isFloatFree_of_map (fun info => rfl) given
  · exact isFloatFree_of_map (fun time => rfl) given
  · exact isFloatFree_of_map (fun time => rfl) given
  · exact isFloatFree_of_map (fun time => rfl) given
  · exact isFloatFree_of_map (fun issuer => rfl) given
  · exact exact held given
  · exact isFloatFree_of_map (fun id => rfl) given

/-- A value that was read for an audience is read again, if there are no doubles in it. -/
theorem audience_stable {document : Document} (read : ofDocument? document = some claims)
    {audience : Json} (held : claims.audience = some audience)
    (exact : audience.isFloatFree = true) : ofJson audience ≠ .null ∧
      (ofJson audience).toJson? (Document.depthLimit - 1) = some audience := by
  obtain ⟨parts, record, from_parts⟩ := ofDocument?_eq_some_iff.mp read
  have part := from_parts.audience
  rw [held] at part
  rcases Document.part?_eq_some_iff.mp part with ⟨value, found, given⟩ | ⟨missing, none⟩
  · have notNull : value ≠ .null := by
      rintro rfl
      cases given
    rw [Document.orNull?_of_ne_null notNull, Option.map_eq_some_iff] at given
    obtain ⟨audience', given, same⟩ := given
    cases same
    refine ⟨fun null => notNull ?_, Document.toJson?_ofJson value given exact⟩
    exact Document.eq_null_of_toJson? (Document.ofJson_eq_null_iff.mp null ▸ given)
  · cases none

/-- Claims that were read are read again from their text, which is written of them again. -/
theorem ofBytes?_text {bytes : List UInt8} (accepted : ofBytes? bytes = some claims)
    (exact : ∀ audience, claims.audience = some audience → audience.isFloatFree = true) :
    ofBytes? (Text.Utf8.encode claims.text) = some claims := by
  obtain ⟨document, -, read⟩ := ofBytes?_eq_some_iff.mp accepted
  have reread := ofDocument?_toJson fun audience held =>
    audience_stable read held (exact audience held)
  exact ofBytes?_eq_some_iff.mpr ⟨_, Document.ofBytes?_text (isFloatFree_toJson exact), reread⟩

end Claims

end BearerGate
