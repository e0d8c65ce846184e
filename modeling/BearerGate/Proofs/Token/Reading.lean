import BearerGate.Proofs.Dict
import BearerGate.Proofs.Json.Record
import BearerGate.Token.Claims
import Mathlib.Data.List.Induction

/-!
# What claims are read from

Claims are read from the parts of a record, each part by itself, and so are permissions and the
details of a holder. The names of a record are distinct, so each part is the one member of its name
or the one item in its place.
-/

namespace BearerGate

open Json (Document StringContent)

namespace Claims

open Json.Document (part? orDefault? orNull?)

/-- The names of the members that permissions are read from. -/
def permissionNames : List String := ["org", "units"]

/-- The names of the members that the details of a holder are read from. -/
def userInfoNames : List String := ["given_name", "family_name", "email", "picture"]

theorem memberNames_nodup : memberNames.Nodup := by decide

theorem permissionNames_nodup : permissionNames.Nodup := by decide

/-- The claims are what is read from the parts of a record. -/
structure ReadFrom (claims : Claims) (parts : List (String × Document)) : Prop where
  subject : part? parts "sub" "" Document.text? = some claims.subject
  organisation : part? parts "org" "" Document.text? = some claims.organisation
  tokenType : part? parts "ntt" "" Document.text? = some claims.tokenType
  permissions : part? parts "permissions" .none (orDefault? .none permissions?) =
    some claims.permissions
  groups : part? parts "groups" [] (orDefault? [] Document.texts?) = some claims.groups
  userInfo : part? parts "userinfo" none (orNull? userInfo?) = some claims.userInfo
  expiresAt : part? parts "exp" none (orNull? Document.int64?) = some claims.expiresAt
  issuedAt : part? parts "iat" none (orNull? Document.int64?) = some claims.issuedAt
  notBefore : part? parts "nbf" none (orNull? Document.int64?) = some claims.notBefore
  issuer : part? parts "iss" none (orNull? Document.text?) = some claims.issuer
  audience : part? parts "aud" none (orNull? (·.toJson? (Document.depthLimit - 1))) =
    some claims.audience
  tokenId : part? parts "jti" none (orNull? Document.text?) = some claims.tokenId

theorem ofDocument?_eq_some_iff {document : Document} {claims : Claims} :
    ofDocument? document = some claims ↔
      ∃ parts, document.record? memberNames = some parts ∧ claims.ReadFrom parts := by
  constructor
  · intro read
    obtain ⟨parts, record, read⟩ := Option.bind_eq_some_iff.mp read
    obtain ⟨subject, hs, read⟩ := Option.bind_eq_some_iff.mp read
    obtain ⟨organisation, ho, read⟩ := Option.bind_eq_some_iff.mp read
    obtain ⟨tokenType, ht, read⟩ := Option.bind_eq_some_iff.mp read
    obtain ⟨permissions, hp, read⟩ := Option.bind_eq_some_iff.mp read
    obtain ⟨groups, hg, read⟩ := Option.bind_eq_some_iff.mp read
    obtain ⟨userInfo, hu, read⟩ := Option.bind_eq_some_iff.mp read
    obtain ⟨expiresAt, he, read⟩ := Option.bind_eq_some_iff.mp read
    obtain ⟨issuedAt, hi, read⟩ := Option.bind_eq_some_iff.mp read
    obtain ⟨notBefore, hn, read⟩ := Option.bind_eq_some_iff.mp read
    obtain ⟨issuer, hr, read⟩ := Option.bind_eq_some_iff.mp read
    obtain ⟨audience, ha, read⟩ := Option.bind_eq_some_iff.mp read
    obtain ⟨tokenId, hj, read⟩ := Option.bind_eq_some_iff.mp read
    cases read
    exact ⟨parts, record, hs, ho, ht, hp, hg, hu, he, hi, hn, hr, ha, hj⟩
  · rintro ⟨parts, record, read⟩
    refine Option.bind_eq_some_iff.mpr ⟨parts, record, ?_⟩
    refine Option.bind_eq_some_iff.mpr ⟨_, read.subject, ?_⟩
    refine Option.bind_eq_some_iff.mpr ⟨_, read.organisation, ?_⟩
    refine Option.bind_eq_some_iff.mpr ⟨_, read.tokenType, ?_⟩
    refine Option.bind_eq_some_iff.mpr ⟨_, read.permissions, ?_⟩
    refine Option.bind_eq_some_iff.mpr ⟨_, read.groups, ?_⟩
    refine Option.bind_eq_some_iff.mpr ⟨_, read.userInfo, ?_⟩
    refine Option.bind_eq_some_iff.mpr ⟨_, read.expiresAt, ?_⟩
    refine Option.bind_eq_some_iff.mpr ⟨_, read.issuedAt, ?_⟩
    refine Option.bind_eq_some_iff.mpr ⟨_, read.notBefore, ?_⟩
    refine Option.bind_eq_some_iff.mpr ⟨_, read.issuer, ?_⟩
    refine Option.bind_eq_some_iff.mpr ⟨_, read.audience, ?_⟩
    refine Option.bind_eq_some_iff.mpr ⟨_, read.tokenId, ?_⟩
    rfl

theorem permissions?_eq_some_iff {document : Document} {permissions : Permissions} :
    permissions? document = some permissions ↔
      ∃ parts, document.record? permissionNames = some parts ∧
        part? parts "org" .empty (orDefault? .empty nameSet?) = some permissions.org ∧
        part? parts "units" .empty (orDefault? .empty units?) = some permissions.units := by
  constructor
  · intro read
    obtain ⟨parts, record, read⟩ := Option.bind_eq_some_iff.mp read
    obtain ⟨org, ho, read⟩ := Option.bind_eq_some_iff.mp read
    obtain ⟨units, hu, read⟩ := Option.bind_eq_some_iff.mp read
    cases read
    exact ⟨parts, record, ho, hu⟩
  · rintro ⟨parts, record, org, units⟩
    refine Option.bind_eq_some_iff.mpr ⟨parts, record, ?_⟩
    refine Option.bind_eq_some_iff.mpr ⟨_, org, ?_⟩
    exact Option.bind_eq_some_iff.mpr ⟨_, units, rfl⟩

theorem userInfo?_eq_some_iff {document : Document} {info : UserInfo} :
    userInfo? document = some info ↔
      ∃ parts, document.record? userInfoNames = some parts ∧
        part? parts "given_name" "" Document.text? = some info.givenName ∧
        part? parts "family_name" "" Document.text? = some info.familyName ∧
        part? parts "email" "" Document.text? = some info.email ∧
        part? parts "picture" "" Document.text? = some info.picture := by
  constructor
  · intro read
    obtain ⟨parts, record, read⟩ := Option.bind_eq_some_iff.mp read
    obtain ⟨givenName, hg, read⟩ := Option.bind_eq_some_iff.mp read
    obtain ⟨familyName, hf, read⟩ := Option.bind_eq_some_iff.mp read
    obtain ⟨email, he, read⟩ := Option.bind_eq_some_iff.mp read
    obtain ⟨picture, hp, read⟩ := Option.bind_eq_some_iff.mp read
    cases read
    exact ⟨parts, record, hg, hf, he, hp⟩
  · rintro ⟨parts, record, givenName, familyName, email, picture⟩
    refine Option.bind_eq_some_iff.mpr ⟨parts, record, ?_⟩
    refine Option.bind_eq_some_iff.mpr ⟨_, givenName, ?_⟩
    refine Option.bind_eq_some_iff.mpr ⟨_, familyName, ?_⟩
    refine Option.bind_eq_some_iff.mpr ⟨_, email, ?_⟩
    exact Option.bind_eq_some_iff.mpr ⟨_, picture, rfl⟩

/-- If each member is read by itself, what is had for a name is what is read of the last member of
that name. -/
theorem lookup_reverse_of_mapM {α : Type} {read : Document → Option α}
    {members : List (String × Document)} {pairs : List (String × α)}
    (taken : members.mapM (fun m => (read m.2).map fun value => (m.1, value)) = some pairs)
    (name : String) :
    (members.reverse.lookup name).map read = (pairs.reverse.lookup name).map some := by
  induction members using List.reverseRecOn generalizing pairs with
  | nil =>
    cases taken
    rfl
  | append_singleton earlier last ih =>
    rw [List.mapM_append] at taken
    obtain ⟨before, there, taken⟩ := Option.bind_eq_some_iff.mp taken
    obtain ⟨singleton, here, taken⟩ := Option.bind_eq_some_iff.mp taken
    cases taken
    rw [List.mapM_cons, List.mapM_nil] at here
    obtain ⟨pair, read_here, rest⟩ := Option.bind_eq_some_iff.mp here
    cases rest
    obtain ⟨value, read_value, rfl⟩ := Option.map_eq_some_iff.mp read_here
    rw [List.reverse_concat, List.reverse_concat, Dict.lookup_entry, Dict.lookup_entry]
    split
    · exact congrArg some read_value
    · exact ih there

/-- A unit has what is read of its last member, and nothing if it has none. -/
theorem get?_units? {document : Document} {units : Dict NameSet}
    (read : units? document = some units) (unit : String) :
    (∀ own, Document.LastMember unit document own →
        ∃ held, units.get? unit = some held ∧ orDefault? .empty nameSet? own = some held) ∧
      ∀ held, units.get? unit = some held → ∃ own, Document.LastMember unit document own := by
  obtain ⟨members, named, read⟩ := Option.bind_eq_some_iff.mp read
  obtain ⟨pairs, taken, read⟩ := Option.bind_eq_some_iff.mp read
  cases read
  cases document with
  | object given =>
    obtain ⟨-, rfl⟩ := Document.members?_object_eq_some_iff.mp named
    have same := lookup_reverse_of_mapM taken unit
    simp only [Dict.get?_ofList, ← Document.lookup_reverse_decodedMembers]
    constructor
    · intro own last
      rw [last, Option.map_some, eq_comm, Option.map_eq_some_iff] at same
      obtain ⟨held, holds, same⟩ := same
      exact ⟨held, holds, same.symm⟩
    · intro held found
      rw [found, Option.map_some, Option.map_eq_some_iff] at same
      obtain ⟨own, last, -⟩ := same
      exact ⟨own, last⟩
  | _ => cases named

theorem ofBytes?_eq_some_iff {bytes : List UInt8} {claims : Claims} :
    ofBytes? bytes = some claims ↔
      ∃ document, Document.ofBytes? bytes = some document ∧
        ofDocument? document = some claims :=
  Option.bind_eq_some_iff

end Claims

end BearerGate
