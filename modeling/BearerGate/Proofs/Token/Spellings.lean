import BearerGate.Proofs.Json.Edits
import BearerGate.Proofs.Token.Rereading

/-!
# One meaning in several spellings

Claims have more than one written form. A collection with nothing in it may be written as null, as
an empty container or not at all, so a step from one of these to another leaves the claims as they
are (`Claims.Respells.ofDocument?_eq`). What is written of claims is one of the forms, and the same
each time: it is read as the same claims again.
-/

namespace BearerGate

open Json (Document StringContent)
open Json.Document (Puts part? part?_congr orDefault? slot)

namespace Claims

/-- What may stand for a collection with nothing in it: null, the empty container, or nothing. -/
inductive Blank (container : Document) : Option Document → Prop
  | missing : Blank container none
  | null : Blank container (some .null)
  | empty : Blank container (some container)

/-- The second document is the first with one collection, of which the claims have nothing, spelled
in another way. -/
inductive Respells (claims : Claims) : Document → Document → Prop
  | permissions {old new : Option Document} {document other : Document}
    (nothing : claims.permissions = .none) (blank : Blank (.object []) new)
    (puts : Puts memberNames "permissions" old new document other) :
    Respells claims document other
  | groups {old new : Option Document} {document other : Document}
    (nothing : claims.groups = []) (blank : Blank (.array []) new)
    (puts : Puts memberNames "groups" old new document other) : Respells claims document other
  | org {old new : Option Document} {inner inner' document other : Document}
    (nothing : claims.permissions.org = .empty) (blank : Blank (.array []) new)
    (inside : Puts permissionNames "org" old new inner inner')
    (puts : Puts memberNames "permissions" (some inner) (some inner') document other) :
    Respells claims document other
  | units {old new : Option Document} {inner inner' document other : Document}
    (nothing : claims.permissions.units = .empty) (blank : Blank (.object []) new)
    (inside : Puts permissionNames "units" old new inner inner')
    (puts : Puts memberNames "permissions" (some inner) (some inner') document other) :
    Respells claims document other
  | unit {unit : StringContent} {before after : List (StringContent × Document)}
    {own own' inner inner' document other : Document} (nothing : Blank (.array []) (some own))
    (blank : Blank (.array []) (some own'))
    (inside : Puts permissionNames "units" (some (.object (before ++ (unit, own) :: after)))
      (some (.object (before ++ (unit, own') :: after))) inner inner')
    (puts : Puts memberNames "permissions" (some inner) (some inner') document other) :
    Respells claims document other

/-! ## Blank parts -/

theorem Blank.part?_eq {α : Type} {container : Document} {value : Option Document}
    (blank : Blank container value) {parts : List (String × Document)} {name : String}
    (found : parts.lookup name = value) {fallback : α} {read : Document → Option α}
    (empty : orDefault? fallback read container = some fallback) :
    part? parts name fallback (orDefault? fallback read) = some fallback := by
  unfold part?
  rw [found]
  cases blank with
  | missing => rfl
  | null => rfl
  | empty => exact empty

theorem Blank.nameSet?_eq {own : Document} (blank : Blank (.array []) (some own)) :
    orDefault? .empty nameSet? own = some .empty := by
  cases blank with
  | null => rfl
  | empty => rfl

/-- Which of the blank forms a unit has does not show. -/
theorem units?_of_blank {own own' : Document} (nothing : Blank (.array []) (some own))
    (blank : Blank (.array []) (some own')) (unit : StringContent)
    (before after : List (StringContent × Document)) :
    units? (.object (before ++ (unit, own') :: after)) =
      units? (.object (before ++ (unit, own) :: after)) := by
  unfold units? Document.members?
  simp only [List.mapM_append, List.mapM_cons]
  cases before.mapM fun m => m.1.text?.map fun name => (name, m.2) with
  | none => rfl
  | some front =>
    cases unit.text? with
    | none => rfl
    | some name =>
      cases after.mapM fun m => m.1.text?.map fun name => (name, m.2) with
      | none => rfl
      | some back =>
        simp only [Option.bind_eq_bind, Option.bind_some, Option.map_some, Option.pure_def,
          List.mapM_append, List.mapM_cons, nothing.nameSet?_eq, blank.nameSet?_eq]

/-- Claims are the same if all is read as before. -/
theorem ReadFrom.of_agree {claims : Claims} {parts parts' : List (String × Document)}
    (read : claims.ReadFrom parts)
    (same : ∀ key ∈ memberNames, key ≠ "permissions" → key ≠ "groups" →
      parts'.lookup key = parts.lookup key)
    (permissions : part? parts' "permissions" .none (orDefault? .none permissions?) =
      some claims.permissions)
    (groups : part? parts' "groups" [] (orDefault? [] Document.texts?) = some claims.groups) :
    claims.ReadFrom parts' := by
  have kept {α : Type} {name : String} {fallback : α} {reader : Document → Option α} {result : α}
      (other : name ∈ memberNames ∧ name ≠ "permissions" ∧ name ≠ "groups")
      (before : part? parts name fallback reader = some result) :
      part? parts' name fallback reader = some result :=
    (part?_congr (same name other.1 other.2.1 other.2.2) fallback reader).trans before
  exact {
    subject := kept (by decide) read.subject
    organisation := kept (by decide) read.organisation
    tokenType := kept (by decide) read.tokenType
    permissions := permissions
    groups := groups
    userInfo := kept (by decide) read.userInfo
    expiresAt := kept (by decide) read.expiresAt
    issuedAt := kept (by decide) read.issuedAt
    notBefore := kept (by decide) read.notBefore
    issuer := kept (by decide) read.issuer
    audience := kept (by decide) read.audience
    tokenId := kept (by decide) read.tokenId }

/-! ## Steps -/

/-- The permissions that a document gives are those that its part gives. -/
theorem permissions?_of_lookup {claims : Claims} {parts : List (String × Document)}
    (read : claims.ReadFrom parts) {inner : Document}
    (found : parts.lookup "permissions" = some inner) (given : inner ≠ .null) :
    permissions? inner = some claims.permissions := by
  rcases Document.part?_orDefault?_eq_some_iff.mp read.permissions with
    ⟨value, here, -, read⟩ | ⟨missing, -⟩
  · obtain rfl := Option.some.inj (found.symm.trans here)
    exact read
  · exact (given (missing inner found)).elim

/-- Claims are the same if their permissions are. -/
theorem ofDocument?_of_inner {claims : Claims} {inner inner' document other : Document}
    (read : ofDocument? document = some claims) (given : inner ≠ .null)
    (puts : Puts memberNames "permissions" (some inner) (some inner') document other)
    (same : permissions? inner = some claims.permissions →
      orDefault? .none permissions? inner' = some claims.permissions) :
    ofDocument? other = some claims := by
  obtain ⟨parts, record, from_parts⟩ := ofDocument?_eq_some_iff.mp read
  obtain ⟨parts', record', was, is, others⟩ :=
    puts.exists_parts memberNames_nodup (by decide) record
  have inner_read := permissions?_of_lookup from_parts was given
  refine ofDocument?_eq_some_iff.mpr ⟨parts', record', from_parts.of_agree
    (fun key known apart _ => others key known apart) ?_ ?_⟩
  · unfold part?
    rw [is]
    exact same inner_read
  · exact (part?_congr (others "groups" (by decide) (by decide)) _ _).trans from_parts.groups

/-- Permissions are the same if the organisation's are. -/
theorem permissions?_of_org {permissions : Permissions} {old new : Option Document}
    {inner inner' : Document} (inside : Puts permissionNames "org" old new inner inner')
    (same : ∀ parts : List (String × Document), parts.lookup "org" = new →
      part? parts "org" .empty (orDefault? .empty nameSet?) = some permissions.org)
    (read : permissions? inner = some permissions) :
    orDefault? .none permissions? inner' = some permissions := by
  obtain ⟨parts, record, org, units⟩ := permissions?_eq_some_iff.mp read
  obtain ⟨parts', record', -, is, others⟩ :=
    inside.exists_parts permissionNames_nodup (by decide) record
  have units' := (part?_congr (others "units" (by decide) (by decide)) _ _).trans units
  exact Document.orDefault?_eq_some_iff.mpr (.inr ⟨inside.ne_null.2,
    permissions?_eq_some_iff.mpr ⟨parts', record', same parts' is, units'⟩⟩)

/-- Permissions are the same if those of the units are. -/
theorem permissions?_of_units {permissions : Permissions} {old new : Option Document}
    {inner inner' : Document} (inside : Puts permissionNames "units" old new inner inner')
    (same : ∀ parts parts' : List (String × Document), parts.lookup "units" = old →
      parts'.lookup "units" = new →
      part? parts "units" .empty (orDefault? .empty units?) = some permissions.units →
      part? parts' "units" .empty (orDefault? .empty units?) = some permissions.units)
    (read : permissions? inner = some permissions) :
    orDefault? .none permissions? inner' = some permissions := by
  obtain ⟨parts, record, org, units⟩ := permissions?_eq_some_iff.mp read
  obtain ⟨parts', record', was, is, others⟩ :=
    inside.exists_parts permissionNames_nodup (by decide) record
  have org' := (part?_congr (others "org" (by decide) (by decide)) _ _).trans org
  exact Document.orDefault?_eq_some_iff.mpr (.inr ⟨inside.ne_null.2,
    permissions?_eq_some_iff.mpr ⟨parts', record', org', same parts parts' was is units⟩⟩)

/-- A step from one spelling to another does not show in the claims. -/
theorem Respells.ofDocument?_eq {claims : Claims} {document other : Document}
    (respells : claims.Respells document other) (read : ofDocument? document = some claims) :
    ofDocument? other = some claims := by
  cases respells with
  | permissions nothing blank puts =>
    -- Only the part itself is read anew; that the claims have nothing of it is what it gives.
    obtain ⟨parts, record, from_parts⟩ := ofDocument?_eq_some_iff.mp read
    obtain ⟨parts', record', -, is, others⟩ :=
      puts.exists_parts memberNames_nodup (by decide) record
    refine ofDocument?_eq_some_iff.mpr ⟨parts', record', from_parts.of_agree
      (fun key known apart _ => others key known apart) ?_ ?_⟩
    · rw [nothing]
      exact blank.part?_eq is rfl
    · exact (part?_congr (others "groups" (by decide) (by decide)) _ _).trans from_parts.groups
  | groups nothing blank puts =>
    obtain ⟨parts, record, from_parts⟩ := ofDocument?_eq_some_iff.mp read
    obtain ⟨parts', record', -, is, others⟩ :=
      puts.exists_parts memberNames_nodup (by decide) record
    refine ofDocument?_eq_some_iff.mpr ⟨parts', record', from_parts.of_agree
      (fun key known _ apart => others key known apart) ?_ ?_⟩
    · exact (part?_congr (others "permissions" (by decide) (by decide)) _ _).trans
        from_parts.permissions
    · rw [nothing]
      exact blank.part?_eq is rfl
  | org nothing blank inside puts =>
    refine ofDocument?_of_inner read inside.ne_null.1 puts (permissions?_of_org inside ?_)
    intro parts is
    rw [nothing]
    exact blank.part?_eq is rfl
  | units nothing blank inside puts =>
    refine ofDocument?_of_inner read inside.ne_null.1 puts (permissions?_of_units inside ?_)
    intro parts parts' was is units
    rw [nothing]
    exact blank.part?_eq is rfl
  | @unit unit before after own own' inner inner' _ _ nothing blank inside puts =>
    refine ofDocument?_of_inner read inside.ne_null.1 puts (permissions?_of_units inside ?_)
    intro parts parts' was is units
    -- The claims may have other permissions for this unit, if a later member gives them.
    have same := units?_of_blank nothing blank unit before after
    unfold part? at units ⊢
    rw [was] at units
    rw [is, ← units]
    exact congrArg (fun units => (units.map some).map (Option.getD · .empty)) same

theorem ofDocument?_of_respellings {claims : Claims} {document other : Document}
    (respells : Relation.ReflTransGen claims.Respells document other)
    (read : ofDocument? document = some claims) : ofDocument? other = some claims := by
  induction respells with
  | refl => exact read
  | tail _ step ih => exact step.ofDocument?_eq ih

/-- Claims that were read are written in a text that is read as the same claims, and written again
is the same text, if there are no doubles in the audience. And they are read from every text whose
document comes from that of the first by spelling collections with nothing in them in other ways. -/
theorem ofBytes?_respelled {bytes : List UInt8} {claims : Claims}
    (accepted : ofBytes? bytes = some claims) :
    ((∀ audience, claims.audience = some audience → audience.isFloatFree = true) →
      ofBytes? (Text.Utf8.encode claims.text) = some claims ∧
      (ofBytes? (Text.Utf8.encode claims.text)).map text = some claims.text) ∧
    ∀ bytes' document other, Document.ofBytes? bytes = some document →
      Document.ofBytes? bytes' = some other →
      Relation.ReflTransGen claims.Respells document other → ofBytes? bytes' = some claims := by
  constructor
  · intro exact
    have again := ofBytes?_text accepted exact
    exact ⟨again, by rw [again, Option.map_some]⟩
  · intro bytes' document other parsed parsed' respells
    obtain ⟨document', reparsed, read⟩ := ofBytes?_eq_some_iff.mp accepted
    obtain rfl := Option.some.inj (parsed.symm.trans reparsed)
    exact ofBytes?_eq_some_iff.mpr ⟨other, parsed', ofDocument?_of_respellings respells read⟩

/-- Claims with collections that are written as null. -/
def nullBody : List UInt8 :=
  Text.Utf8.encode <|
    "\x7b\"sub\":\"u\",\"groups\":null,\"aud\":[\"a\",-7]," ++
      "\"permissions\":\x7b\"units\":\x7b\"mi6\":null\x7d,\"org\":null\x7d\x7d"

/-- The same claims without the members that would be null, and with an empty list for the unit. -/
def plainBody : List UInt8 :=
  Text.Utf8.encode <|
    "\x7b\"sub\":\"u\",\"aud\":[\"a\",-7]," ++
      "\"permissions\":\x7b\"units\":\x7b\"mi6\":[]\x7d\x7d\x7d"

/-- Permissions with one unit. -/
def blankPermissions (own : Document) (org : Option Document) : Document :=
  .object ([(.text "units", .object [(.text "mi6", own)])] ++ slot (.text "org") org ++ [])

/-- The document of such claims. -/
def blankDocument (groups : Option Document) (permissions : Document) : Document :=
  .object ([(.text "sub", .string (.text "u"))] ++ slot (.text "groups") groups ++
    [(.text "aud", .array [.string (.text "a"), .number ⟨true, [7], [], none⟩]),
      (.text "permissions", permissions)])

theorem puts_permissions (old new : Document) : Puts memberNames "permissions" (some old) (some new)
    (blankDocument none old) (blankDocument none new) :=
  @Puts.named _ _ _ _ (.text "permissions") rfl
    [(.text "sub", .string (.text "u")),
      (.text "aud", .array [.string (.text "a"), .number ⟨true, [7], [], none⟩])] [] (by decide)

theorem ofBytes?_respelled_null :
    ∃ claims, ofBytes? nullBody = some claims ∧ ofBytes? plainBody = some claims ∧
      ofBytes? (Text.Utf8.encode claims.text) = some claims := by
  have parsed : Document.ofBytes? nullBody =
      some (blankDocument (some .null) (blankPermissions .null (some .null))) := by
    apply Document.ofBytes?_of_text (.object [("sub", .string "u"), ("groups", .null),
      ("aud", .array [.string "a", .int (-7)]),
      ("permissions", .object [("units", .object [("mi6", .null)]), ("org", .null)])])
    · decide +kernel
    · rfl
  have parsed' : Document.ofBytes? plainBody =
      some (blankDocument none (blankPermissions (.array []) none)) := by
    apply Document.ofBytes?_of_text (.object [("sub", .string "u"),
      ("aud", .array [.string "a", .int (-7)]),
      ("permissions", .object [("units", .object [("mi6", .array [])])])])
    · decide +kernel
    · rfl
  have readable : (ofDocument? (blankDocument (some .null)
      (blankPermissions .null (some .null)))).isSome = true := rfl
  obtain ⟨claims, read⟩ := Option.isSome_iff_exists.mp readable
  have accepted := ofBytes?_eq_some_iff.mpr ⟨_, parsed, read⟩
  have exact : ∀ audience, claims.audience = some audience → audience.isFloatFree = true := by
    cases read
    rintro audience ⟨⟩
    rfl
  have no_groups : claims.groups = [] := by
    cases read
    rfl
  have no_org : claims.permissions.org = .empty := by
    cases read
    rfl
  have groups : claims.Respells (blankDocument (some .null) (blankPermissions .null (some .null)))
      (blankDocument none (blankPermissions .null (some .null))) :=
    .groups no_groups .missing (.named rfl (by decide))
  have org : claims.Respells (blankDocument none (blankPermissions .null (some .null)))
      (blankDocument none (blankPermissions .null none)) :=
    .org no_org .missing (.named rfl (by decide)) (puts_permissions _ _)
  have unit : claims.Respells (blankDocument none (blankPermissions .null none))
      (blankDocument none (blankPermissions (.array []) none)) :=
    @Respells.unit claims (.text "mi6") [] [] _ _ _ _ _ _ .null .empty
      (@Puts.named _ _ _ _ (.text "units") rfl [] [] (by decide)) (puts_permissions _ _)
  obtain ⟨round, respelled⟩ := ofBytes?_respelled accepted
  exact ⟨claims, accepted, respelled _ _ _ parsed parsed'
    (((Relation.ReflTransGen.single groups).tail org).tail unit), (round exact).1⟩

end Claims

end BearerGate
