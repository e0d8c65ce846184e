import BearerGate.Proofs.Net.Url.KeySet
import BearerGate.Proofs.Settings.Variables

/-!
# Where the key set is fetched

The key set of an identity service is fetched below the address that the settings give
(`Url.Below`), and slashes at the end of that address do not count
(`Settings.keyEndpoint_below`). This needs an address that ends in its path, since what is written
behind a query or a fragment belongs to it (`Settings.keyEndpoint_behind_query`), and one that is
read as it is written (`Url.Steady`).
-/

namespace BearerGate

/-- An address is below that of a service: on the same host, and behind its path. -/
structure Url.Below (service endpoint : Url) : Prop where
  scheme : endpoint.scheme = service.scheme
  user : endpoint.user = service.user
  password : endpoint.password = service.password
  /-- Only a host without a name may get lost. -/
  host : endpoint.host = service.host ∨ service.host = some ownHost ∧ endpoint.host = none
  port : endpoint.port = service.port
  path : endpoint.path.text = Text.dropTrailingSlashes service.path.text ++ "/v1/jwks"
  query : endpoint.query = none
  fragment : endpoint.fragment = none

/-- Two addresses differ in nothing but slashes at the end of their paths. -/
structure Url.AlikeButSlashes (url other : Url) : Prop where
  scheme : other.scheme = url.scheme
  user : other.user = url.user
  password : other.password = url.password
  host : other.host = url.host
  port : other.port = url.port
  path : Text.dropTrailingSlashes other.path.text = Text.dropTrailingSlashes url.path.text
  query : other.query = url.query
  fragment : other.fragment = url.fragment

theorem Url.keySet_below {url : Url} (kept : url.Kept) (noQuery : url.query = none)
    (noFragment : url.fragment = none) : url.Below url.keySet := by
  refine ⟨rfl, rfl, rfl, ?_, rfl, UrlPath.text_keySet kept.path, noQuery, noFragment⟩
  unfold keySet
  dsimp only
  split
  · cases named : url.host with
    | none => exact .inl rfl
    | some host =>
      by_cases own : host = ownHost
      · subst own
        exact .inr ⟨rfl, rfl⟩
      · exact .inl (Option.filter_eq_some_iff.mpr ⟨rfl, decide_eq_true own⟩)
  · exact .inl rfl

theorem Url.AlikeButSlashes.keySet_eq {url other : Url} (alike : url.AlikeButSlashes other)
    (kept : url.Kept) (also : other.Kept) : other.keySet = url.keySet := by
  have path := UrlPath.keySet_congr also.path kept.path alike.path
  unfold keySet
  rw [alike.scheme, alike.host, alike.path, path, alike.user, alike.password, alike.port,
    alike.query, alike.fragment]

namespace Settings

/-- An address that the settings give has been read. -/
theorem kept_of_serviceUrl {lookup : Lookup} {settings : Settings} {url : Url}
    (accepted : ofLookup lookup = .ok settings) (given : settings.serviceUrl = some url) :
    url.Kept := by
  have gives := (ofLookup_eq_ok_iff.mp accepted).serviceUrl
  rw [given] at gives
  cases gives with
  | value _ _ denotes =>
    obtain ⟨read, parsed, same⟩ := denotes
    exact Option.some.inj same ▸ Url.kept_of_parse parsed

/-- The key set is fetched below the service, wherever its address comes from: the address of the
key set can be read, and is that of any other service that differs in slashes at the end only. -/
theorem keyEndpoint_below {lookup : Lookup} {settings : Settings} {url : Url}
    (accepted : ofLookup lookup = .ok settings) (given : settings.serviceUrl = some url)
    (noQuery : url.query = none) (noFragment : url.fragment = none) (steady : url.Steady) :
    ∃ text endpoint, settings.keyEndpoint? = some text ∧ Url.parse text = .ok endpoint ∧
      url.Below endpoint ∧
      ∀ lookup' settings' other, ofLookup lookup' = .ok settings' →
        settings'.serviceUrl = some other → url.AlikeButSlashes other →
          settings'.keyEndpoint?.map Url.parse = some (.ok endpoint) := by
  have kept := kept_of_serviceUrl accepted given
  have below := steady.keySet
  refine ⟨jwksEndpoint url.text, url.keySet, ?_, Url.parse_keySet kept noQuery noFragment below,
    Url.keySet_below kept noQuery noFragment, ?_⟩
  · unfold keyEndpoint?
    rw [given]
    rfl
  · intro lookup' settings' other accepted' given' alike
    have also := kept_of_serviceUrl accepted' given'
    have same := alike.keySet_eq kept also
    have read := Url.parse_keySet also (alike.query.trans noQuery)
      (alike.fragment.trans noFragment) (same ▸ below)
    unfold keyEndpoint?
    rw [given', ← same, ← read]
    rfl

/-- A lookup of nothing but the address of the service. -/
def service (address : String) : Lookup := fun name =>
  List.lookup name [("IMAS_URL", address)]

/-- The settings of which only the service is given. -/
def ofService (url : Url) : Settings :=
  ⟨some url, .ofSeconds 600, .ofSeconds 10, .ofSeconds 60, IpAddress.unspecified, 8081, 8090,
    .pretty⟩

/-- A service whose address has a user, a password, a port and a path with the given segments. -/
def guarded (names : List String) : Url :=
  ⟨"https", "user", "pw", some (.name "id.example"), some 8443, .segments names, none, none⟩

theorem keyEndpoint_below_guarded :
    ofLookup (service "https://user:pw@ID.example:8443/base//") =
        .ok (ofService (guarded ["base", "", ""])) ∧
      (guarded ["base", "", ""]).Steady ∧
      ∃ text endpoint, (ofService (guarded ["base", "", ""])).keyEndpoint? = some text ∧
        Url.parse text = .ok endpoint ∧ (guarded ["base", "", ""]).Below endpoint ∧
        (ofService (guarded ["base"])).keyEndpoint?.map Url.parse = some (.ok endpoint) := by
  have accepted : ofLookup (service "https://user:pw@ID.example:8443/base//") =
      .ok (ofService (guarded ["base", "", ""])) := by decide +kernel
  have also : ofLookup (service "https://user:pw@id.example:8443/base") =
      .ok (ofService (guarded ["base"])) := by decide +kernel
  have steady : (guarded ["base", "", ""]).Steady := by
    refine ⟨?_, nofun, nofun⟩
    rintro host ⟨⟩ - foreign
    exact absurd foreign (by decide +kernel)
  have alike : (guarded ["base", "", ""]).AlikeButSlashes (guarded ["base"]) :=
    ⟨rfl, rfl, rfl, rfl, rfl, by decide +kernel, rfl, rfl⟩
  obtain ⟨text, endpoint, written, read, below, others⟩ :=
    keyEndpoint_below accepted rfl rfl rfl steady
  exact ⟨accepted, steady, text, endpoint, written, read, below, others _ _ _ also rfl alike⟩

/-- A service whose address ends in a query. -/
def queried (query : String) : Url :=
  ⟨"https", "", "", some (.name "id.example"), none, .segments [""], some query, none⟩

/-- Behind a query, the key set is a part of the query. -/
theorem keyEndpoint_behind_query :
    ofLookup (service "https://id.example/?v=1") = .ok (ofService (queried "v=1")) ∧
      (ofService (queried "v=1")).keyEndpoint? = some "https://id.example/?v=1/v1/jwks" ∧
      Url.parse "https://id.example/?v=1/v1/jwks" = .ok (queried "v=1/v1/jwks") ∧
      (queried "v=1/v1/jwks").path.text ≠
        Text.dropTrailingSlashes (queried "v=1").path.text ++ "/v1/jwks" := by
  refine ⟨?_, ?_, ?_, ?_⟩
  · decide +kernel
  · decide +kernel
  · decide +kernel
  · decide +kernel

end Settings

end BearerGate
