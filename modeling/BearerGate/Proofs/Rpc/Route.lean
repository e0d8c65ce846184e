import BearerGate.Proofs.Text.Split
import BearerGate.Server.Call

/-!
# Which paths denote routes

A path denotes a route just when it is the path of that route: the prefix, and behind it the service
and the method, each after a slash (`Route.parse?_eq_some_iff`). Service and method are neither
empty nor do they have slashes in them, so no path is that of two routes, although nothing is
assumed of the prefix. Parsing and writing paths are inverse to each other.

The prefix of a layer has no slashes at its end. Those that are given with it are left out, so they
do not change what the layer does (`CallLayer.withPrefix_slashes`).
-/

namespace BearerGate

/-! ## Slashes at the end -/

namespace Text

/-- So many slashes. -/
def slashes (count : Nat) : String :=
  String.ofList (List.replicate count '/')

theorem dropTrailingSlashes_append_slashes (text : String) (count : Nat) :
    dropTrailingSlashes (text ++ slashes count) = dropTrailingSlashes text := by
  have dropped : ∀ c ∈ List.replicate count '/', decide (c = '/') = true :=
    fun c found => decide_eq_true (List.eq_of_mem_replicate found)
  unfold dropTrailingSlashes slashes
  rw [String.toList_append, String.toList_ofList, List.reverse_append, List.reverse_replicate,
    List.dropWhile_append_of_pos dropped]

end Text

namespace Route

/-! ## Paths of routes -/

/-- What may stand between the slashes of a path. -/
structure IsSegment (segment : String) : Prop where
  filled : segment ≠ ""
  whole : '/' ∉ segment.toList

/-- The route can be told from its path. -/
structure WellFormed (route : Route) : Prop where
  service : IsSegment route.service
  method : IsSegment route.method

variable {path lead : String} {route other : Route}

theorem toList_path (lead : String) (route : Route) :
    (route.path lead).toList =
      lead.toList ++ '/' :: (route.service.toList ++ '/' :: route.method.toList) := by
  have slash : "/".toList = ['/'] := rfl
  unfold Route.path
  simp only [String.toList_append, slash, List.append_assoc, List.cons_append, List.nil_append]

theorem IsSegment.ofList {segment : List Char} (filled : segment.isEmpty = false)
    (whole : '/' ∉ segment) : IsSegment (String.ofList segment) := by
  constructor
  · intro empty
    have nothing : segment = [] := by rw [← String.toList_ofList (l := segment), empty]; rfl
    subst nothing
    cases filled
  · rwa [String.toList_ofList]

theorem IsSegment.isEmpty_eq_false {segment : String} (sound : IsSegment segment) :
    segment.toList.isEmpty = false := by
  rw [List.isEmpty_eq_false_iff]
  intro nothing
  exact sound.filled (String.toList_eq_nil_iff.mp nothing)

/-! ## Parsing -/

theorem wellFormed_of_parse? (parsed : parse? path lead = some route) :
    route.WellFormed ∧ path = route.path lead := by
  unfold parse? ofChars? at parsed
  rcases Option.bind_eq_some_iff.mp parsed with ⟨below, leadStripped, parsed⟩
  rcases Option.bind_eq_some_iff.mp parsed with ⟨rest, slashStripped, parsed⟩
  rcases Option.bind_eq_some_iff.mp parsed with ⟨⟨service, method⟩, split, parsed⟩
  dsimp only at parsed
  split at parsed
  · cases parsed
  · next sound =>
    cases parsed
    simp only [Bool.or_eq_true, not_or, Bool.not_eq_true, List.contains_eq_mem,
      decide_eq_false_iff_not] at sound
    rcases sound with ⟨⟨serviceFilled, methodFilled⟩, methodWhole⟩
    -- The service ends at the first slash, so that only the method is looked through for one.
    rcases Text.splitOnce_eq_some_iff.mp split with ⟨rest_eq, serviceWhole⟩
    refine ⟨⟨.ofList serviceFilled serviceWhole, .ofList methodFilled methodWhole⟩, ?_⟩
    apply String.toList_inj.mp
    rw [toList_path, String.toList_ofList, String.toList_ofList, ← rest_eq,
      Text.stripLead_eq_some_iff.mp leadStripped, Text.stripLead_eq_some_iff.mp slashStripped]
    rfl

theorem parse?_path (sound : route.WellFormed) (lead : String) :
    parse? (route.path lead) lead = some route := by
  have below : Text.stripLead lead.toList (route.path lead).toList =
      some ('/' :: (route.service.toList ++ '/' :: route.method.toList)) :=
    Text.stripLead_eq_some_iff.mpr (toList_path lead route)
  have split : Text.splitOnce '/' (route.service.toList ++ '/' :: route.method.toList) =
      some (route.service.toList, route.method.toList) :=
    Text.splitOnce_eq_some_iff.mpr ⟨rfl, sound.service.whole⟩
  have single : route.method.toList.contains '/' = false := by
    simpa using sound.method.whole
  unfold parse? ofChars?
  rw [below]
  simp only [Option.bind_eq_bind, Option.bind_some, Text.stripLead, if_true, split,
    sound.service.isEmpty_eq_false, sound.method.isEmpty_eq_false, single, Bool.or_self,
    Bool.false_eq_true, if_false, String.ofList_toList]
  rfl

theorem parse?_eq_some_iff :
    parse? path lead = some route ↔ route.WellFormed ∧ path = route.path lead := by
  constructor
  · exact wellFormed_of_parse?
  · rintro ⟨sound, rfl⟩
    exact parse?_path sound lead

theorem path_injective (sound : route.WellFormed) (sound' : other.WellFormed)
    (same : route.path lead = other.path lead) : route = other := by
  have parsed := parse?_path sound lead
  rw [same, parse?_path sound' lead] at parsed
  exact (Option.some.inj parsed).symm

theorem parse?_eq_none_iff :
    parse? path lead = none ↔ ∀ route : Route, route.WellFormed → path ≠ route.path lead := by
  constructor
  · rintro refused route sound rfl
    rw [parse?_path sound] at refused
    cases refused
  · intro foreign
    cases parsed : parse? path lead with
    | none => rfl
    | some route =>
      rcases wellFormed_of_parse? parsed with ⟨sound, same⟩
      exact absurd same (foreign route sound)

end Route

/-! ## The prefix of a layer -/

theorem CallLayer.withPrefix_slashes {τ : Type} (layer : CallLayer τ) (lead : String)
    (count : Nat) : layer.withPrefix (lead ++ Text.slashes count) = layer.withPrefix lead := by
  unfold withPrefix
  rw [Text.dropTrailingSlashes_append_slashes]

/-- A path below a prefix denotes a route just when it is the prefix, a slash, the service, a slash
and the method, with neither of the two empty or with a slash in it. So paths and routes determine
each other, and no other path denotes a route. Layers whose prefixes differ in slashes at the end
are the same, so they take the same paths for routes, those below the prefix without the slashes. -/
theorem Route.parse?_exact (lead : String) :
    (∀ path service method, parse? path lead = some ⟨service, method⟩ ↔
      path = lead ++ "/" ++ service ++ "/" ++ method ∧
        (service ≠ "" ∧ '/' ∉ service.toList) ∧ method ≠ "" ∧ '/' ∉ method.toList) ∧
    (∀ path route, parse? path lead = some route → route.path lead = path) ∧
    (∀ route : Route, route.WellFormed → parse? (route.path lead) lead = some route) ∧
    (∀ route other : Route, route.WellFormed → other.WellFormed →
      route.path lead = other.path lead → route = other) ∧
    (∀ path, parse? path lead = none ↔
      ∀ route : Route, route.WellFormed → path ≠ route.path lead) ∧
    ∀ (τ : Type) (layer : CallLayer τ) (here there : Nat),
      layer.withPrefix (lead ++ Text.slashes here) =
          layer.withPrefix (lead ++ Text.slashes there) ∧
        ∀ path route, parse? path (layer.withPrefix (lead ++ Text.slashes here)).lead = some route ↔
          route.WellFormed ∧ path = route.path (Text.dropTrailingSlashes lead) := by
  refine ⟨?_, ?_, fun route sound => parse?_path sound lead, ?_, fun path => parse?_eq_none_iff, ?_⟩
  · intro path service method
    rw [parse?_eq_some_iff]
    constructor
    · rintro ⟨sound, same⟩
      exact ⟨same, ⟨sound.service.filled, sound.service.whole⟩, sound.method.filled,
        sound.method.whole⟩
    · rintro ⟨same, ⟨filled, whole⟩, filled', whole'⟩
      exact ⟨⟨⟨filled, whole⟩, ⟨filled', whole'⟩⟩, same⟩
  · intro path route parsed
    exact (wellFormed_of_parse? parsed).2.symm
  · intro route other sound sound' same
    exact path_injective sound sound' same
  · intro τ layer here there
    rw [layer.withPrefix_slashes, layer.withPrefix_slashes]
    exact ⟨rfl, fun path route => parse?_eq_some_iff⟩

/-- Below a prefix that ends with a slash there are two slashes. -/
theorem Route.parse?_exact_slashed :
    parse? "/twirp//demo.Greeter/Hello" "/twirp/" = some ⟨"demo.Greeter", "Hello"⟩ := by
  apply ((parse?_exact "/twirp/").1 _ _ _).mpr
  decide

end BearerGate
