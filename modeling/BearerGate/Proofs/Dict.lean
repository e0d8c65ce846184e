import BearerGate.Dict

/-!
# What dictionaries hold

A dictionary that is made of a list holds the last value that the list gives for a name
(`Dict.get?_ofList`), and it is determined by what it holds (`Dict.ext_get?`), so neither the order
nor the repetition of names in the list can be told from it. For a set of names the list might as
well be a set (`NameSet.has_ofNames`).
-/

namespace BearerGate

universe u v

namespace Dict

variable {α : Type u}

/-- Of several values for a name the last counts. -/
theorem get?_ofList (pairs : List (String × α)) (name : String) :
    (ofList pairs).get? name = pairs.reverse.lookup name := by
  suffices general : ∀ dict : Dict α,
      (pairs.foldl (fun dict pair => dict.insert pair.1 pair.2) dict).get? name =
        (pairs.reverse.lookup name).or (dict.get? name) by
    simpa [ofList] using general empty
  induction pairs with
  | nil =>
    intro dict
    rfl
  | cons pair rest ih =>
    intro dict
    rw [List.foldl_cons, ih, get?_insert, List.reverse_cons, List.lookup_append, Option.or_assoc]
    congr 1
    rw [lookup_entry]
    split
    · rfl
    · rfl

theorem isEmpty_ofList_iff {pairs : List (String × α)} :
    (ofList pairs).isEmpty = true ↔ pairs = [] := by
  constructor
  · intro nothing
    have absent (name : String) : pairs.reverse.lookup name = none := by
      rw [← get?_ofList, get?, List.isEmpty_iff.mp nothing]
      rfl
    cases split : pairs.reverse with
    | nil => exact List.reverse_eq_nil_iff.mp split
    | cons last earlier =>
      have held := absent last.1
      rw [split, lookup_entry, if_pos rfl] at held
      cases held
  · rintro rfl
    rfl

theorem mem_of_lookup {name : String} {value : α} {entries : List (String × α)}
    (found : entries.lookup name = some value) : (name, value) ∈ entries := by
  obtain ⟨front, back, rfl, -⟩ := List.lookup_eq_some_iff.mp found
  exact List.mem_append_right front List.mem_cons_self

theorem lookup_map_toList (name key : String) (value : Option α) :
    (value.toList.map fun value => (name, value)).lookup key =
      if key = name then value else none := by
  cases value with
  | none => simp
  | some value => simp [lookup_entry]

theorem lookup_eq_none_of_lt {name : String} {entries : List (String × α)}
    (above : ∀ entry ∈ entries, name < entry.1) : entries.lookup name = none := by
  rw [List.lookup_eq_none_iff]
  intro entry member
  have apart : name ≠ entry.1 := by
    intro same
    exact String.lt_irrefl entry.1 (same ▸ above entry member)
  simpa using apart

theorem entries_eq_of_lookup : ∀ {entries others : List (String × α)},
    entries.Pairwise (fun a b => a.1 < b.1) → others.Pairwise (fun a b => a.1 < b.1) →
      (∀ name, entries.lookup name = others.lookup name) → entries = others
  | [], [], _, _, _ => rfl
  | [], (name, _) :: _, _, _, same => by simpa using same name
  | (name, _) :: _, [], _, _, same => by simpa using same name
  | (name, value) :: rest, (name', value') :: rest', ordered, ordered', same => by
    obtain ⟨above, tail⟩ := List.pairwise_cons.mp ordered
    obtain ⟨above', tail'⟩ := List.pairwise_cons.mp ordered'
    have here := same name
    have there := same name'
    simp only [lookup_entry, if_pos] at here there
    -- Neither list can begin with a name that is smaller than all names of the other.
    have heads : name = name' := by
      refine Decidable.byContradiction fun apart => ?_
      rw [if_neg apart] at here
      rw [if_neg (Ne.symm apart)] at there
      have below : name' < name := above' _ (mem_of_lookup here.symm)
      have beyond : name < name' := above _ (mem_of_lookup there)
      exact String.lt_irrefl name (String.lt_trans beyond below)
    subst heads
    simp only [if_pos] at here
    obtain rfl := Option.some.inj here
    have rests : rest = rest' := by
      refine entries_eq_of_lookup tail tail' fun key => ?_
      have at_key := same key
      simp only [lookup_entry] at at_key
      by_cases own : key = name
      · rw [own, lookup_eq_none_of_lt above, lookup_eq_none_of_lt above']
      · rwa [if_neg own, if_neg own] at at_key
    rw [rests]

/-- Dictionaries that hold the same are equal. -/
theorem ext_get? {dict other : Dict α} (same : ∀ name, dict.get? name = other.get? name) :
    dict = other :=
  ext_entries (entries_eq_of_lookup dict.ordered other.ordered same)

theorem lookup_reverse_of_ordered {entries : List (String × α)}
    (ordered : entries.Pairwise (fun a b => a.1 < b.1)) (name : String) :
    entries.reverse.lookup name = entries.lookup name := by
  induction entries with
  | nil => rfl
  | cons entry rest ih =>
    obtain ⟨above, tail⟩ := List.pairwise_cons.mp ordered
    rw [List.reverse_cons, List.lookup_append, ih tail, lookup_entry, lookup_entry]
    by_cases own : name = entry.1
    · rw [if_pos own, if_pos own, own, lookup_eq_none_of_lt above]
      rfl
    · rw [if_neg own, if_neg own]
      exact Option.or_none

/-- A dictionary has no entries but those that it is made of. -/
theorem mem_of_mem_entries_ofList {pairs : List (String × α)} {entry : String × α}
    (found : entry ∈ (ofList pairs).entries) : entry ∈ pairs := by
  suffices general : ∀ dict : Dict α,
      entry ∈ (pairs.foldl (fun dict pair => dict.insert pair.1 pair.2) dict).entries →
        entry ∈ pairs ∨ entry ∈ dict.entries by
    rcases general empty found with given | nothing
    · exact given
    · cases nothing
  clear found
  induction pairs with
  | nil => exact fun dict held => .inr held
  | cons pair rest ih =>
    intro dict held
    rcases ih _ held with later | before
    · exact .inl (List.mem_cons_of_mem pair later)
    · rcases name_of_mem_insertEntry before with rfl | earlier
      · exact .inl List.mem_cons_self
      · exact .inr earlier

/-- Changing every value changes what is held under a name, and not what names there are. -/
theorem get?_map {β : Type v} (f : α → β) (dict : Dict α) (name : String) :
    (dict.map f).get? name = (dict.get? name).map f := by
  change (dict.entries.map fun entry => (entry.1, f entry.2)).lookup name =
    (dict.entries.lookup name).map f
  induction dict.entries with
  | nil => rfl
  | cons entry rest ih =>
    rw [List.map_cons, lookup_entry, lookup_entry, ih]
    by_cases own : name = entry.1
    · rw [if_pos own, if_pos own]
      rfl
    · rw [if_neg own, if_neg own]

theorem map_injective {β : Type v} {f : α → β} (injective : Function.Injective f) :
    Function.Injective (map f) := by
  intro dict other same
  refine ext_get? fun name => Option.map_injective injective ?_
  rw [← get?_map, ← get?_map, same]

/-- A dictionary is made of its own entries. -/
theorem ofList_entries (dict : Dict α) : ofList dict.entries = dict :=
  ext_get? fun name => (get?_ofList dict.entries name).trans
    (lookup_reverse_of_ordered dict.ordered name)

end Dict

namespace NameSet

theorem has_iff_mem_names {set : NameSet} {name : String} :
    set.has name = true ↔ name ∈ Dict.names set := by
  unfold has Dict.get? Dict.names
  rw [Option.isSome_iff_ne_none, ne_eq, List.lookup_eq_none_iff]
  simp

theorem has_insert {set : NameSet} {name other : String} :
    has (Dict.insert set other ()) name = true ↔ name = other ∨ set.has name = true := by
  unfold has
  rw [Dict.get?_insert]
  split
  · next same => simp [same]
  · next apart => simp [apart]

theorem has_foldl_insert {names : List String} {set : NameSet} {name : String} :
    has (names.foldl (fun set name => Dict.insert set name ()) set) name = true ↔
      set.has name = true ∨ name ∈ names := by
  induction names generalizing set with
  | nil => simp
  | cons first rest ih =>
    rw [List.foldl_cons, ih, has_insert, List.mem_cons]
    exact or_assoc.trans or_left_comm

/-- The set of the names in a list has just these names. -/
theorem has_ofNames {names : List String} {name : String} :
    (ofNames names).has name = true ↔ name ∈ names := by
  unfold ofNames Dict.ofList
  rw [List.foldl_map, has_foldl_insert]
  exact or_iff_right Bool.false_ne_true

theorem has_union {a b : NameSet} {name : String} :
    (a.union b).has name = true ↔ a.has name = true ∨ b.has name = true := by
  have listed : b.has name = true ↔ name ∈ Dict.names b := has_iff_mem_names
  rw [listed]
  exact has_foldl_insert

end NameSet

end BearerGate
