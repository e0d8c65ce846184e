/-!
# Dictionaries

Finite maps from names to values, kept in increasing order of the names.

The order is by code point, which for UTF-8 text is also the order of the bytes. A dictionary is
determined by what it maps where: the order and the absence of repeated names are part of the
type.
-/

namespace BearerGate

/-- A finite map from names to values. The entries are in strictly increasing order of name. -/
structure Dict (α : Type u) where
  entries : List (String × α)
  ordered : entries.Pairwise (fun a b => a.1 < b.1)

namespace Dict

variable {α : Type u}

instance [DecidableEq α] : DecidableEq (Dict α) := fun a b =>
  if h : a.entries = b.entries then
    isTrue (by cases a; cases b; simp_all)
  else
    isFalse (fun e => h (by rw [e]))

/-- Two dictionaries with the same entries are equal. -/
theorem ext_entries {a b : Dict α} (h : a.entries = b.entries) : a = b := by
  cases a; cases b; simp_all

/-- The dictionary without entries. -/
def empty : Dict α := ⟨[], List.Pairwise.nil⟩

instance : EmptyCollection (Dict α) := ⟨empty⟩
instance : Inhabited (Dict α) := ⟨empty⟩

/-- Puts `value` at `name` into a list in increasing order of name, replacing what stood there. -/
def insertEntry (name : String) (value : α) : List (String × α) → List (String × α)
  | [] => [(name, value)]
  | entry :: rest =>
    if name < entry.1 then (name, value) :: entry :: rest
    else if name = entry.1 then (name, value) :: rest
    else entry :: insertEntry name value rest

/-- A name occurs after an insertion if it is the inserted one or occurred before. -/
theorem name_of_mem_insertEntry {name : String} {value : α} {entry : String × α} :
    ∀ {entries : List (String × α)}, entry ∈ insertEntry name value entries →
      entry = (name, value) ∨ entry ∈ entries
  | [], h => by simpa [insertEntry] using h
  | head :: rest, h => by
    unfold insertEntry at h
    split at h
    · simpa using h
    · split at h
      · rcases List.mem_cons.1 h with h | h
        · exact .inl h
        · exact .inr (List.mem_cons_of_mem _ h)
      · rcases List.mem_cons.1 h with h | h
        · exact .inr (by simp [h])
        · exact (name_of_mem_insertEntry h).imp id (List.mem_cons_of_mem _)

/-- Insertion keeps the order. -/
theorem ordered_insertEntry (name : String) (value : α) :
    ∀ {entries : List (String × α)}, entries.Pairwise (fun a b => a.1 < b.1) →
      (insertEntry name value entries).Pairwise (fun a b => a.1 < b.1)
  | [], _ => by simp [insertEntry]
  | head :: rest, h => by
    have ⟨below, tail⟩ := List.pairwise_cons.1 h
    unfold insertEntry
    split
    next lt =>
      refine List.pairwise_cons.2 ⟨fun entry mem => ?_, h⟩
      rcases List.mem_cons.1 mem with rfl | mem
      · exact lt
      · exact String.lt_trans lt (below entry mem)
    next notLt =>
      split
      next same => exact List.pairwise_cons.2 ⟨fun entry mem => same ▸ below entry mem, tail⟩
      next other =>
        refine List.pairwise_cons.2 ⟨fun entry mem => ?_, ordered_insertEntry name value tail⟩
        rcases name_of_mem_insertEntry mem with rfl | mem
        · exact Decidable.byContradiction fun notGt => other (String.le_antisymm notGt notLt)
        · exact below entry mem

/-- Maps `name` to `value`, whatever it was mapped to before. -/
def insert (dict : Dict α) (name : String) (value : α) : Dict α :=
  ⟨insertEntry name value dict.entries, ordered_insertEntry name value dict.ordered⟩

/-- The value at `name`. -/
def get? (dict : Dict α) (name : String) : Option α :=
  dict.entries.lookup name

/-- The names that have a value, in increasing order. -/
def names (dict : Dict α) : List String :=
  dict.entries.map (·.1)

/-- Whether nothing has a value. -/
def isEmpty (dict : Dict α) : Bool :=
  dict.entries.isEmpty

/-- The dictionary that holds the last value given for each name. -/
def ofList (pairs : List (String × α)) : Dict α :=
  pairs.foldl (fun dict pair => dict.insert pair.1 pair.2) empty

/-- The dictionary with every value changed. -/
def map {β : Type v} (f : α → β) (dict : Dict α) : Dict β :=
  ⟨dict.entries.map fun entry => (entry.1, f entry.2), List.pairwise_map.2 dict.ordered⟩

/-- Looking a name up compares it with the first entry. -/
theorem lookup_entry (key : String) (entry : String × α) (rest : List (String × α)) :
    (entry :: rest).lookup key = if key = entry.1 then some entry.2 else rest.lookup key := by
  obtain ⟨name, value⟩ := entry
  by_cases h : key = name
  · subst h; simp
  · simp [List.lookup_cons, h, beq_eq_false_iff_ne.2 h]

/-- What an insertion leaves at each name. -/
theorem lookup_insertEntry (name key : String) (value : α) :
    ∀ entries : List (String × α),
      (insertEntry name value entries).lookup key =
        if key = name then some value else entries.lookup key
  | [] => by simp [insertEntry, lookup_entry]
  | head :: rest => by
    have ih := lookup_insertEntry name key value rest
    unfold insertEntry
    split
    · simp only [lookup_entry]
    · split <;> simp only [lookup_entry, ih] <;> grind

/-- Insertion changes the value at its own name and nothing else. -/
theorem get?_insert (dict : Dict α) (name key : String) (value : α) :
    (dict.insert name value).get? key = if key = name then some value else dict.get? key :=
  lookup_insertEntry name key value dict.entries

@[simp] theorem get?_empty (key : String) : (empty : Dict α).get? key = none := rfl

end Dict

/-- A finite set of names. -/
abbrev NameSet := Dict Unit

namespace NameSet

/-- The set of the names in a list. -/
def ofNames (names : List String) : NameSet :=
  Dict.ofList (names.map fun name => (name, ()))

/-- Whether `name` is in the set. -/
def has (set : NameSet) (name : String) : Bool :=
  (Dict.get? set name).isSome

/-- The names of both sets. -/
def union (a b : NameSet) : NameSet :=
  b.names.foldl (fun set name => Dict.insert set name ()) a

end NameSet

end BearerGate
