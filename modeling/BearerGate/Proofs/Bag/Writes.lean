import BearerGate.Context
import Mathlib.Data.List.GetD

/-!
# What a write to a bag changes

A write changes the contents of the bag that it goes to and of no other, whether the bag keeps its
contents or the list of what was ever written. A new bag changes the contents of none. A bag that a
context was given takes every write.
-/

namespace BearerGate

namespace BagWrite

/-- The list of writes shows what keeping the contents shows. -/
theorem contents_cons (write : BagWrite) (earlier : List BagWrite) :
    contents (write :: earlier) = (contents earlier).after write := by
  cases write with
  | user user => rfl
  | annotated name value => rfl
  | metadata name value => rfl

end BagWrite

namespace BagContents

variable {contents : BagContents} {name : String}

/-- An annotation is shown under its own name and leaves all other names alone. -/
theorem annotations_after_annotated (written : String) (value : Scalar) :
    (contents.after (.annotated written value)).annotations.get? name =
      if name = written then some value else contents.annotations.get? name :=
  contents.annotations.get?_insert written name value

end BagContents

namespace BagStore

variable {store : BagStore} {bag other : BagRef}

/-- The bags that a store has: every segment, and the bags that it has made. -/
def Has (store : BagStore) : BagRef → Prop
  | .standalone index => index < store.standalone.length
  | .segment _ => True

theorem attach_has (store : BagStore) (segment : Option Segment) :
    (store.attach segment).2.Has (store.attach segment).1 := by
  cases segment with
  | some segment => trivial
  | none =>
    change store.standalone.length < (store.standalone ++ [BagContents.empty]).length
    rw [List.length_append]
    exact Nat.lt_succ_self _

/-- A new bag shows nothing, and neither did the bag of its number before. -/
theorem contents_attach (backing : Option Segment) (bag : BagRef) :
    (store.attach backing).2.contents bag = store.contents bag := by
  cases backing with
  | some segment => rfl
  | none =>
    cases bag with
    | segment segment => rfl
    | standalone index =>
      change (store.standalone ++ [BagContents.empty]).getD index .empty =
        store.standalone.getD index .empty
      rcases Nat.lt_or_ge index store.standalone.length with there | beyond
      · exact List.getD_append _ _ _ _ there
      · rw [List.getD_append_right _ _ _ _ beyond, List.getD_eq_default _ _ beyond]
        cases index - store.standalone.length with
        | zero => rfl
        | succ rest => rfl

theorem write_has {write : BagWrite} (has : store.Has other) :
    (store.write bag write).Has other := by
  cases other with
  | segment segment => trivial
  | standalone index =>
    cases bag with
    | segment segment => exact has
    | standalone written =>
      change index < (store.standalone.modify written _).length
      rw [List.length_modify]
      exact has

theorem contents_write_self (has : store.Has bag) (write : BagWrite) :
    (store.write bag write).contents bag = (store.contents bag).after write := by
  cases bag with
  | standalone index =>
    have within : index < store.standalone.length := has
    change (store.standalone.modify index (·.after write)).getD index .empty =
      (store.standalone.getD index .empty).after write
    rw [List.getD_eq_getElem?_getD, List.getD_eq_getElem?_getD, List.getElem?_modify_eq,
      List.getElem?_eq_getElem within]
    rfl
  | segment segment =>
    have handed : (store.write (.segment segment) write).handedTo segment =
        write :: store.handedTo segment := by
      simp [BagStore.write, handedTo]
    change BagWrite.contents ((store.write (.segment segment) write).handedTo segment) = _
    rw [handed, BagWrite.contents_cons]
    rfl

theorem contents_write_of_ne (away : other ≠ bag) (write : BagWrite) :
    (store.write bag write).contents other = store.contents other := by
  cases bag with
  | standalone index =>
    cases other with
    | segment segment => rfl
    | standalone index' =>
      have apart : index ≠ index' := fun same => away (by rw [same])
      change (store.standalone.modify index (·.after write)).getD index' .empty =
        store.standalone.getD index' .empty
      rw [List.getD_eq_getElem?_getD, List.getD_eq_getElem?_getD, List.getElem?_modify_ne _ _ apart]
  | segment segment =>
    cases other with
    | standalone index => rfl
    | segment segment' =>
      have apart : segment ≠ segment' := fun same => away (by rw [same])
      have handed : (store.write (.segment segment) write).handedTo segment' =
          store.handedTo segment' := by
        simp [BagStore.write, handedTo, apart]
      change BagWrite.contents ((store.write (.segment segment) write).handedTo segment') = _
      rw [handed]
      rfl

/-- A bag that the store does not have shows nothing, whatever is written to it. -/
theorem contents_of_not_has (absent : ¬ store.Has bag) : store.contents bag = .empty := by
  cases bag with
  | segment segment => exact (absent trivial).elim
  | standalone index =>
    have beyond : store.standalone.length ≤ index := Nat.le_of_not_lt absent
    change store.standalone.getD index .empty = .empty
    rw [List.getD_eq_getElem?_getD, List.getElem?_eq_none beyond]
    rfl

/-- A write leaves the contents of a bag as they were, or changes them as it says. -/
theorem contents_write_cases (store : BagStore) (bag other : BagRef) (write : BagWrite) :
    (store.write bag write).contents other = store.contents other ∨
      (store.write bag write).contents other = (store.contents other).after write := by
  by_cases same : other = bag
  · subst same
    by_cases has : store.Has other
    · exact .inr (contents_write_self has write)
    · left
      have absent : ¬ (store.write other write).Has other := by
        intro has'
        apply has
        cases other with
        | segment segment => trivial
        | standalone index =>
          change index < (store.standalone.modify index _).length at has'
          rw [List.length_modify] at has'
          exact has'
      rw [contents_of_not_has absent, contents_of_not_has has]
  · exact .inl (contents_write_of_ne same write)

/-! ## Annotations that are strings -/

theorem annotate_string (bag : BagRef) (name value : String) :
    store.annotate bag name (.string value) = store.write bag (.annotated name (.string value)) :=
  rfl

/-- A string that is written as an annotation is shown under its name, and nothing else changes. -/
theorem contents_annotate_string (has : store.Has bag) (written value : String) :
    ((store.annotate bag written (.string value)).contents bag).user =
        (store.contents bag).user ∧
      ∀ name, ((store.annotate bag written (.string value)).contents bag).annotations.get? name =
        if name = written then some (.string value)
        else (store.contents bag).annotations.get? name := by
  rw [annotate_string, contents_write_self has]
  exact ⟨rfl, fun name => BagContents.annotations_after_annotated written (.string value)⟩

end BagStore

end BearerGate
