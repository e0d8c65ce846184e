import BearerGate.Metrics.Requests
import Mathlib.Data.List.Nodup

/-!
# The recorder behind a registry

A recorder keeps one value for each series, and any number of handles may stand for a series. The
values account for the handles (`Holds`) if each series behind a handle has a value, which comes of
what has been given through the handles of the series, in order, and no other series has any. So it
stays when a handle is given out and when something is given through a handle, as long as the
recorder takes the name of the series for that of no other.
-/

namespace BearerGate

/-! ## Values by series -/

namespace SeriesValues

variable {α : Type}

theorem update_update (series : SeriesName) (start : α) (first second : α → α)
    (values : SeriesValues α) :
    (values.update series start first).update series start second =
      values.update series start (second ∘ first) := by
  have own : series.isSame series = true := by
    unfold SeriesName.isSame
    rw [Bool.and_eq_true, decide_eq_true_eq, List.isPerm_iff]
    exact ⟨rfl, .refl _⟩
  induction values with
  | nil => simp only [update_nil, update_cons, own, if_true, Function.comp_apply]
  | cons entry rest ih =>
    simp only [update_cons]
    split
    next same => simp only [update_cons, same, if_true, Function.comp_apply]
    next other => simp only [update_cons, if_neg other, ih]

theorem lookup_entry (series : SeriesName) (entry : SeriesName × α) (rest : SeriesValues α) :
    (entry :: rest).lookup series =
      if series = entry.1 then some entry.2 else rest.lookup series := by
  rw [List.lookup_cons]
  by_cases own : series = entry.1
  · simp [own]
  · simp [beq_false_of_ne own, own]

/-- The recorder takes the name for that of no other series. -/
def Tells (recorder : Recorder) (series : SeriesName) (values : SeriesValues α) : Prop :=
  ∀ entry ∈ values, recorder.isSame entry.1 series = true ↔ entry.1 = series

variable {recorder : Recorder} {series : SeriesName} {values : SeriesValues α}

theorem lookup_updateBy (tells : Tells recorder series values) (start : α) (change : α → α)
    (other : SeriesName) :
    (values.updateBy recorder series start change).lookup other =
      if other = series then some (change ((values.lookup series).getD start))
      else values.lookup other := by
  induction values with
  | nil => exact lookup_entry other (series, change start) []
  | cons entry rest ih =>
    obtain ⟨here, there⟩ := List.forall_mem_cons.mp tells
    unfold updateBy
    by_cases same : entry.1 = series
    · subst same
      rw [if_pos (here.mpr rfl), lookup_entry, lookup_entry, lookup_entry, if_pos rfl]
      split <;> rfl
    · rw [if_neg (mt here.mp same), lookup_entry, lookup_entry, lookup_entry, ih there,
        if_neg (Ne.symm same)]
      by_cases own : other = series
      · subst own
        rw [if_neg (Ne.symm same), if_pos rfl, if_pos rfl]
      · rw [if_neg own, if_neg own]

theorem keys_updateBy (tells : Tells recorder series values) (start : α) (change : α → α) :
    (values.updateBy recorder series start change).map (·.1) =
      if series ∈ values.map (·.1) then values.map (·.1) else values.map (·.1) ++ [series] := by
  induction values with
  | nil => rfl
  | cons entry rest ih =>
    obtain ⟨here, there⟩ := List.forall_mem_cons.mp tells
    unfold updateBy
    by_cases same : entry.1 = series
    · rw [if_pos (here.mpr same)]
      simp [same]
    · rw [if_neg (mt here.mp same), List.map_cons, ih there, List.map_cons]
      simp only [List.mem_cons, Ne.symm same, false_or]
      split <;> rfl

end SeriesValues

namespace Registry

/-- To add to a series of a family is to find it and to add to what has been found. -/
theorem increment_eq (registry : Registry) (family : Family .counter) (values : List String)
    (amount : UInt64) :
    registry.increment family values amount =
      (registry.find .usual family values).map fun (series, begun) =>
        begun.addTo .usual series amount := by
  unfold increment find
  cases family.series values with
  | error failure => rfl
  | ok series =>
    have twice := SeriesValues.update_update series 0 id (· + amount) registry.counters
    simp only [Except.map, addTo, began]
    rw [← SeriesValues.update, ← SeriesValues.update, twice]
    rfl

/-- To record in a series of a family is to find it and to record in what has been found. -/
theorem record_eq (registry : Registry) (family : Family .histogram) (values : List String)
    (sample : Double) :
    registry.record family values sample =
      (registry.find .usual family values).map fun (series, begun) =>
        begun.recordIn .usual series sample := by
  unfold record find
  cases family.series values with
  | error failure => rfl
  | ok series =>
    have twice := SeriesValues.update_update series [] id (· ++ [sample]) registry.histograms
    simp only [Except.map, recordIn, began]
    rw [← SeriesValues.update, ← SeriesValues.update, twice]
    rfl

end Registry

/-! ## What has been given through handles -/

/-- What has been given through those of the handles that are one. -/
def through {η β : Type} [DecidableEq η] (handles : List η) (one : η) (given : List (Nat × β)) :
    List β :=
  given.filterMap fun gift => if handles[gift.1]? = some one then some gift.2 else none

section Through

variable {η β : Type} [DecidableEq η] {handles : List η} {one : η} {given : List (Nat × β)}

theorem through_concat (gift : Nat × β) :
    through handles one (given ++ [gift]) =
      through handles one given ++ if handles[gift.1]? = some one then [gift.2] else [] := by
  unfold through
  rw [List.filterMap_append]
  congr 1
  by_cases same : handles[gift.1]? = some one <;> simp [same]

theorem through_append_handle (backed : ∀ gift ∈ given, gift.1 < handles.length) (next : η) :
    through (handles ++ [next]) one given = through handles one given := by
  refine List.filterMap_congr fun gift member => ?_
  rw [List.getElem?_append_left (backed gift member)]

theorem through_eq_nil (absent : one ∉ handles) : through handles one given = [] := by
  refine List.filterMap_eq_nil_iff.mpr fun gift _ => if_neg fun here => absent ?_
  exact List.mem_of_getElem? here

end Through

/-- The values are those of the series of a kind behind the handles, and each comes of what has been
given through the handles of its series, step by step. -/
structure Holds {α β : Type} (step : α → β → α) (start : α) (kind : MetricKind)
    (handles : List (MetricKind × SeriesName)) (given : List (Nat × β))
    (values : SeriesValues α) : Prop where
  backed : ∀ gift ∈ given, gift.1 < handles.length
  once : (values.map (·.1)).Nodup
  holds : ∀ series, values.lookup series =
    if (kind, series) ∈ handles then
      some ((through handles (kind, series) given).foldl step start)
    else none

namespace Holds

variable {α β : Type} {step : α → β → α} {start : α} {kind : MetricKind}
  {handles : List (MetricKind × SeriesName)} {given : List (Nat × β)} {values : SeriesValues α}

theorem opened : Holds step start kind [] [] [] :=
  ⟨fun _ absent => absurd absent List.not_mem_nil, .nil, fun _ => rfl⟩

theorem mem_handles (holds : Holds step start kind handles given values)
    {entry : SeriesName × α} (member : entry ∈ values) : (kind, entry.1) ∈ handles := by
  refine Decidable.byContradiction fun absent => ?_
  have nothing := holds.holds entry.1
  rw [if_neg absent, List.lookup_eq_none_iff] at nothing
  simpa using nothing entry member

variable {recorder : Recorder} {series : SeriesName}

theorem tells (holds : Holds step start kind handles given values)
    (keeps : ∀ other, (kind, other) ∈ handles →
      (recorder.isSame other series = true ↔ other = series)) :
    values.Tells recorder series :=
  fun _ member => keeps _ (holds.mem_handles member)

theorem once_updateBy (holds : Holds step start kind handles given values)
    (tells : values.Tells recorder series) (change : α → α) :
    ((values.updateBy recorder series start change).map (·.1)).Nodup := by
  rw [SeriesValues.keys_updateBy tells]
  split
  · exact holds.once
  · next absent => simpa using holds.once.concat absent

/-- A handle of the other kind leaves the values as they are. -/
theorem beside (holds : Holds step start kind handles given values) {other : MetricKind}
    (apart : kind ≠ other) (series : SeriesName) :
    Holds step start kind (handles ++ [(other, series)]) given values where
  backed gift member := by
    rw [List.length_append]
    exact Nat.lt_add_right 1 (holds.backed gift member)
  once := holds.once
  holds name := by
    rw [holds.holds, through_append_handle holds.backed]
    simp [apart]

/-- A series begins, if it has not begun, when a handle for it is given out. -/
theorem began (holds : Holds step start kind handles given values)
    (tells : values.Tells recorder series) :
    Holds step start kind (handles ++ [(kind, series)]) given
      (values.updateBy recorder series start id) where
  backed gift member := by
    rw [List.length_append]
    exact Nat.lt_add_right 1 (holds.backed gift member)
  once := holds.once_updateBy tells id
  holds name := by
    rw [SeriesValues.lookup_updateBy tells, through_append_handle holds.backed, holds.holds,
      holds.holds]
    by_cases own : name = series
    · subst own
      by_cases before : (kind, name) ∈ handles
      · simp [before]
      · simp [before, through_eq_nil before]
    · simp [own]

/-- What is given through a handle changes its series. -/
theorem gave (holds : Holds step start kind handles given values)
    (tells : values.Tells recorder series) {handle : Nat}
    (behind : handles[handle]? = some (kind, series)) (value : β) :
    Holds step start kind handles (given ++ [(handle, value)])
      (values.updateBy recorder series start (step · value)) where
  backed gift member := by
    rcases List.mem_append.mp member with earlier | last
    · exact holds.backed gift earlier
    · rw [List.mem_singleton.mp last]
      exact (List.getElem?_eq_some_iff.mp behind).1
  once := holds.once_updateBy tells _
  holds name := by
    have found : (kind, series) ∈ handles := List.mem_of_getElem? behind
    rw [SeriesValues.lookup_updateBy tells, through_concat, holds.holds, holds.holds, behind,
      if_pos found]
    by_cases own : name = series
    · subst own
      simp [found]
    · simp [own, Ne.symm own]

end Holds

end BearerGate
