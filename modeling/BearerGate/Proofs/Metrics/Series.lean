import BearerGate.Proofs.Dict
import BearerGate.Proofs.Metrics.Recording
import Mathlib.Data.List.Forall2
import Mathlib.Data.List.Induction
import Mathlib.Data.List.Nodup
import Mathlib.Data.UInt

/-!
# Series of a registry in use

Many hold a registry, its families and its handles, and all ask in turn. The exchanges so far say
what has been registered and found, and what has been given through the handles that belong to a
family and a list of label values. They tell all that the registry keeps
(`RegistryUse.run_tallied`): a name can be taken once, a handle comes of a list with a value for
each label and of no other, each counter that was found holds the sum of what was added through its
family with its label values, each histogram holds the samples that were recorded so, in order, and
there is nothing else.

The invariant (`RegistryUse.Kept`) sees only handles and the series behind them. That a handle
stands for a family and a list of values is read from it in the end: names of families are distinct,
so a series names its family, and its labels name its values.
-/

namespace BearerGate

/-! ## What the exchanges tell -/

namespace MetricsExchange

/-- The family that has been registered. -/
def registered? : MetricsExchange → Option (Sigma Family)
  | ⟨_, .register kind name _ labels, .family _⟩ => some ⟨kind, name, labels⟩
  | _ => none

/-- The family and the label values for which there is a handle. -/
def found? : MetricsExchange → Option (Nat × List String)
  | ⟨_, .find family values, .handle _⟩ => some (family, values)
  | _ => none

/-- What has been added, with the handle. -/
def added? : MetricsExchange → Option (Nat × UInt64)
  | ⟨_, .increment handle amount, .done⟩ => some (handle, amount)
  | _ => none

/-- What has been recorded, with the handle. -/
def recorded? : MetricsExchange → Option (Nat × Double)
  | ⟨_, .record handle sample, .done⟩ => some (handle, sample)
  | _ => none

end MetricsExchange

/-- All families that have been registered, in order. -/
def familiesIn (log : List MetricsExchange) : List (Sigma Family) :=
  log.filterMap (·.registered?)

/-- For which family and label values handles have been found, in order. -/
def foundIn (log : List MetricsExchange) : List (Nat × List String) :=
  log.filterMap (·.found?)

/-- What has been added, with the handles, in order. -/
def addedIn (log : List MetricsExchange) : List (Nat × UInt64) :=
  log.filterMap (·.added?)

/-- What has been recorded, with the handles, in order. -/
def recordedIn (log : List MetricsExchange) : List (Nat × Double) :=
  log.filterMap (·.recorded?)

theorem filterMap_concat {α β : Type} (pick : α → Option β) (front : List α) (last : α) :
    (front ++ [last]).filterMap pick = front.filterMap pick ++ (pick last).toList := by
  rw [List.filterMap_append, List.filterMap_cons, List.filterMap_nil]
  cases pick last <;> rfl

section Concat

variable (log : List MetricsExchange) (exchange : MetricsExchange)

theorem familiesIn_concat :
    familiesIn (log ++ [exchange]) = familiesIn log ++ exchange.registered?.toList :=
  filterMap_concat _ log exchange

theorem foundIn_concat : foundIn (log ++ [exchange]) = foundIn log ++ exchange.found?.toList :=
  filterMap_concat _ log exchange

theorem addedIn_concat : addedIn (log ++ [exchange]) = addedIn log ++ exchange.added?.toList :=
  filterMap_concat _ log exchange

theorem recordedIn_concat :
    recordedIn (log ++ [exchange]) = recordedIn log ++ exchange.recorded?.toList :=
  filterMap_concat _ log exchange

theorem familiesIn_of_none (nothing : exchange.registered? = none) :
    familiesIn (log ++ [exchange]) = familiesIn log := by
  rw [familiesIn_concat, nothing, Option.toList_none, List.append_nil]

theorem foundIn_of_none (nothing : exchange.found? = none) :
    foundIn (log ++ [exchange]) = foundIn log := by
  rw [foundIn_concat, nothing, Option.toList_none, List.append_nil]

theorem addedIn_of_none (nothing : exchange.added? = none) :
    addedIn (log ++ [exchange]) = addedIn log := by
  rw [addedIn_concat, nothing, Option.toList_none, List.append_nil]

theorem recordedIn_of_none (nothing : exchange.recorded? = none) :
    recordedIn (log ++ [exchange]) = recordedIn log := by
  rw [recordedIn_concat, nothing, Option.toList_none, List.append_nil]

end Concat

/-- What has been added through a family with label values, by anybody. -/
def amountsIn (log : List MetricsExchange) (family : Nat) (values : List String) : List UInt64 :=
  through (foundIn log) (family, values) (addedIn log)

/-- What has been recorded through a family with label values, by anybody. -/
def samplesIn (log : List MetricsExchange) (family : Nat) (values : List String) : List Double :=
  through (foundIn log) (family, values) (recordedIn log)

/-- The name of the series of a family with a value for each label. -/
def seriesOf (family : Sigma Family) (values : List String) : SeriesName :=
  ⟨family.2.name, family.2.labels.zip values⟩

/-- The recorder keeps the series of the families by name and list of labels. -/
def Recorder.KeepsSeriesOf (recorder : Recorder) (families : List (Sigma Family)) : Prop :=
  ∀ family ∈ families, ∀ other ∈ families, ∀ values others : List String,
    values.length = family.2.labels.length → others.length = other.2.labels.length →
      (recorder.isSame (seriesOf family values) (seriesOf other others) = true ↔
        seriesOf family values = seriesOf other others)

theorem values_of_zip_perm {labels values others : List String} (distinct : labels.Nodup)
    (fits : values.length = labels.length) (fit : others.length = labels.length)
    (same : (labels.zip values).Perm (labels.zip others)) : values = others := by
  refine List.ext_getElem (fits.trans fit.symm) fun index within also => ?_
  have named : index < labels.length := fits ▸ within
  have paired : index < (labels.zip values).length := by
    rw [List.length_zip]
    exact Nat.lt_min.mpr ⟨named, within⟩
  have member : (labels[index], values[index]) ∈ labels.zip others := by
    rw [← same.mem_iff, ← List.getElem_zip (h := paired)]
    exact List.getElem_mem paired
  obtain ⟨place, inside, pair⟩ := List.mem_iff_getElem.mp member
  rw [List.getElem_zip] at pair
  obtain ⟨label, value⟩ := Prod.mk.inj pair
  obtain rfl := (distinct.getElem_inj_iff).mp label
  exact value.symm

/-- The recorder of a registry keeps the series of families with names of their own, where no
family has a label twice. -/
theorem Recorder.usual_keepsSeriesOf {families : List (Sigma Family)}
    (apart : (families.map (·.2.name)).Nodup)
    (distinct : ∀ family ∈ families, family.2.labels.Nodup) :
    Recorder.usual.KeepsSeriesOf families := by
  intro family member another also values others fits fit
  constructor
  · intro same
    have both : decide (family.2.name = another.2.name) = true ∧
        (family.2.labels.zip values).isPerm (another.2.labels.zip others) = true :=
      (Bool.and_eq_true _ _).mp same
    rw [decide_eq_true_eq, List.isPerm_iff] at both
    obtain rfl : family = another := List.inj_on_of_nodup_map apart member also both.1
    rw [values_of_zip_perm (distinct family member) fits fit both.2]
  · intro same
    rw [same]
    exact (Bool.and_eq_true _ _).mpr ⟨decide_eq_true rfl, List.isPerm_iff.mpr (.refl _)⟩

theorem Recorder.KeepsSeriesOf.mono {recorder : Recorder} {families more : List (Sigma Family)}
    (keeps : recorder.KeepsSeriesOf more) (among : families ⊆ more) :
    recorder.KeepsSeriesOf families :=
  fun family member other also => keeps family (among member) other (among also)

/-- The handle is one of a family for label values. -/
def Behind (families : List (Sigma Family)) (source : Nat × List String)
    (handle : MetricKind × SeriesName) : Prop :=
  ∃ family, families[source.1]? = some family ∧ source.2.length = family.2.labels.length ∧
    handle = (family.1, seriesOf family source.2)

theorem values_of_zip {labels values others : List String}
    (fits : values.length = labels.length) (fit : others.length = labels.length)
    (same : labels.zip values = labels.zip others) : values = others := by
  rw [← List.map_snd_zip (Nat.le_of_eq fits), same, List.map_snd_zip (Nat.le_of_eq fit)]

/-- Families with names of their own share no series. -/
theorem eq_of_seriesOf_eq {families : List (Sigma Family)}
    (apart : (families.map (·.2.name)).Nodup) {number other : Nat} {family another : Sigma Family}
    {values others : List String} (named : families[number]? = some family)
    (also : families[other]? = some another) (fits : values.length = family.2.labels.length)
    (fit : others.length = another.2.labels.length)
    (same : seriesOf family values = seriesOf another others) :
    number = other ∧ values = others := by
  have numbers : number = other := by
    obtain ⟨within, -⟩ := List.getElem?_eq_some_iff.mp named
    refine (List.getElem?_inj (by rwa [List.length_map]) apart).mp ?_
    rw [List.getElem?_map, List.getElem?_map, named, also]
    exact congrArg some (congrArg SeriesName.family same)
  subst numbers
  obtain rfl : family = another := Option.some.inj (named.symm.trans also)
  exact ⟨rfl, values_of_zip fits fit (congrArg SeriesName.labels same)⟩

namespace Behind

variable {families : List (Sigma Family)} {source other : Nat × List String}
  {handle : MetricKind × SeriesName}

theorem more (behind : Behind families source handle) (next : Sigma Family) :
    Behind (families ++ [next]) source handle := by
  obtain ⟨family, named, fits, rfl⟩ := behind
  refine ⟨family, ?_, fits, rfl⟩
  rw [List.getElem?_append_left (List.getElem?_eq_some_iff.mp named).1, named]

theorem handle_eq (behind : Behind families source handle) {next : MetricKind × SeriesName}
    (also : Behind families source next) : handle = next := by
  obtain ⟨family, named, -, rfl⟩ := behind
  obtain ⟨family', named', -, rfl⟩ := also
  rw [named] at named'
  rw [Option.some.inj named']

theorem unique (apart : (families.map (·.2.name)).Nodup) (behind : Behind families source handle)
    (beside : Behind families other handle) : source = other := by
  obtain ⟨family, named, fits, rfl⟩ := behind
  obtain ⟨family', named', fit, same⟩ := beside
  obtain ⟨numbers, values⟩ :=
    eq_of_seriesOf_eq apart named named' fits fit (Prod.mk.inj same).2
  exact Prod.ext numbers values

end Behind

namespace RegistryUse

/-- What is so after any exchanges. -/
structure Kept (log : List MetricsExchange) (use : RegistryUse) : Prop where
  families : use.families = familiesIn log
  claimed : ∀ name,
    NameSet.has use.registry.claimed name = true ↔ name ∈ (familiesIn log).map (·.2.name)
  apart : ((familiesIn log).map (·.2.name)).Nodup
  handles : List.Forall₂ (Behind (familiesIn log)) (foundIn log) use.handles
  counters : Holds (· + ·) 0 .counter use.handles (addedIn log) use.registry.counters
  histograms : Holds (fun samples sample => samples ++ [sample]) [] .histogram use.handles
    (recordedIn log) use.registry.histograms

variable {log : List MetricsExchange} {use : RegistryUse} {recorder : Recorder}

theorem Kept.opened : Kept [] opened where
  families := rfl
  claimed name := by
    constructor
    · intro held
      cases held
    · intro absent
      exact absurd absent List.not_mem_nil
  apart := .nil
  handles := .nil
  counters := .opened
  histograms := .opened

/-- An exchange of which nothing comes. -/
structure Vain (exchange : MetricsExchange) : Prop where
  registered : exchange.registered? = none
  found : exchange.found? = none
  added : exchange.added? = none
  recorded : exchange.recorded? = none

theorem Kept.vain (kept : Kept log use) {exchange : MetricsExchange} (vain : Vain exchange) :
    Kept (log ++ [exchange]) use := by
  have families := familiesIn_of_none log exchange vain.registered
  constructor
  · rw [families, kept.families]
  · rw [families]
    exact kept.claimed
  · rw [families]
    exact kept.apart
  · rw [families, foundIn_of_none log exchange vain.found]
    exact kept.handles
  · rw [addedIn_of_none log exchange vain.added]
    exact kept.counters
  · rw [recordedIn_of_none log exchange vain.recorded]
    exact kept.histograms

/-- A handle stands where the family and the values that it is behind do. -/
theorem Kept.getElem?_handles_iff (kept : Kept log use) {source : Nat × List String}
    {handle : MetricKind × SeriesName} (behind : Behind (familiesIn log) source handle)
    (number : Nat) : use.handles[number]? = some handle ↔ (foundIn log)[number]? = some source := by
  obtain ⟨lengths, pairs⟩ := List.forall₂_iff_get.mp kept.handles
  by_cases within : number < (foundIn log).length
  · have pair := pairs number within (lengths ▸ within)
    rw [List.getElem?_eq_getElem within, List.getElem?_eq_getElem (lengths ▸ within)]
    constructor
    · intro same
      rw [List.get_eq_getElem, List.get_eq_getElem, Option.some.inj same] at pair
      rw [pair.unique kept.apart behind]
    · intro same
      rw [List.get_eq_getElem, List.get_eq_getElem, Option.some.inj same] at pair
      rw [pair.handle_eq behind]
  · rw [List.getElem?_eq_none (Nat.not_lt.mp within),
      List.getElem?_eq_none (lengths ▸ Nat.not_lt.mp within)]
    exact iff_of_false nofun nofun

theorem Kept.mem_handles_iff (kept : Kept log use) {source : Nat × List String}
    {handle : MetricKind × SeriesName} (behind : Behind (familiesIn log) source handle) :
    handle ∈ use.handles ↔ source ∈ foundIn log := by
  rw [List.mem_iff_getElem?, List.mem_iff_getElem?]
  exact exists_congr (kept.getElem?_handles_iff behind)

theorem Kept.through_handles (kept : Kept log use) {source : Nat × List String}
    {handle : MetricKind × SeriesName} (behind : Behind (familiesIn log) source handle)
    {β : Type} (given : List (Nat × β)) :
    through use.handles handle given = through (foundIn log) source given := by
  refine List.filterMap_congr fun gift _ => ?_
  simp only [kept.getElem?_handles_iff behind]

/-- Behind every handle there is a family with label values. -/
theorem Kept.exists_behind (kept : Kept log use) {handle : MetricKind × SeriesName}
    (member : handle ∈ use.handles) :
    ∃ source ∈ foundIn log, Behind (familiesIn log) source handle := by
  obtain ⟨lengths, pairs⟩ := List.forall₂_iff_get.mp kept.handles
  obtain ⟨number, within, rfl⟩ := List.mem_iff_getElem.mp member
  have found : number < (foundIn log).length := lengths ▸ within
  exact ⟨(foundIn log)[number], List.getElem_mem found, pairs number found within⟩

theorem Kept.isSame_iff (kept : Kept log use) (keeps : recorder.KeepsSeriesOf (familiesIn log))
    {source : Nat × List String} {kind : MetricKind} {series : SeriesName}
    (behind : Behind (familiesIn log) source (kind, series)) (other : SeriesName)
    (member : (kind, other) ∈ use.handles) :
    recorder.isSame other series = true ↔ other = series := by
  obtain ⟨_, -, family', named', fit, same'⟩ := kept.exists_behind member
  obtain ⟨family, named, fits, same⟩ := behind
  rw [(Prod.mk.inj same).2, (Prod.mk.inj same').2]
  exact keeps _ (List.mem_of_getElem? named') _ (List.mem_of_getElem? named) _ _ fit fits

/-! ## One more request -/

theorem Kept.registered (kept : Kept log use) {name : String}
    (free : ¬ NameSet.has use.registry.claimed name) (holder : Nat) (kind : MetricKind)
    (help : String) (labels : List String) (number : Nat)
    (meanings : List ((MetricKind × String) × String)) :
    Kept (log ++ [⟨holder, .register kind name help labels, .family number⟩])
      { use with
        registry := { use.registry with
          claimed := use.registry.claimed.insert name (), help := meanings }
        families := use.families ++ [⟨kind, name, labels⟩] } := by
  have found := foundIn_of_none log ⟨holder, .register kind name help labels, .family number⟩ rfl
  have added := addedIn_of_none log ⟨holder, .register kind name help labels, .family number⟩ rfl
  have recorded :=
    recordedIn_of_none log ⟨holder, .register kind name help labels, .family number⟩ rfl
  constructor
  · rw [familiesIn_concat, kept.families]
    rfl
  · intro other
    rw [familiesIn_concat, NameSet.has_insert, kept.claimed, List.map_append, List.mem_append,
      or_comm]
    simp [MetricsExchange.registered?]
  · have apart := kept.apart.concat (mt (kept.claimed name).mpr free)
    rw [List.concat_eq_append] at apart
    rw [familiesIn_concat, List.map_append]
    exact apart
  · rw [familiesIn_concat, found]
    exact kept.handles.imp fun _ _ behind => behind.more _
  · rw [added]
    exact kept.counters
  · rw [recorded]
    exact kept.histograms

theorem Kept.found (kept : Kept log use) (keeps : recorder.KeepsSeriesOf (familiesIn log))
    {number : Nat} {kind : MetricKind} {family : Family kind}
    (named : use.families[number]? = some ⟨kind, family⟩) {values : List String}
    (fits : values.length = family.labels.length) (holder handle : Nat) :
    Kept (log ++ [⟨holder, .find number values, .handle handle⟩])
      { use with
        registry := use.registry.began recorder kind (seriesOf ⟨kind, family⟩ values)
        handles := use.handles ++ [(kind, seriesOf ⟨kind, family⟩ values)] } := by
  have behind : Behind (familiesIn log) (number, values) (kind, seriesOf ⟨kind, family⟩ values) :=
    ⟨⟨kind, family⟩, kept.families ▸ named, fits, rfl⟩
  have same := kept.isSame_iff keeps behind
  have families := familiesIn_of_none log ⟨holder, .find number values, .handle handle⟩ rfl
  have added := addedIn_of_none log ⟨holder, .find number values, .handle handle⟩ rfl
  have recorded := recordedIn_of_none log ⟨holder, .find number values, .handle handle⟩ rfl
  constructor
  · rw [families, kept.families]
  · rw [families]
    cases kind <;> exact kept.claimed
  · rw [families]
    exact kept.apart
  · rw [families, foundIn_concat]
    exact List.rel_append kept.handles (List.forall₂_cons.mpr ⟨behind, .nil⟩)
  · rw [added]
    cases kind with
    | counter => exact kept.counters.began (kept.counters.tells same)
    | histogram => exact kept.counters.beside MetricKind.noConfusion _
  · rw [recorded]
    cases kind with
    | counter => exact kept.histograms.beside MetricKind.noConfusion _
    | histogram => exact kept.histograms.began (kept.histograms.tells same)

theorem Kept.added (kept : Kept log use) (keeps : recorder.KeepsSeriesOf (familiesIn log))
    {number : Nat} {series : SeriesName}
    (held : use.handles[number]? = some (.counter, series)) (holder : Nat) (amount : UInt64) :
    Kept (log ++ [⟨holder, .increment number amount, .done⟩])
      { use with registry := use.registry.addTo recorder series amount } := by
  obtain ⟨source, -, behind⟩ := kept.exists_behind (List.mem_of_getElem? held)
  have same := kept.isSame_iff keeps behind
  have families := familiesIn_of_none log ⟨holder, .increment number amount, .done⟩ rfl
  have found := foundIn_of_none log ⟨holder, .increment number amount, .done⟩ rfl
  have recorded := recordedIn_of_none log ⟨holder, .increment number amount, .done⟩ rfl
  constructor
  · rw [families, kept.families]
  · rw [families]
    exact kept.claimed
  · rw [families]
    exact kept.apart
  · rw [families, found]
    exact kept.handles
  · rw [addedIn_concat]
    exact kept.counters.gave (kept.counters.tells same) held amount
  · rw [recorded]
    exact kept.histograms

theorem Kept.recorded (kept : Kept log use) (keeps : recorder.KeepsSeriesOf (familiesIn log))
    {number : Nat} {series : SeriesName}
    (held : use.handles[number]? = some (.histogram, series)) (holder : Nat) (sample : Double) :
    Kept (log ++ [⟨holder, .record number sample, .done⟩])
      { use with registry := use.registry.recordIn recorder series sample } := by
  obtain ⟨source, -, behind⟩ := kept.exists_behind (List.mem_of_getElem? held)
  have same := kept.isSame_iff keeps behind
  have families := familiesIn_of_none log ⟨holder, .record number sample, .done⟩ rfl
  have found := foundIn_of_none log ⟨holder, .record number sample, .done⟩ rfl
  have added := addedIn_of_none log ⟨holder, .record number sample, .done⟩ rfl
  constructor
  · rw [families, kept.families]
  · rw [families]
    exact kept.claimed
  · rw [families]
    exact kept.apart
  · rw [families, found]
    exact kept.handles
  · rw [added]
    exact kept.counters
  · rw [recordedIn_concat]
    exact kept.histograms.gave (kept.histograms.tells same) held sample

/-- What becomes of a request to register. -/
theorem serve_register (recorder : Recorder) (use : RegistryUse) (kind : MetricKind)
    (name help : String) (labels : List String) :
    use.serve recorder (.register kind name help labels) =
      if NameSet.has use.registry.claimed name then (.failed (.alreadyRegistered name), use)
      else
        (.family use.families.length,
          { use with
            registry := { use.registry with
              claimed := use.registry.claimed.insert name ()
              help := use.registry.help ++ [((kind, name), help)] }
            families := use.families ++ [⟨kind, name, labels⟩] }) := by
  by_cases taken : NameSet.has use.registry.claimed name = true
  · simp only [serve, Registry.register, if_pos taken]
  · simp only [serve, Registry.register, if_neg taken]

/-- What becomes of a request for a series of a family. -/
theorem serve_find {number : Nat} {family : Sigma Family}
    (named : use.families[number]? = some family) (values : List String) :
    use.serve recorder (.find number values) =
      if values.length = family.2.labels.length then
        (.handle use.handles.length,
          { use with
            registry := use.registry.began recorder family.1 (seriesOf family values)
            handles := use.handles ++ [(family.1, seriesOf family values)] })
      else
        (.failed (.labelCount family.2.name family.2.labels.length values.length), use) := by
  obtain ⟨kind, family⟩ := family
  by_cases fits : values.length = family.labels.length
  · simp only [serve, named, Registry.find, Family.series, if_pos fits, Except.map]
    rfl
  · simp only [serve, named, Registry.find, Family.series, if_neg fits, Except.map]

/-- No request takes families away. -/
theorem families_subset_serve (recorder : Recorder) (use : RegistryUse) (request : MetricsRequest) :
    use.families ⊆ (use.serve recorder request).2.families := by
  cases request with
  | register kind name help labels =>
    rw [serve_register]
    split
    · exact List.Subset.refl _
    · exact List.subset_append_left _ _
  | find number values =>
    cases named : use.families[number]? with
    | none =>
      simp only [serve, named]
      exact List.Subset.refl _
    | some family =>
      rw [serve_find named]
      split <;> exact List.Subset.refl _
  | increment number amount =>
    simp only [serve]
    split <;> exact List.Subset.refl _
  | record number sample =>
    simp only [serve]
    split <;> exact List.Subset.refl _

theorem Kept.served (kept : Kept log use) (keeps : recorder.KeepsSeriesOf (familiesIn log))
    (holder : Nat) (request : MetricsRequest) :
    Kept (log ++ [⟨holder, request, (use.serve recorder request).1⟩])
      (use.serve recorder request).2 := by
  cases request with
  | register kind name help labels =>
    rw [serve_register]
    split
    · exact kept.vain ⟨rfl, rfl, rfl, rfl⟩
    · next free => exact kept.registered free holder kind help labels _ _
  | find number values =>
    cases named : use.families[number]? with
    | none =>
      simp only [serve, named]
      exact kept.vain ⟨rfl, rfl, rfl, rfl⟩
    | some family =>
      rw [serve_find named]
      split
      · next fits => exact kept.found keeps named fits holder _
      · exact kept.vain ⟨rfl, rfl, rfl, rfl⟩
  | increment number amount =>
    simp only [serve]
    split
    · next series held => exact kept.added keeps held holder amount
    · exact kept.vain ⟨rfl, rfl, rfl, rfl⟩
    · exact kept.vain ⟨rfl, rfl, rfl, rfl⟩
  | record number sample =>
    simp only [serve]
    split
    · next series held => exact kept.recorded keeps held holder sample
    · exact kept.vain ⟨rfl, rfl, rfl, rfl⟩
    · exact kept.vain ⟨rfl, rfl, rfl, rfl⟩

theorem run_concat (recorder : Recorder) (requests : List (Nat × MetricsRequest))
    (next : Nat × MetricsRequest) :
    run recorder (requests ++ [next]) = heed recorder (run recorder requests) next := by
  unfold run
  rw [List.foldl_append]
  rfl

theorem kept_run (requests : List (Nat × MetricsRequest))
    (keeps : recorder.KeepsSeriesOf (run recorder requests).2.families) :
    Kept (run recorder requests).1 (run recorder requests).2 := by
  induction requests using List.reverseRecOn with
  | nil => exact .opened
  | append_singleton requests next ih =>
    rw [run_concat] at keeps ⊢
    have earlier : recorder.KeepsSeriesOf (run recorder requests).2.families :=
      keeps.mono (families_subset_serve recorder _ next.2)
    have kept := ih earlier
    rw [kept.families] at earlier
    exact kept.served earlier next.1 next.2

/-! ## The account -/

/-- What a registry keeps, told by all that has been asked and answered. -/
structure Tallied (recorder : Recorder) (log : List MetricsExchange) (use : RegistryUse) :
    Prop where
  /-- A family is refused if its name has been taken, and only then; nothing comes of a refusal. -/
  registers : ∀ kind name help labels,
    if name ∈ (familiesIn log).map (·.2.name) then
      use.serve recorder (.register kind name help labels) =
        (.failed (.alreadyRegistered name), use)
    else
      (use.serve recorder (.register kind name help labels)).1 = .family (familiesIn log).length
  /-- Label values are refused if they are not one for each label, and only then; nothing comes of a
  refusal. -/
  finds : ∀ (number : Nat) (family : Sigma Family) (values : List String),
    (familiesIn log)[number]? = some family →
    if values.length = family.2.labels.length then
      (use.serve recorder (.find number values)).1 = .handle (foundIn log).length
    else
      use.serve recorder (.find number values) =
        (.failed (.labelCount family.2.name family.2.labels.length values.length), use)
  /-- What is added through a handle for a counter is never refused. -/
  adds : ∀ (handle number : Nat) (values : List String) (family : Family .counter)
    (amount : UInt64), (foundIn log)[handle]? = some (number, values) →
      (familiesIn log)[number]? = some ⟨.counter, family⟩ →
        (use.serve recorder (.increment handle amount)).1 = .done
  /-- What is recorded through a handle for a histogram is never refused. -/
  records : ∀ (handle number : Nat) (values : List String) (family : Family .histogram)
    (sample : Double), (foundIn log)[handle]? = some (number, values) →
      (familiesIn log)[number]? = some ⟨.histogram, family⟩ →
        (use.serve recorder (.record handle sample)).1 = .done
  /-- A counter that has been found holds the sum of all that was added to it, modulo 2^64. -/
  counters : ∀ (number : Nat) (family : Family .counter) (values : List String),
    (familiesIn log)[number]? = some ⟨.counter, family⟩ →
      values.length = family.labels.length →
        use.registry.counters.lookup (seriesOf ⟨.counter, family⟩ values) =
          if (number, values) ∈ foundIn log then
            some (UInt64.ofNat ((amountsIn log number values).map UInt64.toNat).sum)
          else none
  /-- A histogram that has been found holds all that was recorded in it, in order. -/
  histograms : ∀ (number : Nat) (family : Family .histogram) (values : List String),
    (familiesIn log)[number]? = some ⟨.histogram, family⟩ →
      values.length = family.labels.length →
        use.registry.histograms.lookup (seriesOf ⟨.histogram, family⟩ values) =
          if (number, values) ∈ foundIn log then some (samplesIn log number values) else none
  /-- A series is that of one family and one list of label values. -/
  apart : ∀ (number other : Nat) (family another : Sigma Family) (values others : List String),
    (familiesIn log)[number]? = some family → (familiesIn log)[other]? = some another →
      values.length = family.2.labels.length → others.length = another.2.labels.length →
        (recorder.isSame (seriesOf family values) (seriesOf another others) = true ↔
          number = other ∧ values = others)
  /-- No series is kept twice. -/
  once : (use.registry.counters.map (·.1)).Nodup ∧ (use.registry.histograms.map (·.1)).Nodup
  /-- No counter is kept but those that have been found. -/
  onlyCounters : ∀ entry ∈ use.registry.counters, ∃ source ∈ foundIn log,
    Behind (familiesIn log) source (.counter, entry.1)
  /-- No histogram is kept but those that have been found. -/
  onlyHistograms : ∀ entry ∈ use.registry.histograms, ∃ source ∈ foundIn log,
    Behind (familiesIn log) source (.histogram, entry.1)

theorem foldl_add (amounts : List UInt64) (start : Nat) :
    amounts.foldl (· + ·) (UInt64.ofNat start) =
      UInt64.ofNat (start + (amounts.map UInt64.toNat).sum) := by
  induction amounts generalizing start with
  | nil => rfl
  | cons amount amounts ih =>
    have first : UInt64.ofNat start + amount = UInt64.ofNat (start + amount.toNat) := by
      rw [UInt64.ofNat_add, UInt64.ofNat_toNat]
    rw [List.foldl_cons, first, ih, List.map_cons, List.sum_cons, Nat.add_assoc]

theorem foldl_concat {α : Type} (samples front : List α) :
    samples.foldl (fun samples sample => samples ++ [sample]) front = front ++ samples := by
  induction samples generalizing front with
  | nil => rw [List.foldl_nil, List.append_nil]
  | cons sample samples ih =>
    rw [List.foldl_cons, ih, List.append_assoc, List.singleton_append]

section Kept

variable (kept : Kept log use)

include kept

theorem Kept.register_answer (kind : MetricKind) (name help : String) (labels : List String) :
    if name ∈ (familiesIn log).map (·.2.name) then
      use.serve recorder (.register kind name help labels) =
        (.failed (.alreadyRegistered name), use)
    else
      (use.serve recorder (.register kind name help labels)).1 =
        .family (familiesIn log).length := by
  rw [serve_register, ← kept.families]
  have claimed := kept.claimed name
  rw [← kept.families] at claimed
  split
  · next taken => rw [if_pos (claimed.mpr taken)]
  · next free => rw [if_neg (mt claimed.mp free)]

theorem Kept.find_answer {number : Nat} {family : Sigma Family}
    (named : (familiesIn log)[number]? = some family) (values : List String) :
    if values.length = family.2.labels.length then
      (use.serve recorder (.find number values)).1 = .handle (foundIn log).length
    else
      use.serve recorder (.find number values) =
        (.failed (.labelCount family.2.name family.2.labels.length values.length), use) := by
  rw [serve_find (kept.families ▸ named), kept.handles.length_eq]
  split
  · rfl
  · rfl

/-- Behind a handle is the series of its family and values. -/
theorem Kept.held {handle number : Nat} {values : List String} {family : Sigma Family}
    (found : (foundIn log)[handle]? = some (number, values))
    (named : (familiesIn log)[number]? = some family) :
    use.handles[handle]? = some (family.1, seriesOf family values) := by
  obtain ⟨lengths, pairs⟩ := List.forall₂_iff_get.mp kept.handles
  obtain ⟨within, source⟩ := List.getElem?_eq_some_iff.mp found
  have behind := pairs handle within (lengths ▸ within)
  rw [List.get_eq_getElem, List.get_eq_getElem, source] at behind
  obtain ⟨family', named', -, same⟩ := behind
  rw [List.getElem?_eq_getElem (lengths ▸ within), same,
    Option.some.inj (named'.symm.trans named)]

theorem Kept.lookup_counters {number : Nat} {family : Family .counter} {values : List String}
    (named : (familiesIn log)[number]? = some ⟨.counter, family⟩)
    (fits : values.length = family.labels.length) :
    use.registry.counters.lookup (seriesOf ⟨.counter, family⟩ values) =
      if (number, values) ∈ foundIn log then
        some (UInt64.ofNat ((amountsIn log number values).map UInt64.toNat).sum)
      else none := by
  have behind : Behind (familiesIn log) (number, values)
      (.counter, seriesOf ⟨.counter, family⟩ values) :=
    ⟨⟨.counter, family⟩, named, fits, rfl⟩
  have sum := foldl_add (through (foundIn log) (number, values) (addedIn log)) 0
  rw [Nat.zero_add] at sum
  rw [kept.counters.holds, kept.through_handles behind]
  simp only [kept.mem_handles_iff behind]
  exact congrArg (fun value => if (number, values) ∈ foundIn log then some value else none) sum

theorem Kept.lookup_histograms {number : Nat} {family : Family .histogram} {values : List String}
    (named : (familiesIn log)[number]? = some ⟨.histogram, family⟩)
    (fits : values.length = family.labels.length) :
    use.registry.histograms.lookup (seriesOf ⟨.histogram, family⟩ values) =
      if (number, values) ∈ foundIn log then some (samplesIn log number values) else none := by
  have behind : Behind (familiesIn log) (number, values)
      (.histogram, seriesOf ⟨.histogram, family⟩ values) :=
    ⟨⟨.histogram, family⟩, named, fits, rfl⟩
  rw [kept.histograms.holds, kept.through_handles behind, foldl_concat, List.nil_append]
  simp only [kept.mem_handles_iff behind]
  rfl

theorem Kept.isSame_seriesOf (keeps : recorder.KeepsSeriesOf (familiesIn log)) {number other : Nat}
    {family another : Sigma Family} {values others : List String}
    (named : (familiesIn log)[number]? = some family)
    (also : (familiesIn log)[other]? = some another)
    (fits : values.length = family.2.labels.length)
    (fit : others.length = another.2.labels.length) :
    recorder.isSame (seriesOf family values) (seriesOf another others) = true ↔
      number = other ∧ values = others := by
  rw [keeps family (List.mem_of_getElem? named) another (List.mem_of_getElem? also) _ _ fits fit]
  constructor
  · exact eq_of_seriesOf_eq kept.apart named also fits fit
  · rintro ⟨rfl, rfl⟩
    rw [Option.some.inj (named.symm.trans also)]

end Kept

/-- Whoever holds what, and in whatever order all of them ask, the exchanges tell what the registry
keeps. -/
theorem run_tallied (recorder : Recorder) (requests : List (Nat × MetricsRequest))
    (keeps : recorder.KeepsSeriesOf (run recorder requests).2.families) :
    Tallied recorder (run recorder requests).1 (run recorder requests).2 := by
  have kept := kept_run requests keeps
  rw [kept.families] at keeps
  constructor
  case registers => exact kept.register_answer
  case finds =>
    intro number family values named
    exact kept.find_answer named values
  case adds =>
    intro handle number values family amount found named
    simp only [serve, kept.held found named]
  case records =>
    intro handle number values family sample found named
    simp only [serve, kept.held found named]
  case counters =>
    intro number family values named fits
    exact kept.lookup_counters named fits
  case histograms =>
    intro number family values named fits
    exact kept.lookup_histograms named fits
  case apart =>
    intro number other family another values others named also fits fit
    exact kept.isSame_seriesOf keeps named also fits fit
  case once => exact ⟨kept.counters.once, kept.histograms.once⟩
  case onlyCounters =>
    intro entry member
    exact kept.exists_behind (kept.counters.mem_handles member)
  case onlyHistograms =>
    intro entry member
    exact kept.exists_behind (kept.histograms.mem_handles member)

/-- Three holders of a counter with two labels: what two of them add to one series wraps around,
and the values in the other order are those of another series. -/
def sharedCounter : List (Nat × MetricsRequest) :=
  [(0, .register .counter "c" "" ["a", "b"]), (1, .register .histogram "c" "" []),
    (1, .find 0 ["x", "y"]), (0, .find 0 ["x"]), (2, .find 0 ["y", "x"]), (0, .find 0 ["x", "y"]),
    (0, .increment 2 3), (2, .increment 1 7), (1, .increment 0 18446744073709551615)]

theorem run_tallied_shared :
    Recorder.usual.KeepsSeriesOf (run .usual sharedCounter).2.families ∧
      (run .usual sharedCounter).2.registry.counters.lookup
        ⟨"c", [("a", "x"), ("b", "y")]⟩ = some 2 := by
  have keeps : Recorder.usual.KeepsSeriesOf (run .usual sharedCounter).2.families :=
    Recorder.usual_keepsSeriesOf (by decide) (by decide)
  refine ⟨keeps, ?_⟩
  have tallied := run_tallied .usual sharedCounter keeps
  exact (tallied.counters 0 ⟨"c", ["a", "b"]⟩ ["x", "y"] (by decide) rfl).trans (by decide)

end RegistryUse

end BearerGate
