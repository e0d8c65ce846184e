import BearerGate.Metrics.Rpc
import Mathlib.Data.UInt

/-!
# Totals of series

What the series of a family amount to that have given label values: with a value for every label
this is the value of one series, and with some labels left open the sum over all of their values.

A change of one series changes just the totals to which the series belongs. The registry tells
series apart up to the order of their labels, and totals do not see that order either.
-/

namespace BearerGate

/-- Whether a series belongs to a family and has the label values. -/
def SeriesName.has (series : SeriesName) (family : String) (labels : List (String × String)) :
    Bool :=
  series.family = family && labels.all fun label => label ∈ series.labels

theorem SeriesName.has_eq_false {series : SeriesName} {family : String}
    (other : series.family ≠ family) (labels : List (String × String)) :
    series.has family labels = false := by
  unfold has
  rw [decide_eq_false other, Bool.false_and]

theorem SeriesName.has_eq_of_isSame {a b : SeriesName} (same : a.isSame b = true)
    (family : String) (labels : List (String × String)) :
    a.has family labels = b.has family labels := by
  unfold isSame at same
  rw [Bool.and_eq_true, decide_eq_true_eq, List.isPerm_iff] at same
  obtain ⟨named, permuted⟩ := same
  have members : ∀ label, decide (label ∈ a.labels) = decide (label ∈ b.labels) :=
    fun label => decide_eq_decide.mpr permuted.mem_iff
  unfold has
  simp only [named, members]

namespace SeriesValues

variable {α β : Type} [AddCommMonoid β]

/-- The sum of what the values of series weigh that have the label values. -/
def total (weigh : α → β) (values : SeriesValues α) (family : String)
    (labels : List (String × String)) : β :=
  ((values.filter (·.1.has family labels)).map fun entry => weigh entry.2).sum

theorem total_cons (weigh : α → β) (entry : SeriesName × α) (values : SeriesValues α)
    (family : String) (labels : List (String × String)) :
    total weigh (entry :: values) family labels =
      (if entry.1.has family labels then weigh entry.2 else 0) +
        total weigh values family labels := by
  unfold total
  rw [List.filter_cons]
  split
  · rw [List.map_cons, List.sum_cons]
  · rw [zero_add]

/-- A change that adds the same to every value adds it to the totals to which the series
belongs. -/
theorem total_update {weigh : α → β} {start : α} {change : α → α} {amount : β}
    (empty : weigh start = 0) (adds : ∀ value, weigh (change value) = weigh value + amount)
    (series : SeriesName) (values : SeriesValues α) (family : String)
    (labels : List (String × String)) :
    total weigh (values.update series start change) family labels =
      total weigh values family labels + if series.has family labels then amount else 0 := by
  induction values with
  | nil => rw [update_nil, total_cons, adds, empty, zero_add, add_comm]
  | cons entry values ih =>
    rw [update_cons]
    cases same : entry.1.isSame series with
    | true =>
      rw [if_pos rfl, total_cons, total_cons, adds,
        ← SeriesName.has_eq_of_isSame same family labels]
      cases entry.1.has family labels with
      | true =>
        rw [if_pos rfl, if_pos rfl, if_pos rfl]
        exact add_right_comm _ _ _
      | false =>
        rw [if_neg Bool.false_ne_true, if_neg Bool.false_ne_true, if_neg Bool.false_ne_true,
          add_zero]
    | false => rw [if_neg Bool.false_ne_true, total_cons, total_cons, ih, add_assoc]

end SeriesValues

namespace Registry

/-- What the counters of a family amount to that have the label values, in 64 bits. -/
def counted (registry : Registry) (family : String) (labels : List (String × String)) : UInt64 :=
  SeriesValues.total id registry.counters family labels

/-- The number of samples in the histograms of a family that have the label values. -/
def sampled (registry : Registry) (family : String) (labels : List (String × String)) : Nat :=
  SeriesValues.total List.length registry.histograms family labels

theorem counted_of_empty {registry : Registry} (empty : registry.counters = []) (family : String)
    (labels : List (String × String)) : registry.counted family labels = 0 := by
  unfold counted
  rw [empty]
  rfl

theorem sampled_of_empty {registry : Registry} (empty : registry.histograms = [])
    (family : String) (labels : List (String × String)) : registry.sampled family labels = 0 := by
  unfold sampled
  rw [empty]
  rfl

/-- The registries agree on all that the metrics of calls amount to. -/
structure AgreesOnCalls (registry other : Registry) : Prop where
  requests : ∀ labels, registry.counted RpcMetrics.requestsName labels =
    other.counted RpcMetrics.requestsName labels
  responses : ∀ labels, registry.counted RpcMetrics.responsesName labels =
    other.counted RpcMetrics.responsesName labels
  durations : ∀ labels, registry.sampled RpcMetrics.durationName labels =
    other.sampled RpcMetrics.durationName labels

theorem AgreesOnCalls.of_eq {registry other : Registry} (same : registry = other) :
    registry.AgreesOnCalls other := by
  subst same
  exact ⟨fun _ => rfl, fun _ => rfl, fun _ => rfl⟩

theorem register_eq_ok {registry after : Registry} {kind : MetricKind} {name help : String}
    {labels : List String} {family : Family kind}
    (done : registry.register kind name help labels = (.ok family, after)) :
    family = ⟨name, labels⟩ ∧ after.counters = registry.counters ∧
      after.histograms = registry.histograms := by
  unfold register at done
  split at done
  · cases done
  · cases done
    exact ⟨rfl, rfl, rfl⟩

theorem attempt_increment (registry : Registry) (family : Family .counter) (values : List String)
    (amount : UInt64) (fits : values.length = family.labels.length) :
    registry.attempt (·.increment family values amount) =
      { registry with
        counters := registry.counters.update ⟨family.name, family.labels.zip values⟩ 0
          (· + amount) } := by
  unfold attempt increment Family.series
  rw [if_pos fits]
  rfl

theorem attempt_record (registry : Registry) (family : Family .histogram) (values : List String)
    (sample : Double) (fits : values.length = family.labels.length) :
    registry.attempt (·.record family values sample) =
      { registry with
        histograms := registry.histograms.update ⟨family.name, family.labels.zip values⟩ []
          (· ++ [sample]) } := by
  unfold attempt record Family.series
  rw [if_pos fits]
  rfl

theorem counted_attempt_increment (registry : Registry) {family : Family .counter}
    (values : List String) (fits : values.length = family.labels.length) (name : String)
    (labels : List (String × String)) :
    (registry.attempt (·.increment family values 1)).counted name labels =
      registry.counted name labels + UInt64.ofNat
        (SeriesName.has ⟨family.name, family.labels.zip values⟩ name labels).toNat := by
  have zero : id (0 : UInt64) = 0 := rfl
  rw [attempt_increment registry family values 1 fits]
  refine (SeriesValues.total_update zero (fun _ => rfl) _ registry.counters name labels).trans ?_
  cases SeriesName.has ⟨family.name, family.labels.zip values⟩ name labels with
  | true => rfl
  | false => rfl

theorem sampled_attempt_record (registry : Registry) {family : Family .histogram}
    (values : List String) (sample : Double) (fits : values.length = family.labels.length)
    (name : String) (labels : List (String × String)) :
    (registry.attempt (·.record family values sample)).sampled name labels =
      registry.sampled name labels +
        (SeriesName.has ⟨family.name, family.labels.zip values⟩ name labels).toNat := by
  have none : ([] : List Double).length = 0 := rfl
  rw [attempt_record registry family values sample fits]
  refine (SeriesValues.total_update none (fun _ => List.length_append) _ registry.histograms name
    labels).trans ?_
  cases SeriesName.has ⟨family.name, family.labels.zip values⟩ name labels with
  | true => rfl
  | false => rfl

end Registry

/-! ## The metrics of calls -/

namespace RpcMetrics

/-- The metrics of calls in families that are registered. -/
def registered (organisation : Context → String) (fixedLatency : Option Span) : RpcMetrics :=
  ⟨⟨requestsName, callLabels⟩, ⟨durationName, callLabels⟩, ⟨responsesName, responseLabels⟩,
    organisation, fixedLatency⟩

theorem register_eq_ok {organisation : Context → String} {fixedLatency : Option Span}
    {registry after : Registry} {metrics : RpcMetrics}
    (done : register organisation fixedLatency registry = (.ok metrics, after)) :
    metrics = registered organisation fixedLatency ∧ after.counters = registry.counters ∧
      after.histograms = registry.histograms := by
  unfold register at done
  split at done
  · cases done
  next requests first registered =>
  split at done
  · cases done
  next duration second registered' =>
  split at done
  · cases done
  next responses third registered'' =>
  cases done
  obtain ⟨rfl, counters, histograms⟩ := Registry.register_eq_ok registered
  obtain ⟨rfl, counters', histograms'⟩ := Registry.register_eq_ok registered'
  obtain ⟨rfl, counters'', histograms''⟩ := Registry.register_eq_ok registered''
  exact ⟨rfl, by rw [counters'', counters', counters],
    by rw [histograms'', histograms', histograms]⟩

/-- The label values of calls to a method on behalf of an organisation. -/
def callsOf (service method organisation : String) : List (String × String) :=
  callLabels.zip [service, method, organisation]

/-- The label values of responses with a status to such calls. -/
def responsesOf (service method status organisation : String) : List (String × String) :=
  responseLabels.zip [service, method, status, organisation]

/-- The series of calls with a route on behalf of an organisation. -/
def requestSeries (organisation : String) (route : Route) : SeriesName :=
  ⟨requestsName, callsOf route.service route.method organisation⟩

/-- The series of the times that calls take. -/
def durationSeries (organisation : String) (route : Route) : SeriesName :=
  ⟨durationName, callsOf route.service route.method organisation⟩

/-- The series of responses with a status. -/
def responseSeries (organisation : String) (status : Nat) (route : Route) : SeriesName :=
  ⟨responsesName, responsesOf route.service route.method (toString status) organisation⟩

/-- Whether calls with a route on behalf of an organisation are those to a method on behalf of
another. -/
def isFor (route : Route) (caller service method organisation : String) : Bool :=
  route.service = service && route.method = method && caller = organisation

section Labels

variable {route : Route} {caller service method organisation : String}

theorem callsOf_all_mem_callsOf :
    ((callsOf service method organisation).all fun label =>
      label ∈ callsOf route.service route.method caller) =
      isFor route caller service method organisation := by
  simp [callsOf, callLabels, isFor, Bool.and_assoc, eq_comm]

theorem callsOf_all_mem_responsesOf {status : String} :
    ((callsOf service method organisation).all fun label =>
      label ∈ responsesOf route.service route.method status caller) =
      isFor route caller service method organisation := by
  simp [callsOf, responsesOf, callLabels, responseLabels, isFor, Bool.and_assoc, eq_comm]

theorem responsesOf_all_mem_responsesOf {status status' : String} :
    ((responsesOf service method status organisation).all fun label =>
      label ∈ responsesOf route.service route.method status' caller) =
      (isFor route caller service method organisation && decide (status' = status)) := by
  simp [responsesOf, responseLabels, isFor, Bool.and_assoc, eq_comm]
  ac_rfl

end Labels

variable {organisation : Context → String} {fixedLatency : Option Span} {context : Context}
  {registry : Registry}

theorem counted_countRequest (name : String) (labels : List (String × String)) :
    ((registered organisation fixedLatency).countRequest context registry).counted name labels =
      registry.counted name labels + UInt64.ofNat (context.route.any fun route =>
        (requestSeries (organisation context) route).has name labels).toNat := by
  unfold countRequest
  cases context.route with
  | none => exact (add_zero _).symm
  | some route =>
    exact registry.counted_attempt_increment
      [route.service, route.method, organisation context] rfl name labels

theorem sampled_countRequest (name : String) (labels : List (String × String)) :
    ((registered organisation fixedLatency).countRequest context registry).sampled name labels =
      registry.sampled name labels := by
  unfold countRequest
  cases context.route with
  | none => rfl
  | some route =>
    have counted := registry.attempt_increment ⟨requestsName, callLabels⟩
      [route.service, route.method, organisation context] 1 rfl
    exact congrArg (·.sampled name labels) counted

/-- The response to a call whose start is known is counted once and timed once. -/
theorem totals_countResponse {status : Nat} {start now : Instant} {after : Registry}
    (counted : after = (registered organisation fixedLatency).countResponse context now registry)
    (answered : context.status = some status) (begun : context.received = some start)
    (name : String) (labels : List (String × String)) :
    after.counted name labels =
        registry.counted name labels + UInt64.ofNat (context.route.any fun route =>
          (responseSeries (organisation context) status route).has name labels).toNat ∧
      after.sampled name labels =
        registry.sampled name labels + (context.route.any fun route =>
          (durationSeries (organisation context) route).has name labels).toNat := by
  unfold countResponse at counted
  rw [answered, begun] at counted
  subst counted
  cases context.route with
  | none => exact ⟨(add_zero _).symm, (add_zero _).symm⟩
  | some route =>
    have counts := registry.attempt_increment ⟨responsesName, responseLabels⟩
      [route.service, route.method, toString status, organisation context] 1 rfl
    have times := fun (registry : Registry) (sample : Double) =>
      registry.attempt_record ⟨durationName, callLabels⟩
        [route.service, route.method, organisation context] sample rfl
    constructor
    · refine (congrArg (·.counted name labels) (times _ _)).trans ?_
      exact registry.counted_attempt_increment
        [route.service, route.method, toString status, organisation context] rfl name labels
    · refine (Registry.sampled_attempt_record _
        [route.service, route.method, organisation context] _ rfl name labels).trans ?_
      exact congrArg (fun counted => counted.sampled name labels + _) counts

end RpcMetrics

end BearerGate
