import BearerGate.Metrics.Registry

/-!
# Requests to a registry

A registry and the families and series that it hands out may be copied, and every copy is as good as
the first. So what is done with them is told by who asks, and by the number of the family or the
handle that is asked for, in the order in which they were handed out. A request is one turn at the
registry.

A recorder keeps the series. How it tells them apart is up to the recorder, and need not be as
usual.
-/

namespace BearerGate

namespace Registry

/-- The registry in which a series has begun. -/
def began (registry : Registry) (recorder : Recorder) (kind : MetricKind) (series : SeriesName) :
    Registry :=
  match kind with
  | .counter => { registry with counters := registry.counters.updateBy recorder series 0 id }
  | .histogram => { registry with histograms := registry.histograms.updateBy recorder series [] id }

/-- Finds the series of a family for a list of label values, which begins if it has not begun. -/
def find {kind : MetricKind} (registry : Registry) (recorder : Recorder) (family : Family kind)
    (values : List String) : Except MetricsFailure (SeriesName × Registry) :=
  (family.series values).map fun series => (series, registry.began recorder kind series)

/-- Adds to a counter that has been found. -/
def addTo (registry : Registry) (recorder : Recorder) (series : SeriesName) (amount : UInt64) :
    Registry :=
  { registry with counters := registry.counters.updateBy recorder series 0 (· + amount) }

/-- Records a sample in a histogram that has been found. -/
def recordIn (registry : Registry) (recorder : Recorder) (series : SeriesName) (sample : Double) :
    Registry :=
  { registry with histograms := registry.histograms.updateBy recorder series [] (· ++ [sample]) }

end Registry

/-- What is asked of a registry, or of what it has handed out. -/
inductive MetricsRequest
  | register (kind : MetricKind) (name help : String) (labels : List String)
  | find (family : Nat) (values : List String)
  | increment (handle : Nat) (amount : UInt64)
  | record (handle : Nat) (sample : Double)

/-- What comes of a request. -/
inductive MetricsAnswer
  /-- The number of a new family. -/
  | family (number : Nat)
  /-- The number of a handle for a series. -/
  | handle (number : Nat)
  | done
  | failed (failure : MetricsFailure)
  /-- Nobody has what the request is for. -/
  | notHeld

/-- A request with its answer, and the number of the holder who made it. -/
structure MetricsExchange where
  holder : Nat
  request : MetricsRequest
  answer : MetricsAnswer

/-- A registry with all that it has handed out. -/
structure RegistryUse where
  registry : Registry
  families : List (Sigma Family)
  handles : List (MetricKind × SeriesName)

namespace RegistryUse

/-- A registry of which nothing has been asked. -/
def opened : RegistryUse := ⟨.empty, [], []⟩

/-- What becomes of a request. -/
def serve (recorder : Recorder) (use : RegistryUse) : MetricsRequest → MetricsAnswer × RegistryUse
  | .register kind name help labels =>
    match use.registry.register kind name help labels with
    | (.ok family, registry) =>
      (.family use.families.length,
        { use with registry, families := use.families ++ [⟨kind, family⟩] })
    | (.error failure, registry) => (.failed failure, { use with registry })
  | .find number values =>
    match use.families[number]? with
    | none => (.notHeld, use)
    | some ⟨kind, family⟩ =>
      match use.registry.find recorder family values with
      | .ok (series, registry) =>
        (.handle use.handles.length,
          { use with registry, handles := use.handles ++ [(kind, series)] })
      | .error failure => (.failed failure, use)
  | .increment number amount =>
    match use.handles[number]? with
    | some (.counter, series) =>
      (.done, { use with registry := use.registry.addTo recorder series amount })
    | some (.histogram, _) | none => (.notHeld, use)
  | .record number sample =>
    match use.handles[number]? with
    | some (.histogram, series) =>
      (.done, { use with registry := use.registry.recordIn recorder series sample })
    | some (.counter, _) | none => (.notHeld, use)

/-- One more request, behind those that have been answered. -/
def heed (recorder : Recorder) (past : List MetricsExchange × RegistryUse)
    (next : Nat × MetricsRequest) : List MetricsExchange × RegistryUse :=
  let (answer, use) := past.2.serve recorder next.2
  (past.1 ++ [⟨next.1, next.2, answer⟩], use)

/-- What becomes of the requests of any number of holders, in the order in which they come: all
that has been asked and answered, and the registry in the end. -/
def run (recorder : Recorder) (requests : List (Nat × MetricsRequest)) :
    List MetricsExchange × RegistryUse :=
  requests.foldl (heed recorder) ([], opened)

end RegistryUse

end BearerGate
