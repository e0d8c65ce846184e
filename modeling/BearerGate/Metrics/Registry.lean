import BearerGate.Json.Basic
import BearerGate.Text.Quoted

/-!
# Metrics

Metrics come in families: a kind, a name and the names of the labels. A name can be taken once in
a registry, whatever the kind. A series of a family belongs to one list of label values, one for
each label; it begins when its values are first used. Where labels share a name, it does not
matter which of them has which value. Counters wrap around at 64 bits, histograms keep the
recorded samples in order.
-/

namespace BearerGate

/-- What can go wrong with metrics. -/
inductive MetricsFailure
  | alreadyRegistered (name : String)
  | labelCount (name : String) (expected given : Nat)
  | exporter (reason : String)
  deriving DecidableEq

/-- The wording of a failure. -/
def MetricsFailure.message : MetricsFailure → String
  | .alreadyRegistered name => "metric " ++ Text.quote name ++ " is already registered"
  | .labelCount name expected given =>
    "metric " ++ Text.quote name ++ " expects " ++ toString expected ++ " label values, got " ++
      toString given
  | .exporter reason => "failed to build metrics exporter: " ++ reason

/-- The kinds of metrics. -/
inductive MetricKind
  | counter
  | histogram
  deriving DecidableEq

/-- The written name of a kind. -/
def MetricKind.name : MetricKind → String
  | .counter => "counter"
  | .histogram => "histogram"

/-- A registered family. -/
structure Family (kind : MetricKind) where
  name : String
  labels : List String
  deriving DecidableEq

/-- The name of a series: that of its family, and the labels with their values. -/
structure SeriesName where
  family : String
  labels : List (String × String)
  deriving DecidableEq

/-- Whether two names name one series: the labels count in any order. -/
def SeriesName.isSame (a b : SeriesName) : Bool :=
  a.family = b.family && a.labels.isPerm b.labels

/-- The series of a family for a list of label values. -/
def Family.series {kind : MetricKind} (family : Family kind) (values : List String) :
    Except MetricsFailure SeriesName :=
  if values.length = family.labels.length then .ok ⟨family.name, family.labels.zip values⟩
  else .error (.labelCount family.name family.labels.length values.length)

/-! ## Values by series -/

/-- Values of series, in the order in which the series began. -/
abbrev SeriesValues (α : Type) := List (SeriesName × α)

/-- A recorder, by whether it takes two names for those of one series. -/
structure Recorder where
  isSame : SeriesName → SeriesName → Bool

/-- The recorder of a registry, for which labels count in any order. -/
def Recorder.usual : Recorder := ⟨SeriesName.isSame⟩

namespace SeriesValues

variable {α : Type}

/-- Changes the value of the series that the recorder takes a name for. The series begins with
`start` if there is none. -/
def updateBy (recorder : Recorder) (series : SeriesName) (start : α) (change : α → α) :
    SeriesValues α → SeriesValues α
  | [] => [(series, change start)]
  | entry :: rest =>
    if recorder.isSame entry.1 series then (entry.1, change entry.2) :: rest
    else entry :: updateBy recorder series start change rest

/-- Changes the value of a series, which begins with `start` if it has not begun. -/
def update (series : SeriesName) (start : α) (change : α → α) :
    SeriesValues α → SeriesValues α :=
  updateBy .usual series start change

theorem update_nil (series : SeriesName) (start : α) (change : α → α) :
    update series start change [] = [(series, change start)] := rfl

theorem update_cons (series : SeriesName) (start : α) (change : α → α) (entry : SeriesName × α)
    (rest : SeriesValues α) :
    update series start change (entry :: rest) =
      if entry.1.isSame series then (entry.1, change entry.2) :: rest
      else entry :: update series start change rest := rfl

end SeriesValues

/-! ## The registry -/

/-- The names that are taken, what they mean, and the values of all series. -/
structure Registry where
  claimed : NameSet
  help : List ((MetricKind × String) × String)
  counters : SeriesValues UInt64
  histograms : SeriesValues (List Double)

namespace Registry

/-- A registry without families. -/
def empty : Registry := ⟨.empty, [], [], []⟩

instance : Inhabited Registry := ⟨empty⟩

/-- Registers a family, unless its name is taken. -/
def register (registry : Registry) (kind : MetricKind) (name help : String) (labels : List String) :
    Except MetricsFailure (Family kind) × Registry :=
  if NameSet.has registry.claimed name then (.error (.alreadyRegistered name), registry)
  else
    (.ok ⟨name, labels⟩,
      { registry with
        claimed := registry.claimed.insert name ()
        help := registry.help ++ [((kind, name), help)] })

/-- What the metrics of a kind and name mean. -/
def help? (registry : Registry) (kind : MetricKind) (name : String) : Option String :=
  registry.help.lookup (kind, name)

/-- Adds to a counter. -/
def increment (registry : Registry) (family : Family .counter) (values : List String)
    (amount : UInt64) : Except MetricsFailure Registry :=
  (family.series values).map fun series =>
    { registry with counters := registry.counters.update series 0 (· + amount) }

/-- Records a sample in a histogram. -/
def record (registry : Registry) (family : Family .histogram) (values : List String)
    (sample : Double) : Except MetricsFailure Registry :=
  (family.series values).map fun series =>
    { registry with histograms := registry.histograms.update series [] (· ++ [sample]) }

/-- The registry after a change that may fail, in which case nothing changes. -/
def attempt (registry : Registry) (change : Registry → Except MetricsFailure Registry) : Registry :=
  match change registry with
  | .ok changed => changed
  | .error _ => registry

end Registry

/-! ## Reports -/

/-- The value of a series. -/
inductive SeriesValue
  | counter (value : UInt64)
  | histogram (samples : List Double)
  deriving DecidableEq

/-- The kind of a value. -/
def SeriesValue.kind : SeriesValue → MetricKind
  | .counter _ => .counter
  | .histogram _ => .histogram

/-- A series as it is reported. -/
structure SeriesReport where
  series : SeriesName
  help : Option String
  value : SeriesValue
  deriving DecidableEq

namespace SeriesReport

/-- The text by which reports are ordered: name, kind and labels in compact form. -/
def sortText (report : SeriesReport) : String :=
  (Json.array [.string report.series.family, .string report.value.kind.name,
    .array (report.series.labels.map fun label =>
      .array [.string label.1, .string label.2])]).text

end SeriesReport

namespace Registry

/-- All series in the order in which they began, counters first. -/
def series (registry : Registry) : List SeriesReport :=
  (registry.counters.map fun (series, value) =>
    ⟨series, registry.help? .counter series.family, .counter value⟩) ++
  registry.histograms.map fun (series, samples) =>
    ⟨series, registry.help? .histogram series.family, .histogram samples⟩

/-- The samples of all histograms, and the registry without them. -/
def takeSamples (registry : Registry) : SeriesValues (List Double) × Registry :=
  (registry.histograms,
    { registry with histograms := registry.histograms.map fun (series, _) => (series, []) })

/-- All series in order, and the registry with the values taken out: counters start again from
zero, histograms without samples. -/
def drain (registry : Registry) : List SeriesReport × Registry :=
  (registry.series.mergeSort fun a b => a.sortText ≤ b.sortText,
    { registry.takeSamples.2 with
      counters := registry.counters.map fun (series, _) => (series, 0) })

/-- One line about a registry for diagnostics. -/
def summary : String := "MetricsRegistry \x7b .. \x7d"

end Registry

end BearerGate
