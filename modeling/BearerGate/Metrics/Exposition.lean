import BearerGate.Metrics.Registry
import BearerGate.Number.Shortest
import BearerGate.Text.Digit

/-!
# The text in which metrics are collected

Each family has a line on its meaning and one on its kind, and then a line for each series, or
several lines for a histogram: the number of samples up to each bound, their sum and their number.
Characters that names cannot have in this text become underscores, and series that are written
alike are one series in it.

Each time the text is asked for, the samples since the last time are added to what was collected
from them before.
-/

namespace BearerGate

namespace Exposition

/-- Whether a character may begin the name of a label. -/
def startsLabel (c : Char) : Bool :=
  ('a' ≤ c && c ≤ 'z') || ('A' ≤ c && c ≤ 'Z') || c = '_'

/-- Whether a character may begin the name of a family. -/
def startsName (c : Char) : Bool := startsLabel c || c = ':'

/-- The text with an underscore for each character that may not stand at its place. -/
def underscored (starts : Char → Bool) (text : String) : String :=
  match text.toList with
  | [] => ""
  | c :: rest =>
    String.ofList ((if starts c then c else '_') ::
      rest.map fun c => if starts c || Text.isDigit c then c else '_')

/-- The name of a family as it is written. -/
def nameText (name : String) : String := underscored startsName name

/-- The name of a label as it is written. -/
def labelText (name : String) : String := underscored startsLabel name

/-- Line breaks and backslashes escaped, and quotation marks if they delimit the text. A backslash
that stands before another or before a quotation mark is taken for an escape that is already
there; `held` tells whether the last character was a backslash that is not written yet. -/
def escaped (quoted : Bool) : List Char → Bool → List Char
  | [], held => if held then ['\\', '\\'] else []
  | c :: rest, held =>
    if c = '\n' then '\\' :: 'n' :: escaped quoted rest held
    else if c = '"' && quoted then '\\' :: '"' :: escaped quoted rest false
    else if c = '\\' then
      if held then '\\' :: '\\' :: escaped quoted rest false else escaped quoted rest true
    else if held then '\\' :: '\\' :: c :: escaped quoted rest false
    else c :: escaped quoted rest false

/-- A label and its value. -/
def labelPair (label : String × String) : String :=
  labelText label.1 ++ "=\"" ++ String.ofList (escaped true label.2.toList false) ++ "\""

/-- The labels as they are written. Of several labels of one name the last counts, in the place of
the first. -/
def labelPairs (labels : List (String × String)) : List String :=
  (labels.map (·.1)).eraseDups.map fun name =>
    labelPair (name, (labels.reverse.lookup name).getD "")

/-- A line with a value. -/
def sampleLine (name : String) (labels : List String) (value : String) : String :=
  let block := if labels.isEmpty then "" else "\x7b" ++ ",".intercalate labels ++ "\x7d"
  name ++ block ++ " " ++ value

/-- The name of a series as it is written. -/
structure WrittenSeries where
  name : String
  labels : List String
  deriving DecidableEq

/-- The name of a series as it is written. -/
def writtenSeries (series : SeriesName) : WrittenSeries :=
  ⟨nameText series.family, labelPairs series.labels⟩

/-! ## Distributions -/

/-- For each bound, how many samples do not exceed it or a bound before it. -/
def countsUpTo (samples : List Double) : (earlier : List Double) → List Double → List Nat
  | _, [] => []
  | earlier, bound :: bounds =>
    samples.countP (fun sample => (bound :: earlier).any sample.le) ::
      countsUpTo samples (bound :: earlier) bounds

/-- What is known of the samples of a histogram: for each bound how many there are up to it, their
sum and their number. -/
structure Distribution where
  upTo : List (Double × Nat)
  sum : Double
  count : Nat
  deriving DecidableEq

namespace Distribution

/-- The distribution of no samples. -/
def none (bounds : List Double) : Distribution :=
  ⟨bounds.map (·, 0), Double.zero, 0⟩

/-- Adds samples, whose sum is taken on its own. -/
def add (distribution : Distribution) (samples : List Double) : Distribution :=
  { upTo := distribution.upTo.zipWith (fun entry count => (entry.1, entry.2 + count))
      (countsUpTo samples [] (distribution.upTo.map (·.1)))
    sum := distribution.sum.add (samples.foldl Double.add Double.zero)
    count := distribution.count + samples.length }

end Distribution

/-- The line of a bucket. -/
def bucketLine (series : WrittenSeries) (bound : String) (count : Nat) : String :=
  sampleLine (series.name ++ "_bucket") (series.labels ++ ["le=\"" ++ bound ++ "\""])
    (toString count)

/-- The lines of a histogram: its samples counted up to each bound, their sum and their number. -/
def histogramLines (series : WrittenSeries) (distribution : Distribution) : List String :=
  (distribution.upTo.map fun (bound, count) => bucketLine series bound.plainText count) ++
  [bucketLine series "+Inf" distribution.count,
    sampleLine (series.name ++ "_sum") series.labels distribution.sum.plainText,
    sampleLine (series.name ++ "_count") series.labels (toString distribution.count)]

/-! ## Families -/

/-- The value of a series as it is shown. -/
inductive ShownValue
  | counter (value : UInt64)
  | histogram (distribution : Distribution)

/-- The kind of a value. -/
def ShownValue.kind : ShownValue → MetricKind
  | .counter _ => .counter
  | .histogram _ => .histogram

/-- A series as it is shown. -/
abbrev ShownSeries := WrittenSeries × ShownValue

/-- The lines of a series. -/
def seriesLines : ShownSeries → List String
  | (series, .counter value) => [sampleLine series.name series.labels (toString value.toNat)]
  | (series, .histogram distribution) => histogramLines series distribution

/-- A family as it is written: its name and its kind. -/
abbrev WrittenFamily := String × MetricKind

/-- The written family of a series. -/
def familyOf (shown : ShownSeries) : WrittenFamily :=
  (shown.1.name, shown.2.kind)

/-- What a written name means: what was said first about a metric of that name. -/
def meaning? (registry : Registry) (name : String) : Option String :=
  (registry.help.find? fun entry => nameText entry.1.2 = name).map (·.2)

/-- The lines about the meaning and the kind of a family. -/
def headLines (registry : Registry) (family : WrittenFamily) : List String :=
  ((meaning? registry family.1).toList.map fun help =>
    "# HELP " ++ family.1 ++ " " ++ String.ofList (escaped false help.toList false)) ++
  ["# TYPE " ++ family.1 ++ " " ++ family.2.name]

/-- The lines of a family and of those of the series that belong to it. -/
def familyLines (registry : Registry) (shown : List ShownSeries) (family : WrittenFamily) :
    List String :=
  headLines registry family ++ (shown.filter (familyOf · = family)).flatMap seriesLines

end Exposition

/-! ## Exporters -/

/-- The bounds of the buckets of histograms, by the name of the family, and what was collected
from histograms before. -/
structure Exporter where
  bounds : List (String × List Double)
  collected : List (Exposition.WrittenSeries × Exposition.Distribution)

namespace Exporter

/-- An exporter with the given bounds, which has collected nothing. -/
def new (bounds : List (String × List Double)) : Exporter := ⟨bounds, []⟩

/-- An exporter with the given bounds. There is no bucket without a bound. -/
def ofBounds (bounds : List (String × List Double)) : Except MetricsFailure Exporter :=
  if bounds.any fun entry => entry.2.isEmpty then
    .error (.exporter "bucket bounds/quantiles cannot be empty")
  else .ok (.new bounds)

/-- The bounds of the buckets of a family, those given last if they are given more than once. -/
def boundsOf (exporter : Exporter) (name : String) : List Double :=
  match exporter.bounds.reverse.find? fun entry => Exposition.nameText entry.1 = name with
  | some entry => entry.2
  | none => []

/-- Collects samples of a series. -/
def collect (exporter : Exporter) (series : SeriesName) (samples : List Double) : Exporter :=
  let written := Exposition.writtenSeries series
  match exporter.collected.lookup written with
  | some _ =>
    { exporter with
      collected := exporter.collected.map fun (other, distribution) =>
        (other, if other = written then distribution.add samples else distribution) }
  | none =>
    let fresh := Exposition.Distribution.none (exporter.boundsOf written.name)
    { exporter with collected := exporter.collected ++ [(written, fresh.add samples)] }

/-- Collects the samples of all histograms of a registry. -/
def collectAll (exporter : Exporter) (registry : Registry) : Exporter × Registry :=
  let (samples, registry) := registry.takeSamples
  (samples.foldl (fun exporter entry => exporter.collect entry.1 entry.2) exporter, registry)

/-- The counters of a registry as they are shown. Of several that are written alike the last is
shown. -/
def shownCounters (registry : Registry) : List Exposition.ShownSeries :=
  let written := registry.counters.map fun (series, value) =>
    (Exposition.writtenSeries series, value)
  (written.map (·.1)).eraseDups.map fun series =>
    (series, .counter ((written.reverse.lookup series).getD 0))

/-- The lines that show the counters of a registry and all that was collected, family by family. -/
def lines (exporter : Exporter) (registry : Registry) : List String :=
  let histograms := exporter.collected.map fun (series, distribution) =>
    (series, Exposition.ShownValue.histogram distribution)
  let shown := shownCounters registry ++ histograms
  (shown.map Exposition.familyOf).eraseDups.flatMap (Exposition.familyLines registry shown)

/-- Collects all metrics of a registry and shows them. -/
def render (exporter : Exporter) (registry : Registry) : String × Exporter × Registry :=
  let (exporter, registry) := exporter.collectAll registry
  (String.join ((exporter.lines registry).map (· ++ "\n")), exporter, registry)

end Exporter

end BearerGate
