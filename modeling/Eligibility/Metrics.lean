/-
# Metrics

An installation counts what happens in it.  A counter has a count for every combination of its
labels that has been touched; there is one gauge, the share of look-ups that were answered, and
one histogram, the durations of evaluations, which is known by its number and its sum.
-/

import Eligibility.Double.Basic
import Eligibility.Keyed

namespace Eligibility

/-- Something that is counted. -/
inductive Counter where
  | errors
  | businessEvents
  | evaluations
  | hits
  | misses
  | invalidations
  deriving DecidableEq

namespace Counter

/-- Every counter. -/
def all : List Counter := [errors, businessEvents, evaluations, hits, misses, invalidations]

/-- The name of a counter. -/
def name : Counter → String
  | errors => "errors_total"
  | businessEvents => "business_events_total"
  | evaluations => "evaluations_total"
  | hits => "cache_hits_total"
  | misses => "cache_misses_total"
  | invalidations => "cache_invalidations_total"

/-- The names of a counter's labels. -/
def labels : Counter → List String
  | errors => ["error_type", "service"]
  | businessEvents => ["event_type", "service"]
  | evaluations => ["passed"]
  | hits => ["cache_type"]
  | misses => ["cache_type"]
  | invalidations => ["mode"]

end Counter

/-- Something that is measured. -/
inductive Meter where
  | information
  | counter (counter : Counter)
  | durations
  | hitRatio
  deriving DecidableEq

namespace Meter

/-- Every meter. -/
def all : List Meter := information :: durations :: hitRatio :: Counter.all.map counter

/-- The name of a meter. -/
def name : Meter → String
  | information => "service_info"
  | counter c => c.name
  | durations => "evaluation_duration_seconds"
  | hitRatio => "cache_hit_ratio"

/-- The meter with a name. -/
def ofName? (name : String) : Option Meter := all.find? (·.name == name)

/-- The kind of a meter. -/
def kind : Meter → String
  | information => "info"
  | counter _ => "counter"
  | durations => "histogram"
  | hitRatio => "gauge"

/-- The kind of a meter, as the name of a type. -/
def kindName : Meter → String
  | information => "Info"
  | counter _ => "Counter"
  | durations => "Histogram"
  | hitRatio => "Gauge"

end Meter

/-- Something that is done to a meter. -/
inductive Measurement where
  | increment
  | assign (x : Double)
  | observe (x : Double)

/-- The word for a measurement. -/
def Measurement.text : Measurement → String
  | increment => "inc"
  | assign _ => "set"
  | observe _ => "observe"

/-- Why a meter does not take a measurement. -/
inductive MeterFault where
  /-- The counter has labels, and none were given. -/
  | labelsMissing
  /-- The labels given are not those of the counter. -/
  | labelsDiffer
  /-- The meter has no labels, and some were given. -/
  | labelsUnknown (meter : Meter)
  /-- Meters of this kind do not take such measurements. -/
  | unsupported (meter : Meter) (measurement : Measurement)

/-- The wording of a fault. -/
def MeterFault.message : MeterFault → String
  | labelsMissing => "counter metric is missing label values"
  | labelsDiffer => "Incorrect label names"
  | labelsUnknown meter =>
    "No label names were set when constructing " ++ meter.kind ++ ":" ++ meter.name
  | unsupported meter measurement =>
    "'" ++ meter.kindName ++ "' object has no attribute '" ++ measurement.text ++ "'"

/-- A line of an account of metrics. -/
structure Sample where
  name : String
  labels : List (String × String) := []
  value : Double

/-- What has been measured so far. -/
structure Metrics where
  service : String
  /-- The counts by counter and values of its labels. -/
  counts : Keyed (Counter × List String) Nat := .empty
  hitRatio : Double := .zero
  durationCount : Nat := 0
  durationSum : Double := .zero

namespace Metrics

/-- The count for values of a counter's labels. -/
def count (m : Metrics) (c : Counter) (values : List String) : Nat :=
  (m.counts.get? (c, values)).getD 0

/-- Metrics in which the count for values of labels is listed, though it may be zero. -/
def touch (m : Metrics) (c : Counter) (values : List String) : Metrics :=
  { m with counts := m.counts.insert (c, values) (m.count c values) }

/-- Count one more. -/
def increment (m : Metrics) (c : Counter) (values : List String) : Metrics :=
  { m with counts := m.counts.insert (c, values) (m.count c values + 1) }

/-- Take a duration into account. One that is no number adds to the sum alone. -/
def observe (m : Metrics) (x : Double) : Metrics :=
  { m with
    durationCount := if x.isNaN then m.durationCount else m.durationCount + 1
    durationSum := m.durationSum + x }

/-- The values of labels in the order of their names; none when the names differ. -/
def arrange? (names : List String) (labels : List (String × String)) : Option (List String) :=
  if labels.length = names.length then
    names.mapM fun name => (labels.find? (·.1 == name)).map (·.2)
  else none

/-- Measure with a counter. The labels come first, so their count is listed even when the
measurement is not one for a counter. -/
def measureCounter (m : Metrics) (c : Counter) (labels : List (String × String))
    (measurement : Measurement) : Except MeterFault Unit × Metrics :=
  match labels, measurement with
  | [], .increment => (.error .labelsMissing, m)
  | [], _ => (.error (.unsupported (.counter c) measurement), m)
  | _, _ =>
    match arrange? c.labels labels with
    | none => (.error .labelsDiffer, m)
    | some values =>
      match measurement with
      | .increment => (.ok (), m.increment c values)
      | _ => (.error (.unsupported (.counter c) measurement), m.touch c values)

/-- Measure with a meter. -/
def measureWith (m : Metrics) (meter : Meter) (labels : List (String × String))
    (measurement : Measurement) : Except MeterFault Unit × Metrics :=
  match meter with
  | .counter c => m.measureCounter c labels measurement
  | meter =>
    if !labels.isEmpty then (.error (.labelsUnknown meter), m)
    else
      match meter, measurement with
      | .hitRatio, .assign x => (.ok (), { m with hitRatio := x })
      | .hitRatio, .increment => (.ok (), { m with hitRatio := m.hitRatio + .ofNat 1 })
      | .durations, .observe x => (.ok (), m.observe x)
      | meter, measurement => (.error (.unsupported meter measurement), m)

/-- Measure with the meter of a name. There is nothing to do when there is none. -/
def measure (m : Metrics) (name : String) (labels : List (String × String))
    (measurement : Measurement) : Except MeterFault Unit × Metrics :=
  match Meter.ofName? name with
  | some meter => m.measureWith meter labels measurement
  | none => (.ok (), m)

/-- The service named, or else the metrics' own. -/
def serviceOr (m : Metrics) (service? : Option String) : String :=
  match service? with
  | some service => if service.isEmpty then m.service else service
  | none => m.service

/-- Count an error by its code. -/
def recordError (m : Metrics) (code : String) (service? : Option String := none) : Metrics :=
  m.increment .errors [code, m.serviceOr service?]

/-- Count a business event. -/
def recordBusinessEvent (m : Metrics) (event : String) (service? : Option String := none) :
    Metrics :=
  m.increment .businessEvents [event, m.serviceOr service?]

/-- The version that the service is known by. -/
def version : String := "1.0.0"

/-- An account of everything measured. -/
def samples (m : Metrics) : List Sample :=
  [⟨"service_info_info", [("service", m.service), ("version", version)], .ofNat 1⟩,
    ⟨Meter.hitRatio.name, [], m.hitRatio⟩,
    ⟨Meter.durations.name ++ "_count", [], .ofNat m.durationCount⟩,
    ⟨Meter.durations.name ++ "_sum", [], m.durationSum⟩] ++
  m.counts.toList.map fun ((c, values), n) => ⟨c.name, c.labels.zip values, .ofNat n⟩

theorem count_increment (m : Metrics) (c d : Counter) (values others : List String) :
    (m.increment c values).count d others =
      if (d, others) = (c, values) then m.count c values + 1 else m.count d others := by
  simp only [count, increment, Keyed.get?_insert]
  split <;> rfl

end Metrics
end Eligibility
