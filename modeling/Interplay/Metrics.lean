import Interplay.Run
import Interplay.Sorting
import Interplay.Value.Key
import Interplay.Value.Order

/-!
Timing aggregates per category and name.

The collector works over any type of durations with a zero, a sum and an order, so that its laws can
be stated for exact numbers.  Time stamps are durations since the start of the clock.  A disabled
collector keeps what it has and takes nothing new.
-/

namespace Interplay

/-- What a collector needs to know about durations; a clock counts seconds and a metric
milliseconds. -/
class Measure (δ : Type) where
  zero : δ
  add : δ → δ → Except Failure δ
  compare : Comparison → δ → δ → Except Failure Bool
  /-- Milliseconds from one reading of the clock to a later one. -/
  elapsed : δ → δ → δ

def Measure.isBelow {δ : Type} [Measure δ] (left right : δ) : Bool :=
  match compare .below left right with
  | .ok flag => flag
  | .error _ => false

structure Metric (δ : Type) where
  name : Scalar
  category : Scalar
  count : Nat
  totalDuration : δ
  maxDuration : δ
  minDuration : δ
  lastTimestamp : δ
  cacheHits : Nat
  cacheMisses : Nat
  successCount : Nat
  failureCount : Nat

structure Timing (δ : Type) where
  name : Value
  category : Value
  started : δ

structure Metrics (δ : Type) where
  enabled : Bool
  /-- Metrics in the order of their first recording. -/
  entries : List (Metric δ)
  active : Keyed Scalar (Timing δ)
  started : δ

namespace Metric

variable {δ : Type} [Measure δ]

def fresh (name category : Scalar) : Metric δ :=
  { name := name, category := category, count := 0, totalDuration := Measure.zero,
    maxDuration := Measure.zero, minDuration := Measure.zero, lastTimestamp := Measure.zero,
    cacheHits := 0, cacheMisses := 0, successCount := 0, failureCount := 0 }

/-- The new one of two durations if it stands in the given relation to the old one. -/
def pick (comparison : Comparison) (old new : δ) : Except Failure δ :=
  match Measure.compare comparison new old with
  | .error failure => .error failure
  | .ok true => .ok new
  | .ok false => .ok old

def recordExtremes (duration : δ) : Run (Metric δ) Unit := do
  let metric ← Run.get
  if metric.count = 0 then
    Run.modify fun metric => { metric with minDuration := duration, maxDuration := duration }
  else
    let least ← Run.ofExcept (pick .below metric.minDuration duration)
    Run.modify fun metric => { metric with minDuration := least }
    let greatest ← Run.ofExcept (pick .above metric.maxDuration duration)
    Run.modify fun metric => { metric with maxDuration := greatest }

/-- One more recording.  A duration that cannot be added is counted, and leaves total, time stamp
and outcome as they were. -/
def record (now duration : δ) (success : Option Bool) : Run (Metric δ) Unit := do
  recordExtremes duration
  Run.modify fun metric => { metric with count := metric.count + 1 }
  let metric ← Run.get
  let total ← Run.ofExcept (Measure.add metric.totalDuration duration)
  Run.modify fun metric =>
    { metric with
      totalDuration := total
      lastTimestamp := now
      successCount := metric.successCount + (if success = some true then 1 else 0)
      failureCount := metric.failureCount + (if success = some false then 1 else 0) }

def recordCache (hit : Bool) : Run (Metric δ) Unit :=
  Run.modify fun metric =>
    if hit then { metric with cacheHits := metric.cacheHits + 1 }
    else { metric with cacheMisses := metric.cacheMisses + 1 }

end Metric

namespace Metrics

variable {δ : Type} [Measure δ]

def empty (enabled : Bool) (now : δ) : Metrics δ :=
  { enabled := enabled, entries := [], active := [], started := now }

def isEntry (name category : Scalar) (metric : Metric δ) : Bool :=
  metric.category == category && metric.name == name

def get? (name category : Scalar) (metrics : Metrics δ) : Option (Metric δ) :=
  metrics.entries.find? (isEntry name category)

/-- Runs a step on the entry of a name, which is made first if there is none. -/
def change (name category : Scalar) (step : Run (Metric δ) Unit) : Run (List (Metric δ)) Unit
  | [] => (step (Metric.fresh name category)).mapState fun metric => [metric]
  | metric :: rest =>
    if isEntry name category metric then (step metric).mapState (· :: rest)
    else (change name category step rest).mapState (metric :: ·)

/-- An enabled collector runs a step on the entry that two values name; a disabled one does not look
at them. -/
def enter (name category : Value) (step : Run (Metric δ) Unit) : Run (Metrics δ) Unit := do
  let metrics ← Run.get
  if metrics.enabled then
    let categoryKey ← Run.ofExcept category.toKey
    let nameKey ← Run.ofExcept name.toKey
    Run.zoom entries (fun entries metrics => { metrics with entries := entries })
      (change nameKey categoryKey step)

def record (name category : Value) (now duration : δ) (success : Option Bool) :
    Run (Metrics δ) Unit :=
  enter name category (Metric.record now duration success)

def recordCache (name : Value) (hit : Bool) : Run (Metrics δ) Unit :=
  enter name (.text "formula") (Metric.recordCache hit)

def start (id name category : Value) (now : δ) : Run (Metrics δ) Unit := do
  let metrics ← Run.get
  if metrics.enabled then
    let key ← Run.ofExcept id.toKey
    let timing := { name := name, category := category, started := now }
    Run.modify fun metrics => { metrics with active := Keyed.insert key timing metrics.active }

def timing? (id : Value) (metrics : Metrics δ) : Except Failure (Option (Scalar × Timing δ)) := do
  match ← id.removalKey metrics.active with
  | none => return none
  | some key => return (Keyed.find? key metrics.active).map fun timing => (key, timing)

/-- Ends a timing and gives its duration; nothing happens if it was not started. -/
def finish (id : Value) (now : δ) (success : Option Bool) : Run (Metrics δ) (Option δ) := do
  let metrics ← Run.get
  if metrics.enabled then
    match ← Run.ofExcept (metrics.timing? id) with
    | none => pure none
    | some (key, timing) => do
      let duration := Measure.elapsed timing.started now
      Run.modify fun metrics => { metrics with active := Keyed.erase key metrics.active }
      record timing.name timing.category now duration success
      pure (some duration)
  else
    pure none

def ofCategory (category : Value) (metrics : Metrics δ) : List (Metric δ) :=
  metrics.entries.filter fun metric => (Value.scalar metric.category).same category

def select (category : Value) (metrics : Metrics δ) : List (Metric δ) :=
  if category.isNull then metrics.entries else metrics.ofCategory category

/-- Longest total first; equal ones stay in order. -/
def topByDuration (category : Value) (metrics : Metrics δ) : List (Metric δ) :=
  Sorting.descending (fun left right => Measure.isBelow left.totalDuration right.totalDuration)
    (metrics.select category)

/-- Most recordings first; equal ones stay in order. -/
def topByCount (category : Value) (metrics : Metrics δ) : List (Metric δ) :=
  Sorting.descending (fun left right => decide (left.count < right.count)) (metrics.select category)

def clear (metrics : Metrics δ) : Metrics δ :=
  { metrics with entries := [], active := [] }

def display (metrics : Metrics δ) : String :=
  "Metrics(" ++ toString metrics.entries.length ++ " entries)"

def categories : List String :=
  ["render", "formula", "action", "api", "signal"]

end Metrics
end Interplay
