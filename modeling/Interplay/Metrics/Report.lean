import Interplay.Metrics
import Interplay.Value.Fields

/-!
Metrics over dynamic values, and their export.

Totals, time stamps and measured durations are floating-point; a duration that is recorded from
outside may be any value.
-/

namespace Interplay

def Value.toFloat : Value → Float
  | .float number => number
  | .scalar (.nan _) => 0.0 / 0.0
  | _ => 0.0

instance : Measure Value where
  zero := .float 0.0
  add total duration := (duration.addTo total.toFloat).map (Value.ofFloat 0)
  compare comparison left right := left.compare comparison right
  elapsed started now := .ofFloat 0 ((now.toFloat - started.toFloat) * 1000.0)

namespace Metric

def share (part : Float) (count : Nat) : Value :=
  if count = 0 then .float 0.0 else .ofFloat 0 (part / Float.ofNat count)

def averageDuration (metric : Metric Value) : Value :=
  share metric.totalDuration.toFloat metric.count

def hitRate (metric : Metric Value) : Value :=
  share (Float.ofNat metric.cacheHits) (metric.cacheHits + metric.cacheMisses)

def report (metric : Metric Value) : Value :=
  .object [
    ("name", .scalar metric.name),
    ("category", .scalar metric.category),
    ("count", .ofNat metric.count),
    ("total_duration", metric.totalDuration),
    ("avg_duration", metric.averageDuration),
    ("max_duration", metric.maxDuration),
    ("min_duration", metric.minDuration),
    ("last_timestamp", metric.lastTimestamp),
    ("cache_hits", .ofNat metric.cacheHits),
    ("cache_misses", .ofNat metric.cacheMisses),
    ("cache_hit_rate", metric.hitRate),
    ("success_count", .ofNat metric.successCount),
    ("failure_count", .ofNat metric.failureCount)]

def label (metric : Metric Value) : Value :=
  .list [.scalar metric.name, .scalar metric.category]

end Metric

namespace Metrics

def labels (metrics : List (Metric Value)) : Value :=
  .list (metrics.map Metric.label)

/-- The categories with what `content` shows of their entries, and how long the collector has
existed. -/
def summary (content : List (Metric Value) → Value) (now : Value) (metrics : Metrics Value) :
    Value :=
  .object ((categories.map fun category =>
    (category, content (metrics.ofCategory (.text category)))) ++ [ ("timestamp", now),
    ("uptime", .ofFloat 0 (now.toFloat - metrics.started.toFloat))])

/-- Every entry of the known categories, by name. -/
def report (now : Value) (metrics : Metrics Value) : Value :=
  metrics.summary (fun entries => .mapping (entries.map fun metric => (metric.name, metric.report)))
    now

/-- The first entries of a ranking: as many as a whole number says, where a negative one leaves out
that many at the end, and all of them for null. -/
def limited (limit : Value) (ranking : List (Metric Value)) :
    Except Failure (List (Metric Value)) :=
  let take := fun (count : Int) =>
    if 0 ≤ count then ranking.take count.toNat else ranking.take (ranking.length - count.natAbs)
  match limit with
  | .null => .ok ranking
  | .int count => .ok (take count)
  | .bool flag => .ok (take (if flag then 1 else 0))
  | _ => .error (.mishap .notBound)

end Metrics
end Interplay
