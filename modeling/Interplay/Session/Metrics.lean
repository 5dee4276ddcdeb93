import Interplay.Evaluate.Machine
import Interplay.Session

/-!
Sessions on a metrics collector and its clock.
-/

namespace Interplay
namespace Session

def timedBody (step content : Value) : Run Machine Value := do
  if !(step.field "advance").isNull then Machine.advance (step.field "advance")
  if (step.field "fail").isFilled then Run.raise boom else pure content

def advanceStep (step : Value) : Run Machine Unit := do
  Machine.advance (← Run.ofExcept (step.need "s"))

def exportMetrics (number : Nat) : Run Machine Value := do
  let machine ← Run.get
  match (machine.host number).metrics with
  | some metrics => pure (metrics.report machine.now)
  | none => Run.raise (.mishap (.noAttribute "NoneType" "export"))

def readSuccess : Value → Option Bool
  | .bool flag => some flag
  | _ => none

def namedMetric (step : Value) (metrics : Metrics Value) :
    Except Failure (Option (Metric Value)) := do
  let category ← (step.field "category").toKey
  let name ← (step.field "name").toKey
  return metrics.get? name category

def readMetrics (doing : String) (step now : Value) (metrics : Metrics Value) :
    Except Failure Document := do
  let category := step.field "category"
  let top := fun (ranking : List (Metric Value)) => do
    return Document.bare
      (Metrics.labels (← Metrics.limited (step.fieldOr "limit" (.int 10)) ranking))
  match doing with
  | "get" => return orNull Metric.report (← namedMetric step metrics)
  | "category" =>
    let named := fun (metric : Metric Value) => Value.list [.scalar metric.name, metric.label]
    return .bare (.list ((metrics.ofCategory category).map named))
  | "top_by_duration" => top (metrics.topByDuration category)
  | "top_by_count" => top (metrics.topByCount category)
  | "summary" => return metrics.summary Metrics.labels now
  | "export" => return metrics.report now
  | "repr" => return .text metrics.display
  | _ => return .null

def metricsStep (step : Value) : Run Machine Document := do
  let machine ← Run.get
  let name := step.field "name"
  let category := step.field "category"
  let success := readSuccess (step.field "success")
  let update := fun (body : Run (Metrics Value) Unit) => quiet (Machine.onMetrics 0 () body)
  match ← Run.ofExcept (action step) with
  | "advance" => quiet (advanceStep step)
  | "enable" =>
    update (Run.modify fun metrics => { metrics with enabled := (step.field "value").isFilled })
  | "start" => update (Metrics.start (step.field "id") name category machine.now)
  | "end" => do
    let duration ← Machine.onMetrics 0 none (Metrics.finish (step.field "id") machine.now success)
    pure (.value (duration.getD .null))
  | "record" => update (Metrics.record name category machine.now (step.field "duration") success)
  | "record_cache" => update (Metrics.recordCache name (step.field "hit").isFilled)
  | "time" => showing (Machine.timed 0 name category (step.field "budget") (timedBody step .null))
  | "time_async" =>
    showing (Machine.timed 0 name category .null (timedBody step (step.field "value")))
  | "clear" => update (Run.modify Metrics.clear)
  | doing =>
    Machine.onMetrics 0 .null do
      let metrics ← Run.get
      Run.ofExcept (readMetrics doing step machine.now metrics)

def flush : Machine → Machine :=
  Machine.modifyJournal Journal.flush

def metricsDesk (around : Surroundings) : Desk Machine :=
  ⟨around, metricsStep, fun machine => (journalFields around machine.journal, flush machine)⟩

end Session
end Interplay
