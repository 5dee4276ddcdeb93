import Interplay.Cycle.Detector
import Interplay.Cycle.PackageGraph.Reader
import Interplay.Session

/-!
Sessions on cycle detectors, and reports on package graphs.
-/

namespace Interplay
namespace Session

structure CycleState where
  limits : Limits
  /-- Every detector made so far. -/
  detectors : Array Cycle.Detector
  /-- The detectors that names stand for, by number. -/
  names : Keyed Scalar Nat

namespace CycleState

def ofLimits (limits : Limits) : CycleState :=
  { limits := limits, detectors := #[], names := [] }

def add (id : Scalar) (detector : Cycle.Detector) (state : CycleState) : CycleState :=
  { state with
    detectors := state.detectors.push detector
    names := Keyed.insert id state.detectors.size state.names }

def onDetector (number : Nat) (change : Limits → Cycle.Detector → Except Failure Cycle.Detector)
    (state : CycleState) : Except Failure CycleState :=
  match state.detectors[number]? with
  | none => .ok state
  | some detector => do
    let changed ← change state.limits detector
    return { state with detectors := state.detectors.modify number fun _ => changed }

def enter (number : Nat) (key : Value) : Run CycleState Unit :=
  Run.update (onDetector number fun limits detector => detector.enter limits key)

def leave (number : Nat) (key : Value) : Run CycleState Unit :=
  Run.update (onDetector number fun _ detector => detector.leave key)

def shown (state : CycleState) : Fields × CycleState :=
  let entry := fun (detector : Cycle.Detector) =>
    let active : Value := match detector with
      | .keys stack => .ofNat stack.depth
      | .workflows running => .bool running.hasActive
    Document.object [("path", .bare (.list detector.path)), ("active", active)]
  let found := state.names.map fun name => (name.1, (state.detectors[name.2]?.map entry).getD .null)
  ([("detectors", .keyed found)], state)

end CycleState

def newDetector (limits : Limits) (step : Value) : Except Failure (Value × Cycle.Detector) := do
  let kind ← step.need "kind"
  match ← kind.toKey with
  | .text "workflow" =>
    let ceiling := limits.orCeiling "action" "max_workflow_recursion" (step.field "max_recursion")
    return (ceiling, .workflows (Cycle.Workflow.empty ceiling))
  | .text "formula" => return (.null, .keys (Cycle.Stack.empty .formula))
  | .text "component" => return (.null, .keys (Cycle.Stack.empty .component))
  | .text "package" => return (.null, .keys (Cycle.Stack.empty .package))
  | _ => .error (.mishap (.missingKey kind))

def detectorName : Option Cycle.Detector → String
  | none => "NoneType"
  | some (.workflows _) => "WorkflowCycleDetector"
  | some (.keys stack) =>
    match stack.domain with
    | .formula => "FormulaCycleDetector"
    | .component => "ComponentCycleDetector"
    | .package => "PackageCycleDetector"

def inspectDetector (detector : Option Cycle.Detector) (key : Value) (doing : String) :
    Except Failure Value :=
  match doing, detector with
  | "is_active", some (.keys stack) => return .bool (stack.isActive (← Cycle.Stack.readKey key))
  | "can_enter", some (.workflows running) => return .bool (← key.toKey.bind running.canEnter)
  | "depth_of", some (.workflows running) => return .ofNat (running.depthOf (← key.toKey))
  | other, _ =>
    if ["enter", "exit", "is_active", "can_enter", "depth_of"].contains other then
      .error (.mishap (.noAttribute (detectorName detector) other))
    else
      .ok .null

/-- One step, with fuel for how deep steps nest.  A guard leaves the detector that it entered,
whatever its name stands for by then. -/
def cycleStep (around : Surroundings) : Nat → Value → Run CycleState Document
  | 0, _ => Run.exhaust
  | fuel + 1, step => do
    let state ← Run.get
    let key := step.field "key"
    let doing ← Run.ofExcept (action step)
    if doing == "new" then
      let made ← Run.ofExcept (newDetector state.limits step)
      let id ← Run.ofExcept (step.field "id").toKey
      Run.modify (CycleState.add id made.2)
      pure (.bare made.1)
    else if doing == "limits" then
      quiet (Run.zoom CycleState.limits (fun limits after => { after with limits := limits })
        (changeLimits around step))
    else
      let id ← Run.ofExcept (step.field "id").toKey
      match doing, Keyed.find? id state.names with
      | "enter", some number => quiet (CycleState.enter number key)
      | "exit", some number => quiet (CycleState.leave number key)
      | "guard", some number =>
        Cycle.guarded (CycleState.enter number key) (CycleState.leave number key)
          (Desk.block ⟨around, cycleStep around fuel, CycleState.shown⟩ step)
      | "guard", none => Run.raise (.mishap (.noAttribute (detectorName none) "enter"))
      | other, found =>
        showing (Run.ofExcept (inspectDetector (found.bind (state.detectors[·]?)) key other))

def cycleDesk (around : Surroundings) (fuel : Nat) : Desk CycleState :=
  ⟨around, cycleStep around fuel, CycleState.shown⟩

def graphReport (around : Surroundings) (source : Value) : Except Failure Document := do
  let graph ← Cycle.PackageGraph.read (source.field "graph")
  let plain := fun (outcome : Except Failure Value) =>
    match outcome with
    | .ok content => .value content
    | .error failure => answer around (.error failure)
  let names := fun (found : List Scalar) => Value.list (found.map Value.scalar)
  return .object [
    ("cycles", .value (.list (graph.cycles.map names))),
    ("validate", plain (graph.validate.map fun _ => .null)),
    ("sort", plain (graph.sort.map names))]

end Session
end Interplay
