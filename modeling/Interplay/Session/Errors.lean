import Interplay.Evaluate.Reader
import Interplay.Session

/-!
Sessions on failures: making them, showing them, keeping them in a sink and attributing them to a
trail.

Attributing a fault changes it wherever it is kept.
-/

namespace Interplay
namespace Session

structure ErrorState where
  /-- The failures kept, by number. -/
  sink : Sink Nat
  trail : Trail
  /-- Every failure made so far; names share one where they stand for the same failure. -/
  made : Array Failure
  names : Keyed Scalar Nat

namespace ErrorState

def failure (number : Nat) (state : ErrorState) : Failure :=
  (state.made[number]?).getD boom

def keep (name : Scalar) (failure : Failure) (state : ErrorState) : ErrorState :=
  { state with made := state.made.push failure, names := Keyed.insert name state.made.size state.names }

def kept (state : ErrorState) : List Failure :=
  state.sink.kept.map fun number => state.failure number

def shown (state : ErrorState) : Fields × ErrorState :=
  let sink := state.sink
  let counts : List Value :=
    [.text sink.display, .ofNat sink.kept.length, .ofNat sink.dropped, .ofNat sink.total,
    .bool (!sink.kept.isEmpty), .texts (state.kept.map Failure.message)]
  let steps : List Value :=
    [.ofNat state.trail.depth, .texts (state.trail.steps.map TrailStep.display)]
  ([("sink", .value (.list counts)), ("trail", .value (.list steps))], state)

def onTrail (change : Trail → Trail) (state : ErrorState) : ErrorState :=
  { state with trail := change state.trail }

end ErrorState

def readTrailStep (source : Value) : TrailStep :=
  { kind := source.field "kind", name := source.field "name", package := source.field "package",
    context := source.field "context" }

/-- A failure of host code; a missing key shows its name in quotes. -/
def hostMishap (around : Surroundings) (label : String) (message : Value) : Mishap :=
  match around.failureKind label with
  | .missingKey => .missingKey message
  | _ => .host label message.display

def readCause (around : Surroundings) (source : Value) : Option Mishap :=
  match source.field "cause" with
  | .null => none
  | .list [.text label, content] => some (hostMishap around label content)
  | other => some (.host other.typeName other.display)

def readFormulaFault (around : Surroundings) (spec : Value) (path : List TrailStep) :
    Except Failure Fault := do
  let message := spec.field "message"
  let type := spec.field "formula_type"
  let mentioned := (← message.holds "None") || (← message.holds "null")
  return {
    source := .formula (spec.field "formula_name") type
    kind := .text "formula_evaluation"
    message := message
    path := path
    component := spec.field "component"
    suggestedFix := Fault.formulaFix mentioned type
    cause := readCause around spec }

def readCyclePath (source : Value) : Except Failure (List Value) :=
  match source.iterate with
  | .ok items => .ok items
  | .error failure =>
    if source.isFilled then .error (.mishap (.notSpreadable source.typeName)) else .error failure

def readFailure (around : Surroundings) (spec : Value) : Except Failure Failure := do
  let path := (← spec.fieldItems "path").map readTrailStep
  let message := spec.field "message"
  let component := spec.field "component"
  match around.failureKind (spec.fieldText "class") with
  | .formula => return .fault (← readFormulaFault around spec path)
  | .action =>
    return .fault
      (Fault.action (spec.field "action_type") (spec.field "index") message path component
      (readCause around spec))
  | .limit =>
    return .fault (Fault.limit (spec.field "category") (spec.field "limit") (spec.field "value")
      (spec.field "ceiling"))
  | .cycle =>
    match Failure.cycle (spec.field "domain") (← readCyclePath (spec.field "cycle_path"))
      (spec.field "repeated") with
    | .fault fault => return .fault fault
    | failure => .error failure
  | .missingKey => return .mishap (.missingKey message)
  | .host label => return .mishap (.host label message.display)
  | .general =>
    return .fault { Fault.general (spec.field "kind") message path with
      component := component, suggestedFix := spec.field "fix", cause := readCause around spec }

/-- What a document may say about a fault besides its kind, its message and its path. -/
def faultParts : List String :=
  ["component", "suggested_fix", "cause"]

/-- Checks the names of the parts that a document gives a fault: what the fault has already may not
be among them, and nothing that a fault does not have. -/
def checkParts (around : Surroundings) (className : String) (names : List String) :
    Except Failure Unit :=
  match names.find? ["self", "kind", "message"].contains with
  | some name => .error (.mishap (.repeatedArgument "ExecutionTrail.create_error" name))
  | none =>
    if names.contains "path" then
      .error (.mishap (.repeatedName (around.operationName className) "path"))
    else match names.find? fun name => !faultParts.contains name with
      | some name => .error (.mishap (.unexpectedArgument (className ++ ".__init__") name))
      | none => .ok ()

/-- A fault on a trail, with what a document says about it besides.  There, any value may be the
cause. -/
def createFault (around : Surroundings) (trail : Trail) (step : Value) : Except Failure Fault := do
  let bare := Fault.general (step.field "kind") (step.field "message") trail.steps
  match step.fieldOr "extra" (.mapping []) with
  | .mapping entries =>
    checkParts around (around.failureName (.fault bare)) (entries.map fun entry => entry.1.display)
    let extra := Value.mapping entries
    return { bare with
      component := extra.field "component"
      suggestedFix := extra.field "suggested_fix"
      cause := match extra.field "cause" with
        | .null => none
        | cause => some (.host cause.typeName cause.display) }
  | other =>
    .error (.mishap
      (.notArguments (around.operationName "ExecutionTrail.create_error") other.typeName))

def failureObject (around : Surroundings) : Failure → Value
  | .fault fault => faultObject around fault
  | .mishap mishap => .object [("text", .text mishap.message)]

def keepFailure (around : Surroundings) (step : Value) (failure : Failure) :
    Run ErrorState Document := do
  let id ← Run.ofExcept (step.field "id").toKey
  Run.modify (ErrorState.keep id failure)
  pure (failureObject around failure)

def onlyOfFaults (around : Surroundings) (mishap : Mishap) (member : String) : Failure :=
  .mishap (.noAttribute (around.failureName (.mishap mishap)) member)

def showFailure (around : Surroundings) : Failure → Except Failure Document
  | .fault fault => .ok (faultObject around fault)
  | .mishap mishap => .error (onlyOfFaults around mishap "to_dict")

def messagesOfKind (around : Surroundings) (kind : Value) : List Failure →
    Except Failure (List Value)
  | [] => .ok []
  | .fault fault :: rest => do
    let others ← messagesOfKind around kind rest
    return if fault.kind.same kind then fault.message :: others else others
  | .mishap mishap :: _ => .error (onlyOfFaults around mishap "kind")

def attributeFailure (around : Surroundings) (number : Nat) (step : Value) :
    Run ErrorState Document := do
  let state ← Run.get
  let failure := state.failure number
  let fault := failure.attributed state.trail.steps (step.fieldOr "kind" (.text "unknown"))
  let target ← Run.ofExcept (step.field "to").toKey
  let same := match failure with
    | .fault _ => true
    | .mishap _ => false
  Run.modify fun state =>
    if same then
      { state with
        made := state.made.modify number fun _ => .fault fault
        names := Keyed.insert target number state.names }
    else
      state.keep target (.fault fault)
  pure (.value (.object [("same", .bool same), ("error", faultObject around fault)]))

def errorStep (around : Surroundings) : Nat → Value → Run ErrorState Document
  | 0, _ => Run.exhaust
  | fuel + 1, step => do
    let state ← Run.get
    let named := known state.names (step.field "id")
    match ← Run.ofExcept (action step) with
    | "make" => do keepFailure around step (← Run.ofExcept (readFailure around (step.field "spec")))
    | "create" =>
      do keepFailure around step (.fault (← Run.ofExcept (createFault around state.trail step)))
    | "show" => Run.ofExcept do showFailure around (state.failure (← named))
    | "add" => do
      let number ← Run.ofExcept named
      let sink ← Run.ofExcept (state.sink.add number)
      Run.modify fun state => { state with sink := sink }
      pure (.value (.bool (sink.dropped == state.sink.dropped)))
    | "of_kind" => do
      let messages ← Run.ofExcept (messagesOfKind around (step.field "kind") state.kept)
      pure (.bare (.list messages))
    | "clear" => change fun state => { state with sink := state.sink.clear }
    | "push" => change (ErrorState.onTrail (Trail.push (readTrailStep step)))
    | "pop" => do
      Run.modify (ErrorState.onTrail Trail.pop)
      pure (orNull (fun top => .list
        [.text top.display, top.kind, top.name, top.package, top.context]) state.trail.top?)
    | "attribute" => do attributeFailure around (← Run.ofExcept named) step
    | "step" => do
      Run.modify (ErrorState.onTrail (Trail.push { readTrailStep step with context := .null }))
      Run.ensuring (ErrorState.onTrail Trail.pop)
        (Desk.block ⟨around, errorStep around fuel, ErrorState.shown⟩ step)
    | _ => pure .null

def errorDesk (around : Surroundings) (fuel : Nat) : Desk ErrorState :=
  ⟨around, errorStep around fuel, ErrorState.shown⟩

def startErrors (around : Surroundings) (source : Value) : Except Failure ErrorState := do
  return { sink := Sink.read (← startLimits around source) source, trail := Trail.empty, made := #[], names := [] }

end Session
end Interplay
