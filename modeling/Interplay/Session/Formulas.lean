import Interplay.Component.Reader
import Interplay.Evaluate.Evaluator
import Interplay.Evaluate.Reader
import Interplay.Evaluate.Stock
import Interplay.Registry.Reader
import Interplay.Session.Members
import Interplay.Session.Metrics

/-!
Sessions on one formula context.
-/

namespace Interplay
namespace Session

def describedFault (around : Surroundings) (entry : Value) : Failure :=
  match (entry.fieldOr "path" (.list [])).iterate with
  | .ok names =>
    .fault (Fault.general (entry.fieldOr "kind_name" (.text "custom"))
      (entry.fieldOr "message" (.text around.faultMessage))
      (names.map (TrailStep.plain (.text "node"))))
  | .error failure => failure

def formulaHandler (around : Surroundings) (entry : Value) : FormulaHandler :=
  Stock.handler (fun name =>
    if name == around.faultHandler then Stock.failing (describedFault around entry)
    else if name == "check_limit" then withinLimit around.limitsHome
    else Stock.constant .null) entry

/-- How deep evaluations may nest. -/
def formulaFuel : Nat := 1000000

structure FormulaState where
  machine : Machine
  registry : Registry FormulaHandler Unit
  component : Option Component
  logErrors : Bool
  context : Context
  /-- How many faults have been shown. -/
  seen : Nat

namespace FormulaState

def environment (state : FormulaState) : Environment := fun _ =>
  { formulas := state.registry.formulas, component := state.component,
    logErrors := state.logErrors }

def onMachine {α : Type} (body : Run Machine α) : Run FormulaState α :=
  Run.zoom machine (fun machine state => { state with machine := machine }) body

def onRegistry (body : Run (Registry FormulaHandler Unit) Unit) : Run FormulaState Unit :=
  Run.zoom registry (fun registry state => { state with registry := registry }) body

def setContext (context : Context) (state : FormulaState) : FormulaState :=
  { state with context := context }

end FormulaState

def limitsOnMachine (around : Surroundings) (step : Value) : Run Machine Unit :=
  Run.zoom Machine.limits (fun limits machine => { machine with limits := limits })
    (changeLimits around step)

def memoSize (state : HostState) : Value :=
  orNull (fun memo => .ofNat memo.size) state.memo

/-- Forgets a name, or everything for null.  Names are texts, so any other key is not there. -/
def forget (name : Value) (memo : Memo String String) : Except Failure (Memo String String) :=
  if name.isNull then .ok .empty
  else do
    match ← name.removalKey memo.entries with
    | some (.text key) => return memo.erase key
    | _ => return memo

def clearMemoOf (number : Nat) (name : Value) : Run Machine Value := do
  let machine ← Run.get
  match (machine.host number).memo with
  | none => Run.raise (.mishap (.noAttribute "NoneType" "clear"))
  | some memo => do
    let cleared ← Run.ofExcept (forget name memo)
    Run.modify (Machine.modifyHost number fun state => { state with memo := some cleared })
    pure (.ofNat cleared.size)

def memoNames (names : List Value) (memo : Memo String String) : Except Failure (List Value) :=
  names.filterM fun name => do
    match ← name.toKey with
    | .text key => return memo.contains key
    | _ => return false

def formulaStateReport (step : Value) (state : FormulaState) : Except Failure Value := do
  let host := state.machine.host 0
  let memo ← match host.memo with
    | none => pure Value.null
    | some memo => (step.fieldItems "names" >>= fun names => memoNames names memo).map Value.list
  return .object [
    ("trail", .texts (host.trail.steps.map TrailStep.display)),
    ("cycles", .texts (state.machine.stack state.context.stack).path),
    ("errors", .ofNat host.sink.kept.length),
    ("dropped", .ofNat host.sink.dropped),
    ("total", .ofNat host.sink.total),
    ("memo", memo),
    ("memo_len", memoSize host)]

/-- The slots that a step adds to the data root; none may have the name of the context itself. -/
def readSlots (around : Surroundings) (source : Value) : Except Failure Entries :=
  match source with
  | .mapping entries =>
    if Keyed.contains (.text "self") entries then
      .error (.mishap (.repeatedArgument "FormulaContext.with_data" "self"))
    else
      .ok entries
  | other => .error (.mishap (.notArguments (around.operationName "with_data") other.typeName))

def formulaStep (around : Surroundings) (step : Value) : Run FormulaState Document := do
  let state ← Run.get
  match ← Run.ofExcept (actionOr "eval" step) with
  | "eval" =>
    showing (FormulaState.onMachine (Evaluate.evaluatePersisted state.environment formulaFuel
      (step.field "formula") state.context (step.fieldOr "depth" (.int 0))))
  | "register" =>
    quiet (FormulaState.onRegistry (Registry.readEntry (formulaHandler around) (fun _ => ())
      ((step.field "entry").orElse step)))
  | "with_data" => do
    let context ← Run.ofExcept
        ((readSlots around (step.field "slots")).bind state.context.withSlots)
    Run.modify (FormulaState.setContext context)
    pure (.value context.data)
  | "with_package" => do
    Run.modify (FormulaState.setContext { state.context with package := step.field "package" })
    pure (.bare (step.field "package"))
  | "memo_clear" => showing (FormulaState.onMachine (clearMemoOf 0 (step.field "name")))
  | "limits" => quiet (FormulaState.onMachine (limitsOnMachine around step))
  | "clear_errors" => do
    Run.modify fun state => { state with seen := 0 }
    FormulaState.onMachine
      (change (Machine.modifyHost 0 fun host => { host with sink := host.sink.clear }))
  | "advance" => quiet (FormulaState.onMachine (advanceStep step))
  | "metrics" => showing (FormulaState.onMachine (exportMetrics 0))
  | "state" => showing (Run.ofExcept (formulaStateReport step state))
  | _ => pure .null

def newFaults (around : Surroundings) (number seen : Nat) (machine : Machine) : List Value :=
  ((machine.host number).sink.kept.drop seen).map (faultObject around)

def faultFields (found : Keyed Scalar (List Value)) : Fields :=
  match found.filter fun entry => !entry.2.isEmpty with
  | [] => []
  | shown => [("errors", .keyed (shown.map fun entry => (entry.1, .value (.list entry.2))))]

def keptCount (number : Nat) (machine : Machine) : Nat :=
  (machine.host number).sink.kept.length

def formulaFields (around : Surroundings) (state : FormulaState) : Fields × FormulaState :=
  (journalFields around state.machine.journal
      ++ faultFields [(.text "ctx", newFaults around 0 state.seen state.machine)],
   { state with machine := flush state.machine, seen := keptCount 0 state.machine })

def formulaDesk (around : Surroundings) : Desk FormulaState :=
  ⟨around, formulaStep around, formulaFields around⟩

/-- The context that a document describes; computed not-a-numbers are counted from `occurrence`
on. -/
def startFormulas (around : Surroundings) (occurrence : Nat) (source : Value) : Except Failure FormulaState := do
  let machine := Machine.fresh (← startLimits around source) occurrence
  let registry ← Registry.readAll (formulaHandler around) (fun _ => ()) (← source.fieldItems "registry")
  let component ← Component.read (source.field "component")
  return {
    machine := { machine with hosts := #[machine.readHost source], cycleStacks := #[Cycle.Stack.empty .formula] }
    registry := registry
    component := component
    logErrors := (source.field "log_errors").isFilled
    context := {
      host := 0, trailHost := 0, stack := 0
      data := source.fieldOr "data" (.mapping [])
      package := source.field "package" }
    seen := 0 }

end Session
end Interplay
