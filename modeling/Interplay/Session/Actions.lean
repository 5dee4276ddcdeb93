import Interplay.Execute.Deferred
import Interplay.Execute.Reader
import Interplay.Outline.Walk
import Interplay.Session.Formulas
import Interplay.Signal.Reader

/-!
Sessions on an ensemble of instances.

Every step concerns one instance, the first one if it names none, and every answer shows the
contents of all signals.
-/

namespace Interplay
namespace Session

open Execute

def actionFuel : Nat := 20000

structure ActionState where
  ensemble : Ensemble
  /-- How many faults of each instance have been shown. -/
  seen : List Nat

def actionHandler (around : Surroundings) (names : Keyed Scalar Nat) (entry : Value) :
    ActionHandler :=
  Execute.Stock.handler names (fun name =>
    if name == around.faultHandler then .fail (describedFault around entry) else .done) entry

/-- The actions that a step wants executed, read before if it asks for that. -/
def executeStep (setting : Setting) (context : ActionContext) (step : Value) : Run World Unit := do
  let event := step.field "event"
  let depth := step.fieldOr "depth" (.int 0)
  let dispatch ← Run.ofExcept
    ((Execute.Stock.strictRecorder? (step.field "dispatch") "dispatch" .text).map
    fun found => match found with
      | some run => Dispatch.external run
      | none => .none)
  let run := fun (actions : List Action) =>
    execute setting actionFuel (actions.map .action) context event dispatch depth
  if (step.field "parsed").isFilled then
    match ← Run.ofExcept (Outline.readActions (step.field "actions")) with
    | .inl none => pure ()
    | .inl (some action) => run [action]
    | .inr actions => run actions
  else
    executePersisted setting actionFuel (step.field "actions") context event dispatch depth

def callbackPlace (on : String) : Except Failure Nat :=
  match on with
  | "success" => .ok 0
  | "error" => .ok 1
  | "message" => .ok 2
  | other => .error (.mishap (.noAttribute "FetchCallbacks" ("on_" ++ other)))

def fetches (setting : Setting) (number : Nat) (api : Value) (journal : Journal) :
    Except Failure (List Value) := do
  let key ← api.toKey
  match journal.lookUp (Execute.Stock.fetchSpace number, key) with
  | .list calls => return calls
  | _ =>
    if (setting.instances number).apis.any fun entry => key == .text entry.1 then return []
    else .error (.mishap (.missingKey api))

def fetchCallback (setting : Setting) (number : Nat) (step : Value) (journal : Journal) :
    Except Failure Nat := do
  let call ← Value.item (← fetches setting number (step.field "api") journal)
      (step.fieldOr "call" (.int 0))
  let place ← callbackPlace (step.field "on").display
  match call with
  | .list continuations => return ((continuations[place]?).getD .null).toNat
  | _ => .error (.mishap .missingItem)

def noted (space : String) (step : Value) (journal : Journal) : Except Failure Value := do
  let id := step.field "id"
  match journal.lookUp (space, ← id.toKey) with
  | .null => .error (.mishap (.missingKey id))
  | note => return note

def readSettlement (step : Value) : Settlement :=
  match step.fieldText "how" with
  | "cleanup" => .cleanup (Execute.Stock.cleanup (step.field "label") .done)
  | "value" => .value (step.field "value")
  | "fail" => .failed
  | _ => .cancelled

/-- Subscribes to a signal, and notes the subscription under the name in the step. -/
def subscription (signal : Nat) (id : Value) : Plan :=
  .subscribe signal (fun content => .record (.list [.text "notify", id, content]) .done)
    (some (.record (.list [.text "teardown", id]) .done))
    fun found => .withKey id fun key =>
      .remember (Signal.subscriptionSpace, key) (.list [.ofNat signal, .ofNat found]) .done

def cancellation (id : Value) : Plan :=
  .withNote Signal.subscriptionSpace id fun found =>
    match found with
    | .list [signal, number] => .unsubscribe signal.toNat number.toNat .done
    | _ => .done

def instanceReport (setting : Setting) (number : Nat) (event : Value) (world : World) :
    Except Failure Value := do
  let state := world.machine.host number
  let data ← dataRoot setting (setting.contextOf number) event world
  return .object [
    ("owner", .text (ownerName setting number)),
    ("data", data),
    ("destroyed", .bool (world.cell (setting.instances number).signal).isDestroyed),
    ("trail", .texts (state.trail.steps.map TrailStep.display)),
    ("workflows", .texts (world.workflows number).path),
    ("active", .bool (world.workflows number).hasActive),
    ("errors", .ofNat state.sink.kept.length),
    ("total", .ofNat state.sink.total),
    ("memo_len", memoSize state)]

def instanceStep (around : Surroundings) (ensemble : Ensemble) (number : Nat) (step : Value) :
    Run World Document := do
  let setting := ensemble.setting
  let context := setting.contextOf number
  let signal := (setting.instances number).signal
  let powers := powers setting actionFuel
  let perform := fun (plan : Plan) => quiet (powers.perform plan)
  let world ← Run.get
  let journal := world.machine.journal
  let scope := known ensemble.scopes (step.field "scope")
  let setScopes := fun (scopes : Scopes Provision) =>
    Run.modify (World.modifyStage fun stage => { stage with scopes := scopes })
  match ← Run.ofExcept (actionOr "execute" step) with
  | "execute" => quiet (executeStep setting context step)
  | "callback" => do
    let continuation ← Run.ofExcept (fetchCallback setting number step journal)
    quiet (resume powers continuation .null (step.field "payload"))
  | "emit" => do
    let continuation ← Run.ofExcept (noted Execute.Stock.emitterSpace step journal)
    quiet (resume powers continuation.toNat (step.field "event") (step.field "data"))
  | "resolve" => do
    let promise ← Run.ofExcept (noted Execute.Stock.promiseSpace step journal)
    quiet (settle setting powers promise.toNat (readSettlement step))
  | "subscribe" => perform (subscription signal (step.field "id"))
  | "unsubscribe" => perform (cancellation (step.field "id"))
  | "set" => perform (.write signal (step.field "value") .done)
  | "destroy" => perform (.destroy signal .done)
  | "clean" => perform (.clean signal .done)
  | "limits" => quiet (onMachine (limitsOnMachine around step))
  | "advance" => quiet (onMachine (advanceStep step))
  | "tick" => quiet (drain setting powers actionFuel)
  | "eval" => do
    let inner ← formulaContext setting context (step.field "event")
    showing (onMachine (Evaluate.evaluatePersisted setting.environment formulaFuel (step.field "formula") inner
      (.int 0)))
  | "provide" => do
    let provided ← Run.ofExcept do world.host.scopes.provideAt (← scope) (step.field "key") (.host number)
    quiet (setScopes provided)
  | "unprovide" => do
    let removed ← Run.ofExcept do world.host.scopes.unprovideAt (← scope) (step.field "key")
    setScopes removed.2
    pure (.value (.bool removed.1))
  | "metrics" => showing (onMachine (exportMetrics number))
  | "state" => showing (Run.ofExcept (instanceReport setting number (step.field "event") world))
  | _ => pure .null

def stepInstance (ensemble : Ensemble) (step : Value) : Except Failure Nat :=
  match step.field? "instance" with
  | some name => known ensemble.names name
  | none => .ok ((ensemble.names.head?.map Prod.snd).getD 0)

def actionStep (around : Surroundings) (step : Value) : Run ActionState Document := do
  let state ← Run.get
  let number ← Run.ofExcept (stepInstance state.ensemble step)
  Run.zoom (fun state : ActionState => state.ensemble.world)
    (fun world state => { state with ensemble := { state.ensemble with world := world } })
    (instanceStep around state.ensemble number step)

def actionFields (around : Surroundings) (state : ActionState) : Fields × ActionState :=
  let ensemble := state.ensemble
  let world := ensemble.world
  let faults := (ensemble.names.zip state.seen).map fun entry =>
    (entry.1.1, newFaults around entry.1.2 entry.2 world.machine)
  let contents :=
    ensemble.names.map fun entry => (entry.1, Document.value (world.cell entry.2).content)
  (journalFields around world.machine.journal ++ faultFields faults ++ [("state", .keyed contents)],
   { ensemble := { ensemble with world := world.modifyMachine flush }
     seen := ensemble.names.map fun entry => keptCount entry.2 world.machine })

def actionDesk (around : Surroundings) : Desk ActionState :=
  ⟨around, actionStep around, actionFields around⟩

/-- The ensemble that a document describes; computed not-a-numbers are counted from `occurrence`
on. -/
def startActions (around : Surroundings) (occurrence : Nat) (source : Value) :
    Except Failure ActionState := do
  let machine := Machine.fresh (← startLimits around source) occurrence
  let names ← Ensemble.numbers source
  let code : HostCode := { formula := formulaHandler around, action := actionHandler around names }
  let ensemble ← Ensemble.read code formulaFuel machine source
  return { ensemble := ensemble, seen := ensemble.names.map fun _ => 0 }

end Session
end Interplay
