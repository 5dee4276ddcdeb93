import Interplay.Action.Reader
import Interplay.Execute.World

/-!
Execution of actions.

An action list runs in order, and a failing action never stops the ones after it: its failure is
logged and kept in the sink of its instance.  All changes of an instance's data go through its
signal.  A workflow body runs as its owner, but on the trail and among the running workflows of the
caller; its callbacks run as the caller.  Functions below take what runs nested lists and plans as a
parameter; `powers` ties the knot with fuel.
-/

namespace Interplay
namespace Execute

/-- An entry of an action list: persisted, or read before. -/
inductive Entry where
  | persisted (source : Value)
  | action (action : Action)

/-- What an execution makes known, to those who listen. -/
inductive Announcement where
  /-- An action came to its end. -/
  | dispatched (host : Nat) (kind : String) (succeeded : Bool)
  | called (plan : Plan)
  /-- A promise was made. -/
  | promised
  /-- A custom action returned. -/
  | returned (context : ActionContext) (answer : Signal.Answer Effect)
  /-- Somebody settled a promise, or tried to. -/
  | settled (promise : Nat) (settlement : Settlement)
  /-- A context learned how a promise was settled. -/
  | informed (promise : Nat) (context : ActionContext) (settlement : Settlement)
  /-- Deferred work started. -/
  | begun (plan : Plan) (awaiting : Option ActionContext)
  /-- Deferred work came to its end. -/
  | completed (awaiting : Option ActionContext) (outcome : Except Failure (Signal.Answer Effect))

/-- How formulas are evaluated and closures called, and who listens. -/
structure Means (υ : Type := Stage) where
  evaluate : Context → Option Formula → Run (World υ) Value
  invoke : Nat → Value → Run (World υ) Value
  heed : Announcement → Run (World υ) Unit

/-- What runs nested action lists and host code. -/
structure Runners (υ : Type := Stage) where
  execute : List Entry → ActionContext → Value → Dispatch → Value → Run (World υ) Unit
  call : Plan → Run (World υ) (Signal.Answer Effect)

structure Powers (υ : Type := Stage) extends Means υ, Runners υ

variable {υ : Type} [Staged υ]

def Powers.executeBelow (powers : Powers υ) (actions : List Action)
    (context : ActionContext) (event : Value)
    (dispatch : Dispatch) (depth : Value) : Run (World υ) Unit := do
  let below ← Run.ofExcept depth.successor
  powers.execute (actions.map Entry.action) context event dispatch below

def Powers.perform (powers : Powers υ) (plan : Plan) : Run (World υ) Unit := do
  let _ ← powers.call plan
  pure ()

/-- The data root of formulas: the content of the instance's signal, the overlay and the event. -/
def dataRoot (setting : Setting) (context : ActionContext) (event : Value) (world : World υ) :
    Except Failure Value := do
  let base ← (world.cell (setting.instances context.host).signal).content.spreadFilled
  let overlay ← context.overlay.spread
  return .mapping (Keyed.insert (.text "Event") event (Entries.merge base overlay))

/-- A formula context over the current data, with a cycle stack of its own. -/
def formulaContext (setting : Setting) (context : ActionContext) (event : Value) :
    Run (World υ) Context := do
  let world ← Run.get
  let data ← Run.ofExcept (dataRoot setting context event world)
  onMachine fun machine =>
    let added := machine.newStack
    .done { host := context.host, trailHost := context.stackHost, stack := added.1, data := data,
            package := (setting.instances context.host).package } added.2

def evaluateIn (setting : Setting) (context : Context) (formula : Option Formula) :
    Run (World υ) Value :=
  onMachine (Evaluate.evaluate setting.environment setting.formulaFuel formula context (.int 0))

def evaluateFor (setting : Setting) (powers : Powers υ) (context : ActionContext) (event : Value)
    (formula : Option Formula) :
    Run (World υ) Value := do
  let inner ← formulaContext setting context event
  powers.evaluate inner formula

def collectValues (step : Option Formula → Run (World υ) Value) : List NamedFormula →
    Entries → Run (World υ) Entries
  | [], entries => pure entries
  | named :: rest, entries =>
    if named.name.isEmpty then collectValues step rest entries
    else do
      let content ← step named.formula
      collectValues step rest (Keyed.insert (.text named.name) content entries)

/-- Evaluates named formulas, all in one context; unnamed ones are left out. -/
def namedValues (setting : Setting) (powers : Powers υ) (context : ActionContext) (event : Value)
    (named : List NamedFormula) :
    Run (World υ) Entries := do
  let inner ← formulaContext setting context event
  collectValues (powers.evaluate inner) named []

def assign (name : String) (content current : Value) : Except Failure Value := do
  let entries ← current.spreadFilled
  let assigned ← (Value.field "Variables" (.mapping entries)).spreadFilled
  return .mapping
    (Keyed.insert (.text "Variables")
      (.mapping (Keyed.insert (.text name) content assigned)) entries)

/-- Sets a variable; memoized results may have read variables, so they are forgotten. -/
def setVariable (setting : Setting) (powers : Powers υ) (context : ActionContext)
    (event : Value) (name : String) (data : Option Formula) : Run (World υ) Unit := do
  let content ← evaluateFor setting powers context event data
  let signal := (setting.instances context.host).signal
  let world ← Run.get
  let changed ← Run.ofExcept (assign name content (world.cell signal).content)
  Staged.write powers.call signal changed
  Run.modify (World.modifyMachine (Machine.modifyHost context.host fun state =>
    { state with memo := state.memo.map fun _ => Memo.empty }))

def triggerEvent (setting : Setting) (powers : Powers υ) (context : ActionContext) (event : Value)
    (name : String) (data : Option Formula) : Run (World υ) Unit :=
  match (setting.instances context.host).triggerEvent with
  | none => warn ("No event handler for TriggerEvent " ++ Text.quoted name)
  | some run => do
    let content ← evaluateFor setting powers context event data
    powers.perform (run name content)

/-- The actions of the first case whose condition is true, else the fallback. -/
def selectCase (condition : Option Formula → Run (World υ) Value)
    (fallback : Option (List Action)) :
    List ActionCase → Run (World υ) (Option (List Action))
  | [] => pure fallback
  | branch :: rest => do
    let content ← condition branch.condition
    if content.isTrue then pure (some branch.actions) else selectCase condition fallback rest

def runSwitch (setting : Setting) (powers : Powers υ) (context : ActionContext) (event : Value)
    (dispatch : Dispatch) (depth : Value) (cases : List ActionCase)
    (fallback : Option (List Action)) :
    Run (World υ) Unit := do
  let inner ← formulaContext setting context event
  match ← selectCase (powers.evaluate inner) fallback cases with
  | some actions => powers.executeBelow actions context event dispatch depth
  | none => pure ()

/-- Queues deferred work; without a loop it is dropped. -/
def spawn (plan : Plan) (awaiting : Option ActionContext) : Run (World υ) Unit := do
  let world ← Run.get
  if world.stage.hasLoop then Run.modify (World.enqueue (.start plan awaiting))
  else warn "No running event loop; deferred action result dropped"

def newContinuation (continuation : Continuation) : Run (World υ) Nat := fun world =>
  let added := world.newContinuation continuation
  .done added.1 added.2

def runFetch (setting : Setting) (powers : Powers υ) (context : ActionContext) (event : Value)
    (dispatch : Dispatch) (depth : Value) (name : String) (inputs : List NamedFormula)
    (onSuccess onError onMessage : List Action) : Run (World υ) Unit :=
  match Keyed.find? name (setting.instances context.host).apis with
  | none => warn ("API not found: " ++ name)
  | some api => do
    let success ← newContinuation (.body onSuccess context dispatch depth)
    let error ← newContinuation (.body onError context dispatch depth)
    let message ← newContinuation (.body onMessage context dispatch depth)
    let entries ← namedValues setting powers context event inputs
    match ← powers.call
      (api.fetch entries { onSuccess := success, onError := error, onMessage := message }) with
    | .deferred plan => spawn plan none
    | _ => pure ()

def abortFetch (setting : Setting) (powers : Powers υ) (context : ActionContext) (name : String) :
    Run (World υ) Unit :=
  match Keyed.find? name (setting.instances context.host).apis with
  | none => pure ()
  | some api =>
    match api.cancel with
    | none => pure ()
    | some plan => powers.perform plan

def setUrlParameter (setting : Setting) (powers : Powers υ)
    (context : ActionContext) (event : Value)
    (name : String) (data : Option Formula) (historyMode : Value) : Run (World υ) Unit :=
  match (setting.instances context.host).setUrlParameters with
  | none => warn "URL parameters are not available here"
  | some run => do
    let content ← evaluateFor setting powers context event data
    powers.perform (run [(.text name, content)] historyMode)

def setUrlParameters (setting : Setting) (powers : Powers υ)
    (context : ActionContext) (event : Value)
    (parameters : List NamedFormula) (historyMode : Value) : Run (World υ) Unit :=
  match (setting.instances context.host).setUrlParameters with
  | none => warn "URL parameters are not available here"
  | some run => do
    let entries ← namedValues setting powers context event parameters
    powers.perform (run entries historyMode)

def ownerName (setting : Setting) (number : Nat) : String :=
  match (setting.instances number).component with
  | none => ""
  | some component =>
    (providerKey (.text component.name) (setting.instances number).package).display

def providedHost (setting : Setting) (context : ActionContext) (key : Value) (world : World υ) :
    Except Failure (Option Nat) :=
  match (setting.instances context.host).scope with
  | none => .ok none
  | some scope => do
    match ← world.stage.scopes.consumeAt scope key with
    | some (.host number) => return some number
    | _ => return none

/-- The owner and the body of the workflow to run; none if there is none, which is warned about. -/
def findWorkflow (setting : Setting) (context : ActionContext) (name : String)
    (provider package : Value) :
    Run (World υ) (Option (ActionContext × Workflow)) :=
  let workflowOf := fun (number : Nat) =>
    (setting.instances number).component.bind fun component => Keyed.find? name component.workflows
  if provider.isFilled then do
    let key := providerKey provider package
    let world ← Run.get
    match ← Run.ofExcept (providedHost setting context key world) with
    | none => do
      warn ("Context provider not found: " ++ key.display)
      pure none
    | some number =>
      match workflowOf number with
      | some workflow =>
        if workflow.isExposed then pure (some (setting.contextOf number, workflow))
        else do
          warn ("Workflow " ++ Text.quoted name ++ " is not exposed by " ++ key.display)
          pure none
      | none => do
        warn ("Workflow " ++ Text.quoted name ++ " is not exposed by " ++ key.display)
        pure none
  else
    match workflowOf context.host with
    | some workflow => pure (some (context, workflow))
    | none => do
      warn ("Workflow not found: " ++ name)
      pure none

def runWorkflow (setting : Setting) (powers : Powers υ) (context : ActionContext) (event : Value)
    (dispatch : Dispatch) (depth : Value) (name : String) (parameters : List NamedFormula)
    (callbacks : List ActionBody) (provider package : Value) : Run (World υ) Unit := do
  match ← findWorkflow setting context name provider package with
  | none => pure ()
  | some (owner, workflow) => do
    let entries ← namedValues setting powers context event parameters
    let overlay ← Run.ofExcept owner.overlay.spread
    let target : ActionContext :=
      { host := owner.host
        stackHost := context.stackHost
        overlay := .mapping (Keyed.insert (.text "Parameters") (.mapping entries) overlay) }
    let key := ownerName setting owner.host ++ ":" ++ name
    underWorkflow context.stackHost key <| onTrail context.stackHost "workflow" key <|
      powers.executeBelow workflow.actions target event
        (.caller name callbacks context dispatch depth) depth

def dispatchCallback (powers : Powers υ) (name : String) (content : Value) :
    Dispatch → Run (World υ) Unit
  | .none => pure ()
  | .external run => powers.perform (run name content)
  | .caller workflow callbacks context outer depth =>
    match ActionBody.find? name callbacks with
    | none => warn ("Workflow " ++ Text.quoted workflow ++ " has no callback " ++ Text.quoted name)
    | some actions => powers.executeBelow actions context content outer depth

def runCallback (setting : Setting) (powers : Powers υ) (context : ActionContext) (event : Value)
    (dispatch : Dispatch) (name : String) (data : Option Formula) : Run (World υ) Unit :=
  match dispatch with
  | .none => warn ("TriggerWorkflowCallback " ++ Text.quoted name ++ " outside of a workflow")
  | other => do
    let content ← evaluateFor setting powers context event data
    dispatchCallback powers name content other

/-- Ties a cleanup to the life of the instance's signal; if that is over it runs at once. -/
def onDestroy (setting : Setting) (powers : Powers υ) (context : ActionContext) (cleanup : Plan) :
    Run (World υ) Unit := do
  let world ← Run.get
  let signal := (setting.instances context.host).signal
  if (world.cell signal).isDestroyed then powers.perform cleanup
  else do
    let _ ← Staged.attach powers.call signal (.call fun _ => .done) (.call cleanup)
    pure ()

def closurePlan (handle : Nat) : Plan :=
  .perform (.invoke handle .null) fun outcome =>
    match outcome with
    | .ok content => .ofValue content
    | .error failure => .fail failure

def callable? : Signal.Answer Effect → Option Plan
  | .cleanup plan => some plan
  | .value (.closure handle _) => some (closurePlan handle)
  | _ => none

def Settlement.result? : Settlement → Option (Signal.Answer Effect)
  | .cleanup plan => some (.cleanup plan)
  | .value content => some (.value content)
  | .failed => none
  | .cancelled => none

/-- Registers the cleanup of a settled promise for one context; its failure concerns nobody. -/
def deliver (setting : Setting) (powers : Powers υ) (settlement : Settlement)
    (context : ActionContext) :
    Run (World υ) Unit :=
  match settlement.result?.bind callable? with
  | some plan => do
    let _ ← Run.attempt (onDestroy setting powers context plan)
    pure ()
  | none => pure ()

def inform (setting : Setting) (powers : Powers υ) (number : Nat) (settlement : Settlement)
    (context : ActionContext) : Run (World υ) Unit := do
  powers.heed (.informed number context settlement)
  deliver setting powers settlement context

def awaitPromise (setting : Setting) (powers : Powers υ) (context : ActionContext) (number : Nat) :
    Run (World υ) Unit := do
  let world ← Run.get
  match (world.stage.promises[number]?).bind Promise.settlement with
  | some settlement => inform setting powers number settlement context
  | none =>
    Run.modify (World.modifyStage fun stage =>
      { stage with promises := stage.promises.modify number fun promise =>
          { promise with waiting := promise.waiting ++ [context] } })

def registerAnswer (setting : Setting) (powers : Powers υ) (context : ActionContext)
    (answer : Signal.Answer Effect) : Run (World υ) Unit :=
  match callable? answer with
  | some plan => onDestroy setting powers context plan
  | none =>
    match answer with
    | .promise number => awaitPromise setting powers context number
    | .deferred plan => spawn plan (some context)
    | _ => pure ()

def runCustom (setting : Setting) (powers : Powers υ) (context : ActionContext) (event : Value)
    (dispatch : Dispatch) (depth : Value) (name : String) (declared : Value)
    (arguments : List NamedFormula) (events : List ActionBody) : Run (World υ) Unit := do
  let host := setting.instances context.host
  let package := declared.orElse host.package
  match ← Run.ofExcept (host.registry.actions.resolve (.text name) package) with
  | none => warn ("Action not found: " ++ package.qualify name)
  | some resolution => do
    let handler := match resolution with
      | .versioned entry _ => entry
      | .legacy entry _ => entry
    let trigger ← newContinuation (.emitter name events context dispatch depth)
    let entries ← namedValues setting powers context event arguments
    let answer ← powers.call
        (handler entries { root := host.root, event := event, trigger := trigger })
    powers.heed (.returned context answer)
    registerAnswer setting powers context answer

def runAction (setting : Setting) (powers : Powers υ) (context : ActionContext) (event : Value)
    (dispatch : Dispatch) (depth : Value) : Action → Run (World υ) Unit
  | .setVariable name data => setVariable setting powers context event name data
  | .triggerEvent name data => triggerEvent setting powers context event name data
  | .switch cases fallback _ => runSwitch setting powers context event dispatch depth cases fallback
  | .fetch name inputs onSuccess onError onMessage =>
    runFetch setting powers context event dispatch depth name inputs onSuccess onError onMessage
  | .abortFetch name => abortFetch setting powers context name
  | .custom name package arguments events =>
    runCustom setting powers context event dispatch depth name package arguments events
  | .setUrlParameter name data historyMode =>
    setUrlParameter setting powers context event name data historyMode
  | .setUrlParameters parameters historyMode =>
    setUrlParameters setting powers context event parameters historyMode
  | .triggerWorkflow name parameters callbacks provider package =>
    runWorkflow setting powers context event dispatch depth name parameters
      callbacks provider package
  | .triggerWorkflowCallback name data =>
    runCallback setting powers context event dispatch name data

def componentName (setting : Setting) (number : Nat) : Value :=
  match (setting.instances number).component with
  | some component => .text component.name
  | none => .null

def recordFailure (setting : Setting) (context : ActionContext) (kind : String) (index : Nat)
    (failure : Failure) : Run (World υ) Unit := do
  let world ← Run.get
  let path := world.machine.trailSteps context.stackHost
  match failure with
  | .fault fault => do
    warn fault.text
    onMachine (Machine.addFault context.host (fault.stamp path))
  | .mishap mishap => do
    Run.modify (World.log .error ("Action execution error in " ++ kind))
    onMachine (Machine.addFault context.host (Fault.action (.text kind) (.ofNat index)
      (.text ("Action execution error: " ++ mishap.message)) path
      (componentName setting context.host) (some mishap)))

def keepOutcome (setting : Setting) (context : ActionContext) (kind : String) (index : Nat) :
    Except Failure Unit → Run (World υ) Bool
  | .ok () => pure true
  | .error failure => do
    recordFailure setting context kind index failure
    pure false

def contain (setting : Setting) (powers : Powers υ) (context : ActionContext)
    (kind : String) (index : Nat) (body : Run (World υ) Unit) : Run (World υ) Bool := do
  let outcome ← Run.attempt body
  powers.heed (.dispatched context.host kind outcome.isOk)
  keepOutcome setting context kind index outcome

/-- Runs the body of an action behind a boundary: on the trail, with its failure kept and its
duration recorded. -/
def behindBoundary (setting : Setting) (powers : Powers υ) (context : ActionContext)
    (kind : String) (index : Nat) (body : Run (World υ) Unit) : Run (World υ) Unit := do
  let before ← Run.get
  let succeeded ← onTrail context.stackHost "action" kind
      (contain setting powers context kind index body)
  let after ← Run.get
  onMachine (Machine.onMetrics context.host () (Metrics.record (.text kind) (.text "action")
    after.machine.now (Measure.elapsed before.machine.now after.machine.now) (some succeeded)))

def runGuarded (setting : Setting) (powers : Powers υ) (context : ActionContext) (event : Value)
    (dispatch : Dispatch) (depth : Value) (index : Nat) (action : Action) : Run (World υ) Unit :=
  behindBoundary setting powers context action.kind index
    (runAction setting powers context event dispatch depth action)

def unknownKind : Value → String
  | .mapping entries => (Value.field "type" (.mapping entries)).display
  | other => other.typeName

def runEntryWith (run : Action → Run (World υ) Unit) : Entry → Run (World υ) Unit
  | .action action => run action
  | .persisted source => do
    match ← Run.ofExcept (Action.read source) with
    | some action => run action
    | none => warn ("Unknown action type: " ++ unknownKind source)

def runEntry (setting : Setting) (powers : Powers υ) (context : ActionContext) (event : Value)
    (dispatch : Dispatch) (depth : Value) (index : Nat) : Entry → Run (World υ) Unit :=
  runEntryWith (runGuarded setting powers context event dispatch depth index)

/-- Runs a body unless its depth is over the ceiling; at depth zero the whole list is timed. -/
def runList (context : ActionContext) (depth : Value) (body : Run (World υ) Unit) :
    Run (World υ) Unit := do
  let world ← Run.get
  match world.machine.limits.check "action" "max_depth" depth with
  | .error (.fault fault) => do
    Run.modify (World.log .error fault.text)
    onMachine (Machine.addFault context.host
      (fault.stamp (world.machine.trailSteps context.stackHost)))
  | .error failure => Run.raise failure
  | .ok () =>
    if depth.same (.int 0) ∧ world.machine.hasMetrics context.host then
      timed context.host (.text "execute") (.text "action")
        (world.machine.limits.ceiling "action" "max_execution_time") body
    else
      body

def executeWith (setting : Setting) (powers : Powers υ) (entries : List Entry)
    (context : ActionContext)
    (event : Value) (dispatch : Dispatch) (depth : Value) : Run (World υ) Unit :=
  runList context depth
    (Run.forEachIndexed (runEntry setting powers context event dispatch depth) 0 entries)

/-- Resumes a continuation with an event name and a payload; the name matters to event triggers
only. -/
def resume (powers : Powers υ) (number : Nat) (event payload : Value) : Run (World υ) Unit := do
  let world ← Run.get
  match world.stage.continuations[number]? with
  | none => pure ()
  | some (.body actions context dispatch depth) =>
    powers.executeBelow actions context payload dispatch depth
  | some (.emitter action events context dispatch depth) => do
    let key ← Run.ofExcept event.toKey
    let found := match key with
      | .text name => ActionBody.find? name events
      | _ => none
    match found with
    | none => warn ("Action " ++ Text.quoted action ++ " has no event " ++ event.quoted)
    | some actions => powers.executeBelow actions context payload dispatch depth

def performEffect (powers : Powers υ) : Effect → Run (World υ) Value
  | .note note => fun world =>
    let outcome := note.apply world.machine.journal
    .done outcome.1 (world.modifyMachine fun machine => { machine with journal := outcome.2 })
  | .advance seconds => do
    onMachine (Machine.advance seconds)
    pure .null
  | .resume number event payload => do
    resume powers number event payload
    pure .null
  | .invoke handle arguments => powers.invoke handle arguments
  | .promise => do
    powers.heed .promised
    fun world =>
      let added := world.newPromise
      .done (.ofNat added.1) added.2

/-- Nested lists and host code, with fuel for how deep they nest. -/
def runnersWith (setting : Setting) (means : Means υ) : Nat → Runners υ
  | 0 => { execute := fun _ _ _ _ _ => Run.exhaust, call := fun _ => Run.exhaust }
  | fuel + 1 =>
    let below : Powers υ := ⟨means, runnersWith setting means fuel⟩
    { execute := executeWith setting below
      call := fun plan => do
        means.heed (.called plan)
        Staged.runScript below.call (performEffect below) plan }

def powersWith (setting : Setting) (means : Means υ) (fuel : Nat) : Powers υ :=
  ⟨means, runnersWith setting means fuel⟩

/-- Nobody listens. -/
def Means.silent (setting : Setting) : Means υ where
  evaluate := evaluateIn setting
  invoke handle arguments :=
    onMachine (Evaluate.invoke
      (Evaluate.evaluateNode setting.environment setting.formulaFuel) handle arguments)
  heed _ := pure ()

def powers (setting : Setting) (fuel : Nat) : Powers :=
  powersWith setting (.silent setting) fuel

def entriesOf : Value → Except Failure (List Entry)
  | .mapping entries => .ok [.persisted (.mapping entries)]
  | other => do return (← other.iterate).map Entry.persisted

/-- Executes a list of entries. -/
def execute (setting : Setting) (fuel : Nat) (entries : List Entry)
    (context : ActionContext) (event : Value)
    (dispatch : Dispatch) (depth : Value) : Run World Unit :=
  (powers setting fuel).execute entries context event dispatch depth

/-- Executes a persisted action or action list; null is nothing to do. -/
def executePersistedWith (powers : Powers υ) (source : Value)
    (context : ActionContext) (event : Value)
    (dispatch : Dispatch) (depth : Value) : Run (World υ) Unit :=
  if source.isNull then pure ()
  else
    match entriesOf source with
    | .ok entries => powers.execute entries context event dispatch depth
    | .error failure => runList context depth (Run.raise failure)

def executePersisted (setting : Setting) (fuel : Nat) (source : Value)
    (context : ActionContext) (event : Value)
    (dispatch : Dispatch) (depth : Value) : Run World Unit :=
  executePersistedWith (powers setting fuel) source context event dispatch depth

end Execute
end Interplay
