import Interplay.Cycle.Detector
import Interplay.Evaluate.Evaluator
import Interplay.Execute.Plan
import Interplay.Scope
import Interplay.Signal.Store

/-!
The state that actions work on: the signals of all instances, the machine that evaluates formulas,
the running workflows, the continuations handed out, the promises and the queue of deferred work.
-/

namespace Interplay
namespace Execute

inductive Provision where
  | host (number : Nat)
  | signal (number : Nat)
  | value (content : Value)

inductive Settlement where
  | cleanup (plan : Plan)
  | value (content : Value)
  | failed
  | cancelled

structure Promise where
  waiting : List ActionContext
  settlement : Option Settlement

/-- An item of the queue: work to start, with the context that awaits a cleanup from it, or the end
of work. -/
inductive Job where
  | start (plan : Plan) (awaiting : Option ActionContext)
  | finished (failed : Bool)

structure Stage where
  machine : Machine
  workflows : Array (Cycle.Workflow String)
  continuations : Array Continuation
  promises : Array Promise
  queue : List Job
  /-- Whether there is a loop that will run the queue. -/
  hasLoop : Bool
  scopes : Scopes Provision

instance : Signal.HasLog Stage where
  log level source message stage :=
    { stage with machine := stage.machine.log level source message }

/-- All signals, in surroundings that hold a stage. -/
abbrev World (υ : Type := Stage) := Signal.Store Effect υ

/-- Surroundings that hold a stage, with the way in which signals are operated in them: plainly, or
with everything that happens to them written down. -/
class Staged (υ : Type) extends Signal.HasLog υ where
  stage : υ → Stage
  restage : (Stage → Stage) → υ → υ
  write : Signal.Caller Effect υ → Nat → Value → Run (World υ) Unit
  attach : Signal.Caller Effect υ → Nat → Signal.Reaction Effect →
    Signal.Release Effect → Run (World υ) Nat
  clean : Signal.Caller Effect υ → Nat → Run (World υ) Unit
  destroy : Signal.Caller Effect υ → Nat → Run (World υ) Unit
  runScript : Signal.Caller Effect υ → (Effect → Run (World υ) Value) → Plan →
    Run (World υ) (Signal.Answer Effect)

instance : Staged Stage where
  stage := fun stage => stage
  restage change := change
  write := Signal.write
  attach := Signal.attach
  clean := Signal.clean
  destroy := Signal.destroy
  runScript := Signal.runScript

@[simp] theorem restage_stage (change : Stage → Stage) (stage : Stage) :
    Staged.restage change stage = change stage :=
  rfl

/-- What stays fixed during a run. -/
structure Setting where
  instances : Nat → Instance
  formulaFuel : Nat

namespace Setting

def environment (setting : Setting) : Environment := fun number =>
  let found := setting.instances number
  { formulas := found.registry.formulas, component := found.component,
    logErrors := found.logErrors }

/-- The context in which an instance itself runs. -/
def contextOf (setting : Setting) (number : Nat) : ActionContext :=
  { host := number, stackHost := number, overlay := (setting.instances number).overlay }

end Setting

variable {υ : Type} [Staged υ] {α : Type}

namespace World

abbrev stage (world : World υ) : Stage := Staged.stage world.host

def machine (world : World υ) : Machine := world.stage.machine

def modifyStage (change : Stage → Stage) (world : World υ) : World υ :=
  { world with host := Staged.restage change world.host }

def setMachine (machine : Machine) (world : World υ) : World υ :=
  world.modifyStage fun stage => { stage with machine := machine }

def modifyMachine (change : Machine → Machine) (world : World υ) : World υ :=
  world.setMachine (change world.machine)

def log (level : LogLevel) (message : String) (world : World υ) : World υ :=
  world.modifyMachine (Machine.log level .execute message)

def workflows (number : Nat) (world : World υ) : Cycle.Workflow String :=
  (world.stage.workflows[number]?).getD (Cycle.Workflow.empty (.int 0))

def modifyWorkflows (number : Nat) (change : Cycle.Workflow String → Cycle.Workflow String)
    (world : World υ) :
    World υ :=
  world.modifyStage fun stage => { stage with workflows := stage.workflows.modify number change }

def newContinuation (continuation : Continuation) (world : World υ) : Nat × World υ :=
  (world.stage.continuations.size,
   world.modifyStage fun stage =>
     { stage with continuations := stage.continuations.push continuation })

def newPromise (world : World υ) : Nat × World υ :=
  (world.stage.promises.size,
   world.modifyStage fun stage =>
     { stage with promises := stage.promises.push { waiting := [], settlement := none } })

def enqueue (job : Job) (world : World υ) : World υ :=
  world.modifyStage fun stage => { stage with queue := stage.queue ++ [job] }

end World

/-- Runs on the machine alone. -/
def onMachine (body : Run Machine α) : Run (World υ) α :=
  Run.zoom World.machine World.setMachine body

def warn (message : String) : Run (World υ) Unit :=
  Run.modify (World.log .warning message)

def onTrail (number : Nat) (kind name : String) (body : Run (World υ) α) : Run (World υ) α :=
  fun world =>
    Run.ensuring (World.modifyMachine (Machine.popStep number)) body
      (world.modifyMachine (Machine.pushStep number kind name))

def underWorkflow (number : Nat) (key : String) (body : Run (World υ) α) : Run (World υ) α :=
  fun world =>
    match (world.workflows number).enter key with
    | .error failure => .raised failure world
    | .ok entered =>
      Run.ensuring (World.modifyWorkflows number (Cycle.Workflow.leave key)) body
        (world.modifyWorkflows number fun _ => entered)

def timed (number : Nat) (name category budget : Value) (body : Run (World υ) α) :
    Run (World υ) α :=
  fun world =>
    Run.followedBy (onMachine (Machine.finishTiming number name category budget world.machine.now))
      body world

end Execute
end Interplay
