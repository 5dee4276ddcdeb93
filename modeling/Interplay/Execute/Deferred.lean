import Interplay.Execute.Executor

/-!
Deferred work: the queue of the loop, and promises.

The queue is first in, first out.  Starting work runs it to its end and queues that end, which
reports a failure.  A promise is settled once, for everyone who waits.
-/

namespace Interplay
namespace Execute

variable {υ : Type} [Staged υ]

/-- Runs deferred work; a cleanup it returns goes to the context that awaits it. -/
def runDeferred (setting : Setting) (powers : Powers υ) (plan : Plan)
    (awaiting : Option ActionContext) :
    Run (World υ) Unit := do
  powers.heed (.begun plan awaiting)
  let outcome ← Run.attempt (powers.call plan)
  powers.heed (.completed awaiting outcome)
  let answer ← Run.ofExcept outcome
  match awaiting, callable? answer with
  | some context, some cleanup => onDestroy setting powers context cleanup
  | _, _ => pure ()

def runJob (setting : Setting) (powers : Powers υ) : Job → Run (World υ) Unit
  | .start plan awaiting => do
    match ← Run.attempt (runDeferred setting powers plan awaiting) with
    | .ok () => Run.modify (World.enqueue (.finished false))
    | .error _ => Run.modify (World.enqueue (.finished true))
  | .finished failed =>
    if failed then Run.modify (World.log .error "Deferred action failed") else pure ()

/-- Runs the queue until it is empty, with fuel for the number of items. -/
def drain (setting : Setting) (powers : Powers υ) : Nat → Run (World υ) Unit
  | 0 => Run.exhaust
  | fuel + 1 => do
    let world ← Run.get
    match world.stage.queue with
    | [] => pure ()
    | job :: rest => do
      Run.modify (World.modifyStage fun stage => { stage with queue := rest })
      runJob setting powers job
      drain setting powers fuel

def settleNow (setting : Setting) (powers : Powers υ) (number : Nat) (settlement : Settlement)
    (waiting : List ActionContext) : Run (World υ) Unit := do
  Run.modify (World.modifyStage fun stage =>
    { stage with promises := stage.promises.modify number fun _ =>
        { waiting := [], settlement := some settlement } })
  Run.forEach (inform setting powers number settlement) waiting

def Settlement.refusal : Settlement → Failure
  | .cleanup _ => .mishap (.settledBefore "FINISHED" "finished returned function")
  | .value content => .mishap (.settledBefore "FINISHED" ("finished returned " ++ content.typeName))
  | .failed => .mishap (.settledBefore "FINISHED" "finished raised RuntimeError")
  | .cancelled => .mishap (.settledBefore "CANCELLED_AND_NOTIFIED" "cancelled")

def settle (setting : Setting) (powers : Powers υ) (number : Nat) (settlement : Settlement) :
    Run (World υ) Unit := do
  powers.heed (.settled number settlement)
  let world ← Run.get
  match world.stage.promises[number]? with
  | none => pure ()
  | some promise =>
    match promise.settlement, settlement with
    | none, _ => settleNow setting powers number settlement promise.waiting
    | some _, .cancelled => Run.raise (.mishap .notCancellable)
    | some before, _ => Run.raise before.refusal

end Execute
end Interplay
