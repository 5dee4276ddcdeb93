import Interplay.Proofs.Execute.Frame

/-!
Interleaved operations.

Action lists are executed, continuations resumed, promises settled, the queue run and signals
cleaned or destroyed in any order.  What differs in its powers only tracks whatever is tracked by
the powers.
-/

namespace Interplay
namespace Execute

open Run

/-- What may happen to instances and their signals. -/
inductive Operation where
  | execute (entries : List Entry) (context : ActionContext) (event : Value)
      (dispatch : Dispatch) (depth : Value)
  /-- Host code resumes a continuation that it was handed. -/
  | resume (continuation : Nat) (event payload : Value)
  | settle (promise : Nat) (settlement : Settlement)
  /-- The loop runs the first item of its queue. -/
  | tick
  | clean (signal : Nat)
  | destroy (signal : Nat)
  /-- Host code runs on its own. -/
  | host (plan : Plan)

namespace Operation

def run (setting : Setting) (fuel : Nat) : Operation → Run World Unit
  | execute entries context event dispatch depth =>
    (powers setting fuel).execute entries context event dispatch depth
  | resume number event payload => Execute.resume (powers setting fuel) number event payload
  | settle number settlement => Execute.settle setting (powers setting fuel) number settlement
  | tick => Execute.tick setting (powers setting fuel)
  | clean signal => Signal.clean (powers setting fuel).call signal
  | destroy signal => Signal.destroy (powers setting fuel).call signal
  | host plan => (powers setting fuel).perform plan

def runWith {υ : Type} [Staged υ] (setting : Setting) (powers : Powers υ) :
    Operation → Run (World υ) Unit
  | execute entries context event dispatch depth =>
    powers.execute entries context event dispatch depth
  | resume number event payload => Execute.resume powers number event payload
  | settle number settlement => Execute.settle setting powers number settlement
  | tick => Execute.tick setting powers
  | clean signal => Staged.clean powers.call signal
  | destroy signal => Staged.destroy powers.call signal
  | host plan => powers.perform plan

theorem run_eq (setting : Setting) (fuel : Nat) (operation : Operation) :
    operation.run setting fuel = operation.runWith setting (powers setting fuel) := by
  cases operation <;> rfl

end Operation

/-- Operations one after the other; one that fails does not stop the others. -/
def interleave (setting : Setting) (fuel : Nat) (operations : List Operation) : Run World Unit :=
  Run.forEach (fun operation => do
    let _ ← Run.attempt (operation.run setting fuel)
    pure ()) operations

/-- As `interleave`, with powers of their own. -/
def interleaveWith {υ : Type} [Staged υ] (setting : Setting) (powers : Powers υ)
    (operations : List Operation) :
    Run (World υ) Unit :=
  Run.forEach (fun operation => do
    let _ ← Run.attempt (operation.runWith setting powers)
    pure ()) operations

theorem interleave_eq (setting : Setting) (fuel : Nat) (operations : List Operation) :
    interleave setting fuel operations = interleaveWith setting
      (powers setting fuel) operations := by
  unfold interleave interleaveWith
  simp only [Operation.run_eq]

variable {lost : Prop} {setting : Setting} {invariant : World → Prop} {first second : Powers}
  (handover : Handover lost setting Frame.whole invariant first second)

include handover

theorem tracks_operation (operation : Operation) :
    Tracks lost invariant (operation.runWith setting first) (operation.runWith setting second) := by
  have signals := handover.upholds.signals
  cases operation with
  | execute entries context event dispatch depth =>
      exact handover.executes entries context event dispatch depth
        ⟨trivial, fun _ _ _ _ => (Frame.whole_permits _ _).2⟩ (Frame.whole_sends dispatch)
  | resume number event payload => exact tracks_resume handover number event payload
  | settle number settlement =>
      exact tracks_settle handover number fun plan _ => Frame.whole_spares plan
  | tick => exact tracks_tick handover
  | clean signal => exact Signal.tracks_tear_down signals handover.serves signal _
  | destroy signal => exact Signal.tracks_destroy signals handover.serves signal
  | host plan => exact tracks_perform handover.serves (Frame.whole_spares plan)

theorem tracks_interleaving (operations : List Operation) :
    Tracks lost invariant (interleaveWith setting first operations)
      (interleaveWith setting second operations) :=
  tracks_for_each fun operation _ => tracks_bind
    (tracks_attempt (tracks_operation handover operation)) fun _ =>
    tracks_pure ()

end Execute
end Interplay
