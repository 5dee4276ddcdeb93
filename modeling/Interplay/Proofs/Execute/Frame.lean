import Interplay.Proofs.Execute.Tracking

/-!
Whole runs in a frame.

An invariant that is kept by every single change in a frame, and says nothing about trails and
running workflows, is kept by every run in the frame: by executing an action list, by resuming what
was handed out, by draining the queue and by settling promises.
-/

namespace Interplay
namespace Execute

open Run

/-- An invariant that does not speak of trails and of running workflows. -/
structure Indifferent (invariant : World → Prop) : Prop where
  trails : ∀ world number (change : Trail → Trail), invariant world →
    invariant (world.modifyMachine
      (Machine.modifyHost number fun state => { state with trail := change state.trail }))
  workflows : ∀ world number change, invariant world →
    invariant (world.modifyWorkflows number change)

section Runs

variable {lost : Prop} {setting : Setting} {frame : Frame} {invariant : World → Prop} {α : Type}

theorem tracks_on_trail (indifferent : Indifferent invariant) (number : Nat) (kind name : String)
    {body other : Run World α} (tracks : Tracks lost invariant body other) :
    Tracks lost invariant (onTrail number kind name body) (onTrail number kind name other) :=
  fun world holds => Result.tracks_map_state (tracks _ (indifferent.trails world number _ holds))
    fun state kept => indifferent.trails state number _ kept

theorem tracks_under_workflow (indifferent : Indifferent invariant) (number : Nat) (key : String)
    {body other : Run World α} (tracks : Tracks lost invariant body other) :
    Tracks lost invariant (underWorkflow number key body) (underWorkflow number key other) := by
  intro world holds
  unfold underWorkflow
  cases (world.workflows number).enter key with
  | error failure => exact ⟨rfl, holds⟩
  | ok entered =>
      exact Result.tracks_map_state (tracks _ (indifferent.workflows world number _ holds))
        fun state kept => indifferent.workflows state number _ kept

variable {first second : Powers} (handover : Handover lost setting frame invariant first second)
  (indifferent : Indifferent invariant) {context : ActionContext} {event : Value}
  {dispatch : Dispatch} {depth : Value}

include handover indifferent

theorem tracks_any_action {action : Action} (permits : frame.Permits [action] context.host)
    (sends : frame.Sends dispatch) :
    Tracks lost invariant (runAction setting first context event dispatch depth action)
      (runAction setting second context event dispatch depth action) := by
  refine tracks_action handover permits sends
    fun name parameters callbacks provider package same => ?_
  subst same
  refine tracks_workflow handover.toBacking permits fun target actions _ allowed => ?_
  refine tracks_under_workflow indifferent _ _ (tracks_on_trail indifferent _ _ _ ?_)
  exact tracks_execute_below handover allowed
    ⟨fun callback member => permits.body (List.mem_map_of_mem member), sends⟩

theorem tracks_guarded {action : Action} (permits : frame.Permits [action] context.host)
    (sends : frame.Sends dispatch) (index : Nat) :
    Tracks lost invariant (runGuarded setting first context event dispatch depth index action)
      (runGuarded setting second context event dispatch depth index action) :=
  tracks_boundary handover.upholds permits.1 <| tracks_on_trail indifferent _ _ _ <|
    tracks_contain handover.toBacking permits.1 _ _
      (tracks_any_action handover indifferent permits sends)

theorem tracks_entries {entries : List Entry} (permits : frame.PermitsEntries entries context.host)
    (sends : frame.Sends dispatch) :
    Tracks lost invariant (executeWith setting first entries context event dispatch depth)
      (executeWith setting second entries context event dispatch depth) := by
  refine tracks_run_list handover.upholds permits.1 depth
    (tracks_for_each_indexed (fun entry member index => ?_) 0)
  refine tracks_entry handover.upholds fun action reads => ?_
  exact tracks_guarded handover indifferent
    ⟨permits.1, permits.2 entry member action reads⟩ sends index

end Runs

def tick {υ : Type} [Staged υ] (setting : Setting) (powers : Powers υ) : Run (World υ) Unit := do
  let world ← Run.get
  match world.stage.queue with
  | [] => pure ()
  | job :: rest => do
    Run.modify (World.modifyStage fun stage => { stage with queue := rest })
    runJob setting powers job

/-- The queue is run by ticking until it is empty. -/
theorem drain_succ (setting : Setting) (powers : Powers) (fuel : Nat) :
    drain setting powers (fuel + 1) = Run.get >>= fun (world : World) =>
      if world.stage.queue.isEmpty then pure ()
      else tick setting powers >>= fun _ => drain setting powers fuel := by
  funext world
  obtain ⟨cells, nextSubscription, stage⟩ := world
  obtain ⟨machine, workflows, continuations, promises, queue, hasLoop, scopes⟩ := stage
  cases queue <;> rfl

section Keeping

variable {lost : Prop} {setting : Setting} {frame : Frame} {invariant : World → Prop}

/-- However deep lists and host code nest, they keep the invariant. -/
theorem powers_handover (backing : Backing True setting frame invariant)
    (indifferent : Indifferent invariant)
    (fuel : Nat) : Handover True setting frame invariant (powers setting fuel)
    (powers setting fuel) := by
  induction fuel with
  | zero =>
      exact ⟨backing, ⟨fun _ _ => tracks_exhaust trivial _, fun _ _ => yields_exhaust⟩,
        fun _ _ _ _ _ _ _ => tracks_exhaust trivial _⟩
  | succ fuel ih =>
      exact ⟨backing, script_serves ih, fun _ _ _ _ _ permits sends =>
        tracks_entries ih indifferent permits sends⟩

section Deferred

variable {first second : Powers} (handover : Handover lost setting frame invariant first second)

include handover

theorem tracks_deferred {plan : Plan} (spares : plan.Spares frame.free)
    (awaiting : Option ActionContext) :
    Tracks lost invariant (runDeferred setting first plan awaiting)
      (runDeferred setting second plan awaiting) := by
  refine tracks_bind (handover.heeds _) fun _ => ?_
  refine tracks_bind_of_yields (tracks_attempt (handover.serves.tracks plan spares))
    (yields_attempt (handover.serves.yields plan spares)) fun outcome returned => ?_
  refine tracks_bind (handover.heeds _) fun _ => ?_
  refine tracks_of_except_bind fun answer same => ?_
  cases awaiting with
  | none => exact tracks_pure ()
  | some context =>
      cases found : callable? answer with
      | none => exact tracks_pure ()
      | some cleanup =>
          have spared := spares_callable (returned answer same) found
          exact tracks_on_destroy handover.upholds handover.serves context spared

theorem tracks_job {job : Job} (queues : frame.Queues job) :
    Tracks lost invariant (runJob setting first job) (runJob setting second job) := by
  cases job with
  | start plan awaiting =>
      refine tracks_bind (tracks_attempt (tracks_deferred handover queues awaiting))
        fun outcome => ?_
      cases outcome with
      | ok => exact tracks_modify fun world holds => handover.upholds.enqueued world _ holds trivial
      | error failure =>
          exact tracks_modify fun world holds => handover.upholds.enqueued world _ holds trivial
  | finished failed =>
      cases failed with
      | true => exact tracks_world_log handover.upholds _ _
      | false => exact tracks_pure ()

theorem tracks_tick : Tracks lost invariant (tick setting first) (tick setting second) := by
  refine tracks_get_bind fun world holds => ?_
  cases waiting : world.stage.queue with
  | nil => exact ⟨rfl, holds⟩
  | cons job rest =>
      have queues := handover.upholds.queued world job holds (waiting ▸ List.mem_cons_self)
      exact tracks_bind_at ⟨rfl, handover.upholds.dequeued world job rest holds waiting⟩
        fun _ => tracks_job handover queues

theorem tracks_settle (number : Nat) {settlement : Settlement}
    (spares : ∀ plan, settlement = .cleanup plan → plan.Spares frame.free) :
    Tracks lost invariant (settle setting first number settlement)
      (settle setting second number settlement) := by
  refine tracks_bind (handover.heeds _) fun _ => tracks_bind tracks_get fun world => ?_
  cases world.stage.promises[number]? with
  | none => exact tracks_pure ()
  | some promise =>
      dsimp only
      cases promise.settlement with
      | some before => cases settlement <;> exact tracks_raise _
      | none =>
          refine tracks_bind (tracks_modify fun world holds => ?_) fun _ => ?_
          · exact handover.upholds.settled world number settlement holds spares
          · exact tracks_for_each fun context _ => tracks_inform handover number spares context

end Deferred

theorem tracks_drain {first second : Powers}
    (handover : Handover True setting frame invariant first second)
    (fuel : Nat) : Tracks True invariant (drain setting first fuel)
    (drain setting second fuel) := by
  induction fuel with
  | zero => exact tracks_exhaust trivial _
  | succ fuel ih =>
      rw [drain_succ, drain_succ]
      refine tracks_get_bind fun world holds => tracks_if
        (fun _ => tracks_pure () world holds) fun _ => ?_
      exact tracks_bind (tracks_tick handover) (fun _ => ih) world holds

end Keeping

/-- What may happen to a world after an action list was executed. -/
inductive Sequel where
  | resume (continuation : Nat) (event payload : Value)
  | settle (promise : Nat) (settlement : Settlement)
  | drain (items : Nat)

namespace Sequel

def run (setting : Setting) (fuel : Nat) : Sequel → Run World Unit
  | resume continuation event payload =>
    Execute.resume (powers setting fuel) continuation event payload
  | settle promise settlement => Execute.settle setting (powers setting fuel) promise settlement
  | drain items => Execute.drain setting (powers setting fuel) items

/-- Cleanups that a promise is settled with spare signals. -/
def Spares (free : Nat → Prop) : Sequel → Prop
  | settle _ (.cleanup plan) => plan.Spares free
  | _ => True

end Sequel

/-- Executes an action list and lets other things happen afterwards, whether they fail or not. -/
def executeAndAfter (setting : Setting) (fuel : Nat) (entries : List Entry)
    (context : ActionContext) (event : Value)
    (dispatch : Dispatch) (depth : Value) (sequels : List Sequel) : Run World Unit := do
  let _ ← Run.attempt (execute setting fuel entries context event dispatch depth)
  Run.forEach (fun sequel => do
    let _ ← Run.attempt (sequel.run setting fuel)
    pure ()) sequels

/-- A run that stays in a frame, and everything after it, keeps the invariant. -/
theorem execution_keeps {setting : Setting} {frame : Frame} {invariant : World → Prop}
    (backing : Backing True setting frame invariant)
    (indifferent : Indifferent invariant) (fuel : Nat)
    {entries : List Entry} {context : ActionContext}
    (permits : frame.PermitsEntries entries context.host)
    (event : Value) {dispatch : Dispatch} (sends : frame.Sends dispatch)
    (depth : Value) {sequels : List Sequel}
    (spares : ∀ sequel ∈ sequels, sequel.Spares frame.free) :
    Tracks True invariant
      (executeAndAfter setting fuel entries context event dispatch depth sequels)
      (executeAndAfter setting fuel entries context event dispatch depth sequels) := by
  have handover := powers_handover backing indifferent fuel
  refine tracks_bind
    (tracks_attempt (handover.executes entries context event dispatch depth permits sends))
      fun _ => ?_
  refine tracks_for_each fun sequel member => tracks_bind
    (tracks_attempt ?_) fun _ => tracks_pure ()
  cases sequel with
  | resume continuation event payload => exact tracks_resume handover continuation event payload
  | drain items => exact tracks_drain handover items
  | settle promise settlement =>
      refine tracks_settle handover promise fun plan same => ?_
      subst same
      exact spares _ member

end Execute
end Interplay
