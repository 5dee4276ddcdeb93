import Interplay.Proofs.Evaluate.Reentry
import Interplay.Proofs.Execute.Lockstep

/-!
Requests from outside.

Formulas are evaluated, action lists executed, and continuations, promises, signals and the queue
are made use of in any order.  What is asked of paired worlds goes in lockstep.
-/

namespace Interplay
namespace Execute

open Run

/-- What may be asked of a world. -/
inductive Request where
  | inquire (inquiry : Evaluate.Inquiry)
  | execute (source : Value) (context : ActionContext) (event : Value)
      (dispatch : Dispatch) (depth : Value)
  | operate (operation : Operation)

/-- Contexts and dispatches of known instances only. -/
def Request.IsWithin (known : Nat → Prop) : Request → Prop
  | inquire (.evaluate _ context _) => known context.host
  | inquire (.persisted _ context _) => known context.host
  | inquire (.invoke _ _) => True
  | execute _ context _ dispatch _ => known context.host ∧ dispatch.IsWithin known
  | operate (.execute _ context _ dispatch _) => known context.host ∧ dispatch.IsWithin known
  | operate _ => True

/-- Actions have no answer. -/
def Request.run (setting : Setting) (fuel : Nat) : Request → Run World Value
  | inquire inquiry =>
    onMachine (inquiry.run (Evaluate.evaluateNode setting.environment setting.formulaFuel))
  | execute source context event dispatch depth => do
    executePersisted setting fuel source context event dispatch depth
    pure .null
  | operate operation => do
    operation.run setting fuel
    pure .null

/-- Requests one after the other, with their answers; one that fails does not stop the others. -/
def serve (setting : Setting) (fuel : Nat) (requests : List Request) :
    Run World (List (Except Failure Value)) :=
  Run.collect (fun request => Run.attempt (request.run setting fuel)) requests

variable {bond : Bond} {setting : Setting} {flags : Nat → Bool} (accord : Accord bond setting flags)

include accord

theorem pairs_inquiry (fuel : Nat) {inquiry : Evaluate.Inquiry}
    (inside : (Request.inquire inquiry).IsWithin bond.known) :
    InStep bond.worlds ((Request.inquire inquiry).run setting fuel)
      ((Request.inquire inquiry).run (setting.logging flags) fuel) := by
  have accompanied := Evaluate.accompanied_nodes accord.formulas setting.formulaFuel
  refine pairs_on_machine ?_
  cases inquiry with
  | evaluate formula context depth =>
      exact Evaluate.pairs_evaluate_top accord.formulas accompanied inside depth formula
  | persisted source context depth =>
      exact Evaluate.pairs_source accord.formulas accompanied inside depth source
  | invoke handle arguments =>
      exact Evaluate.pairs_invoke accord.formulas accompanied handle arguments

theorem pairs_persisted {first second : Powers} (accompanied : Accompanied bond first second)
    {context : ActionContext} (home : bond.known context.host) {dispatch : Dispatch}
    (sent : dispatch.IsWithin bond.known) (source event depth : Value) :
    InStep bond.worlds (executePersistedWith first source context event dispatch depth)
      (executePersistedWith second source context event dispatch depth) := by
  refine .choose (fun _ => .pure ()) fun _ => ?_
  cases entriesOf source with
  | ok entries => exact accompanied.executes entries context event dispatch depth home sent
  | error failure => exact pairs_run_list accord home depth (.raise failure)

section Deferred

variable {first second : Powers} (accompanied : Accompanied bond first second)

include accompanied

theorem pairs_job (job : Job) :
    InStep bond.worlds (runJob setting first job) (runJob (setting.logging flags) second job) := by
  cases job with
  | start plan awaiting =>
      have deferred : InStep bond.worlds (runDeferred setting first plan awaiting)
          (runDeferred (setting.logging flags) second plan awaiting) := by
        refine (accompanied.heeds _ id).bind fun _ => (accompanied.calls plan).attempt.bind
          fun outcome => ?_
        refine (accompanied.heeds _ id).bind fun _ => (Pairs.of_except outcome).bind
          fun answer => ?_
        cases awaiting with
        | none => exact .pure ()
        | some context =>
            cases callable? answer with
            | none => exact .pure ()
            | some cleanup => exact pairs_on_destroy accord accompanied context cleanup
      refine deferred.attempt.bind fun outcome => ?_
      cases outcome with
      | ok => exact .modify (stays_enqueue _)
      | error failure => exact .modify (stays_enqueue _)
  | finished failed => exact .choose (fun _ => pairs_log accord _ _) fun _ => .pure ()

theorem pairs_tick : InStep bond.worlds (tick setting first)
    (tick (setting.logging flags) second) := by
  refine .get_bind fun world counterpart twin => ?_
  rw [twin.queue]
  cases world.stage.queue with
  | nil => exact .pure ()
  | cons job rest =>
      exact (Pairs.modify (stays_queue rest)).bind fun _ => pairs_job accord accompanied job

theorem pairs_settle (number : Nat) (settlement : Settlement) :
    InStep bond.worlds (settle setting first number settlement)
      (settle (setting.logging flags) second number settlement) := by
  refine (accompanied.heeds _ id).bind fun _ => .get_bind fun world counterpart twin => ?_
  rw [twin.promises]
  cases world.stage.promises[number]? with
  | none => exact .pure ()
  | some promise =>
      dsimp only
      cases promise.settlement with
      | some before => cases settlement <;> exact .raise _
      | none =>
          refine (Pairs.modify (stays_promises fun promises => promises.modify number fun _ =>
            { waiting := [], settlement := some settlement })).bind fun _ => ?_
          exact .for_each fun context _ => pairs_inform accord accompanied number settlement context

end Deferred

theorem pairs_operation [bond.TimesAlike] (fuel : Nat) {operation : Operation}
    (inside : (Request.operate operation).IsWithin bond.known) :
    InStep bond.worlds (operation.run setting fuel)
      (operation.run (setting.logging flags) fuel) := by
  have accompanied := accompanied_powers accord fuel
  cases operation with
  | execute entries context event dispatch depth =>
      exact accompanied.executes entries context event dispatch depth inside.1 inside.2
  | resume number event payload => exact pairs_resume accord accompanied number event payload
  | settle number settlement => exact pairs_settle accord accompanied number settlement
  | tick => exact pairs_tick accord accompanied
  | clean signal => exact Signal.pairs_tear_down accord.signals accompanied.calls signal _
  | destroy signal => exact Signal.pairs_destroy accord.signals accompanied.calls signal
  | host plan => exact pairs_perform accompanied plan

/-- Requests that concern known instances are served in lockstep. -/
theorem pairs_serve [bond.TimesAlike] (fuel : Nat) {requests : List Request}
    (inside : ∀ request ∈ requests, request.IsWithin bond.known) :
    InStep bond.worlds (serve setting fuel requests)
      (serve (setting.logging flags) fuel requests) := by
  refine .collect fun request member => .attempt ?_
  have within := inside request member
  cases request with
  | inquire inquiry => exact pairs_inquiry accord fuel within
  | execute source context event dispatch depth =>
      exact (pairs_persisted accord (accompanied_powers accord fuel) within.1 within.2 source event
        depth).bind fun _ => .pure Value.null
  | operate operation => exact (pairs_operation accord fuel within).bind fun _ => .pure Value.null

end Execute
end Interplay
