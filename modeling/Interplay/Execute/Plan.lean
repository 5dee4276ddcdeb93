import Interplay.Evaluate.Routine
import Interplay.Signal.Bench

/-!
Host code behind actions, and what it may hold on to.

A plan is a script that may also move the clock, call a closure and resume a continuation.
Continuations are the capabilities handed to host code: the event trigger of a custom action and the
callbacks of a fetch.  They are named by number and may be resumed at any time, also long after the
action that made them.
-/

namespace Interplay
namespace Execute

inductive Effect where
  | note (note : Signal.Note)
  | advance (seconds : Value)
  | resume (continuation : Nat) (event payload : Value)
  | invoke (closure : Nat) (arguments : Value)
  /-- Makes a promise, to be settled later; the answer is its number. -/
  | promise

abbrev Plan := Signal.Script Effect

instance : Signal.HasNotes Effect := ⟨Effect.note⟩

namespace Plan

def resume (continuation : Nat) (event payload : Value) (next : Plan) : Plan :=
  .perform (.resume continuation event payload) fun outcome =>
    match outcome with
    | .ok _ => next
    | .error failure => .fail failure

end Plan

/-- The context that actions run in: an instance, the instance whose trail and running workflows are
extended, and slots laid over the instance's data. -/
structure ActionContext where
  host : Nat
  stackHost : Nat
  /-- Has to be a mapping once the data root is built. -/
  overlay : Value

/-- Where a workflow callback goes. -/
inductive Dispatch where
  | none
  | external (run : String → Value → Plan)
  /-- To the caller of a workflow, with the dispatch of the caller. -/
  | caller (workflow : String) (callbacks : List ActionBody)
      (context : ActionContext) (outer : Dispatch) (depth : Value)

inductive Continuation where
  | emitter (action : String) (events : List ActionBody)
      (context : ActionContext) (dispatch : Dispatch) (depth : Value)
  | body (actions : List Action) (context : ActionContext) (dispatch : Dispatch) (depth : Value)

/-- What a custom action is told besides its arguments. -/
structure CallSite where
  root : Value
  event : Value
  trigger : Nat

abbrev ActionHandler := Entries → CallSite → Plan

structure FetchCallbacks where
  onSuccess : Nat
  onError : Nat
  onMessage : Nat

structure Api where
  fetch : Entries → FetchCallbacks → Plan
  cancel : Option Plan

structure Instance where
  signal : Nat
  registry : Registry FormulaHandler ActionHandler
  component : Option Component
  package : Value
  apis : Table Api
  scope : Option Nat
  triggerEvent : Option (String → Value → Plan)
  setUrlParameters : Option (Entries → Value → Plan)
  root : Value
  overlay : Value
  logErrors : Bool

end Execute
end Interplay
