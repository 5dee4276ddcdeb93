import Interplay.Proofs.Run.Recounting
import Interplay.Signal.Store

/-!
Signals whose surroundings keep an account.

Operations on signals use their surroundings only to log.  So they do the same in surroundings that
keep more, as long as what is kept is no matter to the log.
-/

namespace Interplay
namespace Signal

variable {ε υ ω : Type}

/-- The same signals in other surroundings. -/
def Store.mapHost (change : υ → ω) (store : Store ε υ) : Store ε ω :=
  { cells := store.cells, nextSubscription := store.nextSubscription, host := change store.host }

@[simp] theorem Store.cell_map_host (change : υ → ω) (store : Store ε υ) (number : Nat) :
    (store.mapHost change).cell number = store.cell number :=
  rfl

open Run

theorem recounts_unsubscribe (forget : υ → ω) (signal subscription : Nat) :
    Recounts (Store.mapHost forget) (unsubscribe signal subscription : Run (Store ε υ) Unit)
      (unsubscribe signal subscription) :=
  Recounts.modify fun _ => rfl

theorem recounts_detach (forget : υ → ω) (parent : Option (Nat × Nat)) :
    Recounts (Store.mapHost forget) (detach parent : Run (Store ε υ) Unit) (detach parent) := by
  cases parent with
  | none => exact Recounts.pure ()
  | some parent => exact recounts_unsubscribe forget parent.1 parent.2

theorem recounts_create (forget : υ → ω) (content : Value) (onDestroy : Option (Script ε)) :
    Recounts (Store.mapHost forget) (create content onDestroy : Run (Store ε υ) Nat)
      (create content onDestroy) :=
  fun _ => rfl

theorem protected_never_fails [HasLog υ] (message : String) (body : Run (Store ε υ) Unit) :
    NeverFails (protectedCall message body) := by
  refine bind_never_fails (attempt_never_fails body) fun outcome => ?_
  cases outcome with
  | ok _ => exact pure_never_fails ()
  | error _ => exact modify_never_fails _

section Callers

variable {forget : υ → ω} {call : Caller ε υ} {plain : Caller ε ω}
  (calls : ∀ script, Recounts (Store.mapHost forget) (call script) (plain script))

include calls

theorem recounts_react (content : Value) (reaction : Reaction ε) :
    Recounts (Store.mapHost forget) (react call content reaction)
      (react plain content reaction) := by
  cases reaction with
  | call run => exact Recounts.bind (calls _) fun _ => Recounts.pure ()
  | feed target transform =>
      exact Recounts.bind (calls _) fun _ => Recounts.bind (calls _) fun _ => Recounts.pure ()

theorem recounts_release (release : Release ε) :
    Recounts (Store.mapHost forget) (Signal.release call release)
      (Signal.release plain release) := by
  cases release with
  | nothing => exact Recounts.pure ()
  | call run => exact Recounts.bind (calls run) fun _ => Recounts.pure ()
  | destroy target => exact Recounts.bind (calls _) fun _ => Recounts.pure ()

end Callers

def KeepsLog [HasLog υ] [HasLog ω] (forget : υ → ω) : Prop :=
  ∀ level source message host,
    forget (HasLog.log level source message host) = HasLog.log level source message (forget host)

theorem recounts_protected [HasLog υ] [HasLog ω] {forget : υ → ω}
    (logs : KeepsLog forget) (message : String)
    {body : Run (Store ε υ) Unit} {other : Run (Store ε ω) Unit}
    (recounts : Recounts (Store.mapHost forget) body other) :
    Recounts (Store.mapHost forget) (protectedCall message body) (protectedCall message other) := by
  refine Recounts.bind recounts.attempt fun outcome => ?_
  cases outcome with
  | ok _ => exact Recounts.pure ()
  | error _ =>
      refine Recounts.modify fun store => ?_
      exact congrArg (Store.mk store.cells store.nextSubscription) (logs _ _ _ store.host)

end Signal
end Interplay
