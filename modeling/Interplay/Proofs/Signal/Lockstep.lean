import Interplay.Proofs.Run.Lockstep
import Interplay.Signal.Store

/-!
Signals in lockstep.

Two stores that have the same signals go through the same notifications, teardowns and derivations,
and so does host code, if the callbacks and the further effects go in lockstep.
-/

namespace Interplay
namespace Signal

open Run

variable {ε υ : Type} [HasLog υ]

structure Accord (pairing : Pairing (Store ε υ) (Store ε υ)) : Prop where
  cells : ∀ store counterpart, pairing.twin store counterpart → counterpart.cells = store.cells
  numbers : ∀ store counterpart, pairing.twin store counterpart →
    counterpart.nextSubscription = store.nextSubscription
  changed : ∀ change : Array (Cell ε) → Array (Cell ε), pairing.Stays
    (fun store => { store with cells := change store.cells }) fun store =>
      { store with cells := change store.cells }
  numbered : ∀ number, pairing.Stays
    (fun store => { store with nextSubscription := number }) fun store =>
      { store with nextSubscription := number }
  logged : ∀ message, pairing.Stays
    (fun store => { store with host := HasLog.log .error .signal message store.host })
    fun store => { store with host := HasLog.log .error .signal message store.host }

def Accompanied (pairing : Pairing (Store ε υ) (Store ε υ)) (first second : Caller ε υ) : Prop :=
  ∀ script, InStep pairing (first script) (second script)

variable {pairing : Pairing (Store ε υ) (Store ε υ)} {first second : Caller ε υ}

omit [HasLog υ] in
theorem pairs_react (calls : Accompanied pairing first second) (content : Value)
    (reaction : Reaction ε) :
    InStep pairing (react first content reaction) (react second content reaction) := by
  cases reaction with
  | call run => exact (calls _).bind fun _ => .pure ()
  | feed target transform => exact (calls _).bind fun answer => (calls _).bind fun _ => .pure ()

omit [HasLog υ] in
theorem pairs_release (calls : Accompanied pairing first second) (released : Release ε) :
    InStep pairing (release first released) (release second released) := by
  cases released with
  | nothing => exact .pure ()
  | call run => exact (calls _).bind fun _ => .pure ()
  | destroy target => exact (calls _).bind fun _ => .pure ()

variable (accord : Accord pairing)

include accord

theorem Accord.cell {store counterpart : Store ε υ}
    (twin : pairing.twin store counterpart) (number : Nat) :
    counterpart.cell number = store.cell number := by
  unfold Store.cell
  rw [accord.cells store counterpart twin]

theorem Accord.stays_modify_cell (number : Nat) (change : Cell ε → Cell ε) :
    pairing.Stays (Store.modifyCell number change) (Store.modifyCell number change) :=
  accord.changed fun cells => cells.modify number change

theorem pairs_protected (message : String) {body other : Run (Store ε υ) Unit}
    (pairs : InStep pairing body other) :
    InStep pairing (protectedCall message body) (protectedCall message other) := by
  refine pairs.attempt.bind fun outcome => ?_
  cases outcome with
  | ok => exact .pure ()
  | error failure => exact .modify (accord.logged message)

theorem pairs_create (content : Value) (onDestroy : Option (Script ε)) :
    InStep pairing (create content onDestroy) (create content onDestroy) := by
  refine .step (accord.changed fun cells => cells.push (Cell.fresh content onDestroy))
    fun store counterpart twin => ?_
  exact congrArg Array.size (accord.cells store counterpart twin).symm

theorem pairs_write (calls : Accompanied pairing first second) (signal : Nat) (content : Value) :
    InStep pairing (write first signal content) (write second signal content) := by
  have stays := accord.stays_modify_cell signal fun cell => { cell with content := content }
  refine .get_bind fun store counterpart twin => ?_
  rw [accord.cell twin]
  refine .choose (fun _ => .pure ()) fun _ => .choose (fun _ => .modify stays) fun _ => ?_
  refine .choose (fun _ => .pure ()) fun _ => (Pairs.modify stays).bind fun _ => ?_
  exact .for_each fun subscriber _ => pairs_protected accord _
    (pairs_react calls content subscriber.reaction)

theorem pairs_attach (calls : Accompanied pairing first second)
    (signal : Nat) (reaction : Reaction ε) (release : Release ε) :
    InStep pairing (attach first signal reaction release)
      (attach second signal reaction release) := by
  refine .get_bind fun store counterpart twin => ?_
  rw [accord.cell twin, accord.numbers store counterpart twin]
  refine (Pairs.modify ((accord.stays_modify_cell signal _).trans (accord.numbered _))).bind
    fun _ => ?_
  exact (pairs_protected accord _ (pairs_react calls _ reaction)).bind fun _ => .pure _

theorem pairs_unsubscribe (signal subscription : Nat) :
    InStep pairing (unsubscribe signal subscription) (unsubscribe signal subscription) :=
  .modify (accord.stays_modify_cell signal _)

theorem pairs_tear_down (calls : Accompanied pairing first second)
    (signal : Nat) (message : String) :
    InStep pairing (tearDown first signal message) (tearDown second signal message) := by
  refine .get_bind fun store counterpart twin => ?_
  rw [accord.cell twin]
  refine (Pairs.modify (accord.stays_modify_cell signal _)).bind fun _ => ?_
  exact .for_each fun subscriber _ => pairs_protected accord _
    (pairs_release calls subscriber.release)

theorem pairs_destroy (calls : Accompanied pairing first second) (signal : Nat) :
    InStep pairing (destroy first signal) (destroy second signal) := by
  refine .get_bind fun store counterpart twin => ?_
  rw [accord.cell twin]
  refine .choose (fun _ => .pure ()) fun _ => ?_
  refine (Pairs.modify (accord.stays_modify_cell signal _)).bind fun _ => ?_
  refine Pairs.bind ?_ fun _ => (pairs_tear_down accord calls signal _).bind fun _ => ?_
  · cases (store.cell signal).parent with
    | none => exact .pure ()
    | some parent => exact pairs_unsubscribe accord _ _
  · cases (store.cell signal).onDestroy with
    | none => exact .pure ()
    | some script => exact pairs_protected accord _ ((calls script).bind fun _ => .pure ())

theorem pairs_derive (calls : Accompanied pairing first second) (signal : Nat)
    (transform : Value → Script ε) :
    InStep pairing (derive first signal transform) (derive second signal transform) := by
  refine .get_bind fun store counterpart twin => ?_
  rw [accord.cell twin]
  refine (calls _).bind fun answer => (pairs_create accord _ _).bind fun target => ?_
  refine (pairs_attach accord calls signal _ _).bind fun subscription => ?_
  exact (Pairs.modify (accord.stays_modify_cell target _)).bind fun _ => .pure target

theorem pairs_script (calls : Accompanied pairing first second)
    {perform other : ε → Run (Store ε υ) Value}
    (performs : ∀ effect, InStep pairing (perform effect) (other effect)) :
    Accompanied pairing (runScript first perform) (runScript second other) := by
  intro script
  induction script using Script.steps with
  | finish answer => exact .pure answer
  | fail failure => exact .raise failure
  | create content onDestroy next ih => exact (pairs_create accord content onDestroy).bind ih
  | read signal next ih =>
      refine .get_bind fun store counterpart twin => ?_
      rw [accord.cell twin]
      exact ih _
  | isDestroyed signal next ih =>
      refine .get_bind fun store counterpart twin => ?_
      rw [accord.cell twin]
      exact ih _
  | write signal content next ih => exact (pairs_write accord calls signal content).bind fun _ => ih
  | subscribe signal notify teardown next ih => exact (pairs_attach accord calls signal _ _).bind ih
  | unsubscribe signal subscription next ih =>
      exact (pairs_unsubscribe accord signal subscription).bind fun _ => ih
  | derive signal transform next ih =>
      exact (pairs_derive accord calls signal transform).attempt.bind ih
  | destroy signal next ih => exact (pairs_destroy accord calls signal).bind fun _ => ih
  | clean signal next ih => exact (pairs_tear_down accord calls signal _).bind fun _ => ih
  | perform effect next ih => exact (performs effect).attempt.bind ih

end Signal
end Interplay
