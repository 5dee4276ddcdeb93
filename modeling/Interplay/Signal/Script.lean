import Interplay.Fault

/-!
Host code around signals.

A script says step by step which signal operations the code performs and goes on with their answers.
Callbacks are scripts too, so they may perform any operation themselves.  `ε` stands for the further
effects that the surroundings offer.  Signals and subscriptions are named by number.
-/

namespace Interplay
namespace Signal

mutual

inductive Script (ε : Type) where
  | finish (answer : Answer ε)
  | fail (failure : Failure)
  | create (content : Value) (onDestroy : Option (Script ε)) (next : Nat → Script ε)
  | read (signal : Nat) (next : Value → Script ε)
  | isDestroyed (signal : Nat) (next : Bool → Script ε)
  | write (signal : Nat) (content : Value) (next : Script ε)
  | subscribe (signal : Nat) (notify : Value → Script ε) (teardown : Option (Script ε))
      (next : Nat → Script ε)
  | unsubscribe (signal subscription : Nat) (next : Script ε)
  /-- Makes a signal that follows another one through a transformation. -/
  | derive (signal : Nat) (transform : Value → Script ε) (next : Except Failure Nat → Script ε)
  | destroy (signal : Nat) (next : Script ε)
  | clean (signal : Nat) (next : Script ε)
  | perform (effect : ε) (next : Except Failure Value → Script ε)

/-- What host code returns: data, or something to be run later. -/
inductive Answer (ε : Type) where
  | value (content : Value)
  | cleanup (script : Script ε)
  | promise (number : Nat)
  | deferred (script : Script ε)

end

namespace Answer

variable {ε : Type}

/-- The data in an answer; anything else counts as null. -/
def content : Answer ε → Value
  | value content => content
  | _ => .null

end Answer

namespace Script

variable {ε : Type}

def done : Script ε := finish (.value .null)

def ofValue (content : Value) : Script ε := finish (.value content)

def andThen (following : Answer ε → Script ε) : Script ε → Script ε
  | finish answer => following answer
  | fail failure => fail failure
  | create content onDestroy next =>
    create content onDestroy fun number => andThen following (next number)
  | read signal next => read signal fun content => andThen following (next content)
  | isDestroyed signal next => isDestroyed signal fun flag => andThen following (next flag)
  | write signal content next => write signal content (andThen following next)
  | subscribe signal notify teardown next =>
    subscribe signal notify teardown fun number => andThen following (next number)
  | unsubscribe signal subscription next => unsubscribe signal subscription (andThen following next)
  | derive signal transform next =>
    derive signal transform fun outcome => andThen following (next outcome)
  | destroy signal next => destroy signal (andThen following next)
  | clean signal next => clean signal (andThen following next)
  | perform effect next => perform effect fun outcome => andThen following (next outcome)

/-- Writes a transformation of the current content. -/
def update (signal : Nat) (transform : Value → Script ε) (next : Script ε) : Script ε :=
  read signal fun current =>
    andThen (fun answer => write signal answer.content next) (transform current)

/-- Induction over the steps of a script, whatever is in the callbacks that it attaches or
returns. -/
@[elab_as_elim]
theorem steps {motive : Script ε → Prop} (finish : ∀ answer, motive (finish answer))
    (fail : ∀ failure, motive (fail failure))
    (create : ∀ content onDestroy next, (∀ number, motive (next number)) →
      motive (create content onDestroy next))
    (read : ∀ signal next, (∀ content, motive (next content)) → motive (read signal next))
    (isDestroyed : ∀ signal next, (∀ flag, motive (next flag)) → motive (isDestroyed signal next))
    (write : ∀ signal content next, motive next → motive (write signal content next))
    (subscribe : ∀ signal notify teardown next, (∀ number, motive (next number)) →
      motive (subscribe signal notify teardown next))
    (unsubscribe : ∀ signal subscription next, motive next →
      motive (unsubscribe signal subscription next))
    (derive : ∀ signal transform next, (∀ outcome, motive (next outcome)) →
      motive (derive signal transform next))
    (destroy : ∀ signal next, motive next → motive (destroy signal next))
    (clean : ∀ signal next, motive next → motive (clean signal next))
    (perform : ∀ effect next, (∀ outcome, motive (next outcome)) → motive (perform effect next))
    (script : Script ε) : motive script :=
  @Script.rec ε motive (fun _ => True) (fun _ => True) (fun answer _ => finish answer) fail
    (fun content onDestroy next _ => create content onDestroy next) read isDestroyed write
    (fun signal notify teardown next _ _ => subscribe signal notify teardown next) unsubscribe
    (fun signal transform next _ => derive signal transform next) destroy clean perform
    (fun _ => trivial)
    (fun _ _ => trivial) (fun _ => trivial) (fun _ _ => trivial) trivial (fun _ _ => trivial) script

end Script
end Signal
end Interplay
