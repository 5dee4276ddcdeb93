import Interplay.Journal
import Interplay.Run
import Interplay.Signal.Script
import Interplay.Value.Entries

/-!
Signals: observable contents with subscribers.

Subscribing replays the content at once.  A write that changes the content notifies everyone who was
subscribed when it began, in order of subscription; without subscribers it is stored without
comparing.  Callbacks that fail are logged and never stop the others.  A destroyed signal runs every
teardown and keeps its content.

The operations take a function `call` that runs a callback; operations that callbacks perform go
through it.
-/

namespace Interplay
namespace Signal

/-- What a subscription does with a new content. -/
inductive Reaction (ε : Type) where
  | call (run : Value → Script ε)
  /-- Writes the transformed content to a derived signal. -/
  | feed (target : Nat) (transform : Value → Script ε)

/-- What a subscription does when it is torn down. -/
inductive Release (ε : Type) where
  | nothing
  | call (run : Script ε)
  /-- Destroys a derived signal. -/
  | destroy (target : Nat)

structure Subscriber (ε : Type) where
  number : Nat
  reaction : Reaction ε
  release : Release ε

structure Cell (ε : Type) where
  content : Value
  subscribers : List (Subscriber ε)
  isDestroyed : Bool
  onDestroy : Option (Script ε)
  /-- The signal a derived one follows, and its subscription there. -/
  parent : Option (Nat × Nat)

/-- All signals of a run, beside the state `υ` of its surroundings. -/
structure Store (ε υ : Type) where
  cells : Array (Cell ε)
  nextSubscription : Nat
  host : υ

class HasLog (υ : Type) where
  log : LogLevel → LogSource → String → υ → υ

instance : HasLog Journal := ⟨Journal.log⟩

namespace Cell

variable {ε : Type}

def fresh (content : Value) (onDestroy : Option (Script ε)) : Cell ε :=
  { content := content, subscribers := [], isDestroyed := false,
    onDestroy := onDestroy, parent := none }

end Cell

namespace Store

variable {ε υ : Type}

def cell (number : Nat) (store : Store ε υ) : Cell ε :=
  (store.cells[number]?).getD (Cell.fresh .null none)

def modifyCell (number : Nat) (change : Cell ε → Cell ε) (store : Store ε υ) : Store ε υ :=
  { store with cells := store.cells.modify number change }

def addCell (cell : Cell ε) (store : Store ε υ) : Nat × Store ε υ :=
  (store.cells.size, { store with cells := store.cells.push cell })

def removeSubscriber (signal subscription : Nat) (store : Store ε υ) : Store ε υ :=
  store.modifyCell signal fun cell =>
    { cell with subscribers := cell.subscribers.filter fun subscriber =>
      subscriber.number != subscription }

theorem cell_modify_cell (number other : Nat) (change : Cell ε → Cell ε) (store : Store ε υ) :
    (store.modifyCell number change).cell other =
      if number = other ∧ other < store.cells.size then change (store.cell other)
      else store.cell other := by
  simp only [cell, modifyCell, Array.getElem?_modify]
  by_cases same : number = other
  · subst same
    by_cases present : number < store.cells.size
    · simp [present]
    · simp [present]
  · simp [same]

theorem cell_add_cell (added : Cell ε) (other : Nat) (store : Store ε υ) :
    (store.addCell added).2.cell other = if other = store.cells.size then added
    else store.cell other := by
  simp only [cell, addCell, Array.getElem?_push]
  split <;> rfl

end Store

variable {ε υ : Type} [HasLog υ]

abbrev Caller (ε υ : Type) := Script ε → Run (Store ε υ) (Answer ε)

def protectedCall (message : String) (body : Run (Store ε υ) Unit) : Run (Store ε υ) Unit := do
  match ← Run.attempt body with
  | .ok () => pure ()
  | .error _ =>
    Run.modify fun store => { store with host := HasLog.log .error .signal message store.host }

def react (call : Caller ε υ) (content : Value) : Reaction ε → Run (Store ε υ) Unit
  | .call run => do
    let _ ← call (run content)
    pure ()
  | .feed target transform => do
    let answer ← call (transform content)
    let _ ← call (.write target answer.content .done)
    pure ()

def release (call : Caller ε υ) : Release ε → Run (Store ε υ) Unit
  | .nothing => pure ()
  | .call run => do
    let _ ← call run
    pure ()
  | .destroy target => do
    let _ ← call (.destroy target .done)
    pure ()

def create (content : Value) (onDestroy : Option (Script ε)) : Run (Store ε υ) Nat := fun store =>
  let added := store.addCell (Cell.fresh content onDestroy)
  .done added.1 added.2

def write (call : Caller ε υ) (signal : Nat) (content : Value) : Run (Store ε υ) Unit := do
  let store ← Run.get
  let cell := store.cell signal
  if cell.isDestroyed then pure ()
  else if cell.subscribers.isEmpty then
    Run.modify (Store.modifyCell signal fun cell => { cell with content := content })
  else if cell.content.same content then pure ()
  else do
    Run.modify (Store.modifyCell signal fun cell => { cell with content := content })
    Run.forEach (fun subscriber =>
      protectedCall "Error in signal subscriber" (react call content subscriber.reaction))
        cell.subscribers

/-- Attaches a subscriber and replays the current content to it; the answer is its number. -/
def attach (call : Caller ε υ) (signal : Nat) (reaction : Reaction ε) (release : Release ε) :
    Run (Store ε υ) Nat := do
  let store ← Run.get
  let number := store.nextSubscription
  let subscriber := { number := number, reaction := reaction, release := release }
  Run.modify fun store =>
    { store.modifyCell signal
      (fun cell => { cell with subscribers := cell.subscribers ++ [subscriber] }) with
      nextSubscription := number + 1 }
  protectedCall "Error in initial subscriber notification"
    (react call (store.cell signal).content reaction)
  pure number

def unsubscribe (signal subscription : Nat) : Run (Store ε υ) Unit :=
  Run.modify (Store.removeSubscriber signal subscription)

def tearDown (call : Caller ε υ) (signal : Nat) (message : String) : Run (Store ε υ) Unit := do
  let store ← Run.get
  Run.modify (Store.modifyCell signal fun cell => { cell with subscribers := [] })
  Run.forEach (fun subscriber => protectedCall message (release call subscriber.release))
    (store.cell signal).subscribers

def detach : Option (Nat × Nat) → Run (Store ε υ) Unit
  | none => pure ()
  | some (parent, subscription) => unsubscribe parent subscription

def runOnDestroy (call : Caller ε υ) : Option (Script ε) → Run (Store ε υ) Unit
  | none => pure ()
  | some script =>
    protectedCall "Error in signal on_destroy callback" do
      let _ ← call script
      pure ()

/-- Marks a live signal destroyed, detaches it from its parent and runs every teardown once. -/
def destroy (call : Caller ε υ) (signal : Nat) : Run (Store ε υ) Unit := do
  let store ← Run.get
  let cell := store.cell signal
  if cell.isDestroyed then pure ()
  else do
    Run.modify (Store.modifyCell signal fun cell =>
      { cell with isDestroyed := true, parent := none })
    detach cell.parent
    tearDown call signal "Error in signal destroy callback"
    runOnDestroy call cell.onDestroy

def clean (call : Caller ε υ) (signal : Nat) : Run (Store ε υ) Unit :=
  tearDown call signal "Error in clean_subscribers destroy callback"

/-- A derived signal starts with the transformed content and follows its parent from then on. -/
def derive (call : Caller ε υ) (signal : Nat) (transform : Value → Script ε) :
    Run (Store ε υ) Nat := do
  let store ← Run.get
  let answer ← call (transform (store.cell signal).content)
  let target ← create answer.content none
  let subscription ← attach call signal (.feed target transform) (.destroy target)
  Run.modify (Store.modifyCell target fun cell =>
    { cell with parent := some (signal, subscription) })
  pure target

/-- Runs a script; callbacks go through `call` and further effects through `perform`. -/
def runScript (call : Caller ε υ) (perform : ε → Run (Store ε υ) Value) :
    Script ε → Run (Store ε υ) (Answer ε)
  | .finish answer => pure answer
  | .fail failure => Run.raise failure
  | .create content onDestroy next => do
    let number ← create content onDestroy
    runScript call perform (next number)
  | .read signal next => do
    let store ← Run.get
    runScript call perform (next (store.cell signal).content)
  | .isDestroyed signal next => do
    let store ← Run.get
    runScript call perform (next (store.cell signal).isDestroyed)
  | .write signal content next => do
    write call signal content
    runScript call perform next
  | .subscribe signal notify teardown next => do
    let number ← attach call signal (.call notify) (match teardown with
      | none => .nothing
      | some script => .call script)
    runScript call perform (next number)
  | .unsubscribe signal subscription next => do
    unsubscribe signal subscription
    runScript call perform next
  | .derive signal transform next => do
    let outcome ← Run.attempt (derive call signal transform)
    runScript call perform (next outcome)
  | .destroy signal next => do
    destroy call signal
    runScript call perform next
  | .clean signal next => do
    clean call signal
    runScript call perform next
  | .perform effect next => do
    let outcome ← Run.attempt (perform effect)
    runScript call perform (next outcome)

/-- The text of a signal in messages. -/
def Cell.display (cell : Cell ε) : String :=
  let state := if cell.isDestroyed then "destroyed" else toString cell.subscribers.length ++
      " subscribers"
  "Signal(" ++ cell.content.quoted ++ ", " ++ state ++ ")"

end Signal
end Interplay
