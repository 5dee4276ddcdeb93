import Interplay.Proofs.Signal.Recounting
import Interplay.Signal.Bench

/-!
Chronicles of signals.

A recorded run does what a run does and also writes down, moment by moment, what happens to signals
and their records, each with how all signals stand.  A record is a subscription that was given a
teardown.  Forgetting the chronicle gives back the run itself, so what chronicles say is said of all
runs.
-/

namespace Interplay
namespace Signal

inductive Event where
  /-- Host code takes its next step. -/
  | operation
  /-- A live signal is marked destroyed; the records that are subscribed then, in order. -/
  | destroyed (signal : Nat) (records : List Nat)
  /-- The teardown of a record starts. -/
  | released (record : Nat)
  /-- What a signal does on its destruction starts. -/
  | ended (signal : Nat)
  /-- The destruction of a signal is over. -/
  | returned (signal : Nat)

abbrev Standing := List (Value × Bool)

structure Moment where
  event : Event
  standing : Standing

abbrev History := List Moment

structure Chronicle where
  journal : Journal
  history : History

instance : HasLog Chronicle :=
  ⟨fun level source message chronicle =>
    { chronicle with journal := chronicle.journal.log level source message }⟩

abbrev Chronicled := Store Note Chronicle

namespace Chronicled

def empty : Chronicled :=
  { cells := #[], nextSubscription := 0, host := { journal := Journal.empty, history := [] } }

def forget (store : Chronicled) : Bench :=
  { cells := store.cells, nextSubscription := store.nextSubscription, host := store.host.journal }

def standing (store : Chronicled) : Standing :=
  store.cells.toList.map fun cell => (cell.content, cell.isDestroyed)

def history (store : Chronicled) : History :=
  store.host.history

def told (event : Event) (store : Chronicled) : Chronicled :=
  { store with host := { store.host with
      history := store.host.history ++ [{ event := event, standing := store.standing }] } }

end Chronicled

def Subscriber.record? (subscriber : Subscriber Note) : Option Nat :=
  match subscriber.release with
  | .nothing => none
  | .call _ => some subscriber.number
  | .destroy _ => some subscriber.number

def Cell.records (cell : Cell Note) : List Nat :=
  cell.subscribers.filterMap Subscriber.record?

def tell (event : Event) : Run Chronicled Unit :=
  Run.modify (Chronicled.told event)

def tellDestroyed (signal : Nat) : Run Chronicled Unit :=
  Run.modify fun store => store.told (.destroyed signal (store.cell signal).records)

section Recorded

variable (call : Caller Note Chronicle)

def recordedRelease (subscriber : Subscriber Note) : Run Chronicled Unit := do
  match subscriber.record? with
  | none => pure ()
  | some record => tell (.released record)
  release call subscriber.release

def recordedTearDown (signal : Nat) (message : String) : Run Chronicled Unit := do
  let store ← Run.get
  Run.modify (Store.modifyCell signal fun cell => { cell with subscribers := [] })
  Run.forEach (fun subscriber => protectedCall message (recordedRelease call subscriber))
    (store.cell signal).subscribers

def recordedOnDestroy (signal : Nat) : Option (Script Note) → Run Chronicled Unit
  | none => pure ()
  | some script =>
    protectedCall "Error in signal on_destroy callback" do
      tell (.ended signal)
      let _ ← call script
      pure ()

/-- The moment of destruction is written down before any callback runs: until then the signal is
only marked and taken off its parent. -/
def recordedDestroy (signal : Nat) : Run Chronicled Unit := do
  let store ← Run.get
  let cell := store.cell signal
  if cell.isDestroyed then pure ()
  else do
    Run.modify (Store.modifyCell signal fun cell =>
      { cell with isDestroyed := true, parent := none })
    detach cell.parent
    tellDestroyed signal
    recordedTearDown call signal "Error in signal destroy callback"
    recordedOnDestroy call signal cell.onDestroy
    tell (.returned signal)

def recordedScript (perform : Note → Run Chronicled Value) : Script Note →
    Run Chronicled (Answer Note)
  | .finish answer => pure answer
  | .fail failure => Run.raise failure
  | .create content onDestroy next => do
    tell .operation
    let number ← create content onDestroy
    recordedScript perform (next number)
  | .read signal next => do
    tell .operation
    let store ← Run.get
    recordedScript perform (next (store.cell signal).content)
  | .isDestroyed signal next => do
    tell .operation
    let store ← Run.get
    recordedScript perform (next (store.cell signal).isDestroyed)
  | .write signal content next => do
    tell .operation
    write call signal content
    recordedScript perform next
  | .subscribe signal notify teardown next => do
    tell .operation
    let number ← attach call signal (.call notify) (match teardown with
      | none => .nothing
      | some script => .call script)
    recordedScript perform (next number)
  | .unsubscribe signal subscription next => do
    tell .operation
    unsubscribe signal subscription
    recordedScript perform next
  | .derive signal transform next => do
    tell .operation
    let outcome ← Run.attempt (derive call signal transform)
    recordedScript perform (next outcome)
  | .destroy signal next => do
    tell .operation
    recordedDestroy call signal
    recordedScript perform next
  | .clean signal next => do
    tell .operation
    recordedTearDown call signal "Error in clean_subscribers destroy callback"
    recordedScript perform next
  | .perform effect next => do
    tell .operation
    let outcome ← Run.attempt (perform effect)
    recordedScript perform (next outcome)

end Recorded

def recordedNote (note : Note) : Run Chronicled Value := fun store =>
  let outcome := note.apply store.host.journal
  .done outcome.1 { store with host := { store.host with journal := outcome.2 } }

/-- Runs a script with fuel for the nesting of callbacks, and keeps a chronicle. -/
def recorded : Nat → Script Note → Run Chronicled (Answer Note)
  | 0 => fun _ => Run.exhaust
  | fuel + 1 => recordedScript (recorded fuel) recordedNote

/-- A run that does what another one does, and keeps a chronicle besides. -/
abbrev Recounted {α : Type} (run : Run Chronicled α) (plain : Run Bench α) : Prop :=
  Run.Recounts (Store.mapHost Chronicle.journal) run plain

theorem chronicle_keeps_log : KeepsLog Chronicle.journal :=
  fun _ _ _ _ => rfl

open Run

/-- What is written down is nothing to the plain run. -/
theorem recounted_tell {α : Type} (event : Event) {next : Run Chronicled α} {plain : Run Bench α}
    (continues : Recounted next plain) : Recounted (tell event >>= fun _ => next) plain :=
  Recounts.modify_bind (fun _ => rfl) continues

section Callers

variable {call : Caller Note Chronicle} {plain : Caller Note Journal}
  (calls : ∀ script, Recounted (call script) (plain script))

include calls

theorem recounts_write (signal : Nat) (content : Value) :
    Recounted (write call signal content) (write plain signal content) := by
  refine Recounts.get_bind fun store => ?_
  have same : (store.mapHost Chronicle.journal).cell signal = store.cell signal := rfl
  rw [same]
  dsimp only
  by_cases destroyed : (store.cell signal).isDestroyed
  · simp only [destroyed, if_true]
    exact Recounts.pure ()
  by_cases alone : (store.cell signal).subscribers.isEmpty
  · simp only [destroyed, alone, if_true]
    exact Recounts.modify fun _ => rfl
  by_cases equal : (store.cell signal).content.same content
  · simp only [destroyed, alone, equal, if_true]
    exact Recounts.pure ()
  simp only [destroyed, alone, equal]
  refine Recounts.bind (Recounts.modify fun _ => rfl) fun _ => ?_
  exact Recounts.for_each
    (fun subscriber => recounts_protected chronicle_keeps_log _ (recounts_react calls content _)) _

theorem recounts_attach (signal : Nat) (reaction : Reaction Note) (release : Release Note) :
    Recounted (attach call signal reaction release) (attach plain signal reaction release) := by
  refine Recounts.get_bind fun store => ?_
  refine Recounts.bind (Recounts.modify fun _ => rfl) fun _ => ?_
  refine Recounts.bind (recounts_protected chronicle_keeps_log _ (recounts_react calls _ reaction))
    fun _ => ?_
  exact Recounts.pure store.nextSubscription

theorem recounts_derive (signal : Nat) (transform : Value → Script Note) :
    Recounted (derive call signal transform) (derive plain signal transform) := by
  refine Recounts.get_bind fun store => ?_
  refine Recounts.bind (calls _) fun answer => ?_
  refine Recounts.bind (recounts_create Chronicle.journal answer.content none) fun target => ?_
  refine Recounts.bind (recounts_attach calls signal _ _) fun subscription => ?_
  exact Recounts.bind (Recounts.modify fun _ => rfl) fun _ => Recounts.pure target

theorem recounts_tear_down (signal : Nat) (message : String) :
    Recounted (recordedTearDown call signal message) (tearDown plain signal message) := by
  refine Recounts.get_bind fun store => ?_
  refine Recounts.bind (Recounts.modify fun _ => rfl) fun _ => ?_
  refine Recounts.for_each (fun subscriber => recounts_protected chronicle_keeps_log _ ?_) _
  unfold recordedRelease
  cases subscriber.record? with
  | none => exact recounts_release calls subscriber.release
  | some record => exact recounted_tell _ (recounts_release calls subscriber.release)

theorem recounts_on_destroy (signal : Nat) (script : Option (Script Note)) :
    Recounted (recordedOnDestroy call signal script) (runOnDestroy plain script) := by
  cases script with
  | none => exact Recounts.pure ()
  | some script =>
      refine recounts_protected chronicle_keeps_log _ (recounted_tell _ ?_)
      exact Recounts.bind (calls script) fun _ => Recounts.pure ()

theorem recounts_destroy (signal : Nat) :
    Recounted (recordedDestroy call signal) (destroy plain signal) := by
  refine Recounts.get_bind fun store => ?_
  have same : (store.mapHost Chronicle.journal).cell signal = store.cell signal := rfl
  rw [same]
  dsimp only
  by_cases destroyed : (store.cell signal).isDestroyed
  · simp only [destroyed, if_true]
    exact Recounts.pure ()
  simp only [destroyed]
  refine Recounts.bind (Recounts.modify fun _ => rfl) fun _ => ?_
  refine Recounts.bind (recounts_detach Chronicle.journal _) fun _ => ?_
  refine Recounts.modify_bind (fun _ => rfl)
    (Recounts.bind (recounts_tear_down calls signal _) fun _ => ?_)
  exact Recounts.bind_modify (fun _ => rfl) (recounts_on_destroy calls signal _)

theorem recounts_script {perform : Note → Run Chronicled Value} {other : Note → Run Bench Value}
    (performs : ∀ note, Recounted (perform note) (other note)) (script : Script Note) :
    Recounted (recordedScript call perform script) (runScript plain other script) := by
  induction script using Script.steps with
  | finish answer => exact Recounts.pure answer
  | fail failure => exact Recounts.raise failure
  | create content onDestroy next ih =>
      exact recounted_tell _
        (Recounts.bind (recounts_create Chronicle.journal content onDestroy) ih)
  | read signal next ih => exact recounted_tell _ (Recounts.get_bind fun store => ih _)
  | isDestroyed signal next ih => exact recounted_tell _ (Recounts.get_bind fun store => ih _)
  | write signal content next ih =>
      exact recounted_tell _ (Recounts.bind (recounts_write calls signal content) fun _ => ih)
  | subscribe signal notify teardown next ih =>
      refine recounted_tell _ (Recounts.bind ?_ ih)
      cases teardown with
      | none => exact recounts_attach calls signal _ _
      | some script => exact recounts_attach calls signal _ _
  | unsubscribe signal subscription next ih =>
      exact recounted_tell _
        (Recounts.bind (recounts_unsubscribe Chronicle.journal signal subscription) fun _ => ih)
  | derive signal transform next ih =>
      exact recounted_tell _ (Recounts.bind (recounts_derive calls signal transform).attempt ih)
  | destroy signal next ih =>
      exact recounted_tell _ (Recounts.bind (recounts_destroy calls signal) fun _ => ih)
  | clean signal next ih =>
      exact recounted_tell _ (Recounts.bind (recounts_tear_down calls signal _) fun _ => ih)
  | perform effect next ih =>
      exact recounted_tell _ (Recounts.bind (performs effect).attempt ih)

end Callers

theorem recounts_recorded (fuel : Nat) (script : Script Note) :
    Recounted (recorded fuel script) (run fuel script) := by
  induction fuel generalizing script with
  | zero => exact fun _ => rfl
  | succ fuel ih => exact recounts_script ih (fun _ _ => rfl) script

end Signal
end Interplay
