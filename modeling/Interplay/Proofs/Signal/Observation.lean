import Interplay.Proofs.Signal.Recounting
import Interplay.Signal.Bench

/-!
Observed signals.

An observed run does what a run does and also writes down who subscribes, who is told which content
and who leaves.  A notice says how much had happened when its content was taken: a write takes its
content once for the whole round of subscribers, whatever they do before the last of them is told.
-/

namespace Interplay
namespace Signal

structure Notice where
  signal : Nat
  subscriber : Nat
  content : Value
  /-- How much had happened when the content was taken. -/
  since : Nat

inductive Happening (κ : Type) where
  /-- A subscription starts, on a signal that is alive or not. -/
  | attached (signal subscriber : Nat) (alive : Bool)
  | written (signal : Nat) (content : Value)
  | notified (notice : Notice)
  /-- A subscriber was taken off by its number. -/
  | left (signal subscriber : Nat)
  /-- A signal drops all its subscribers, who are torn down from then on. -/
  | emptied (signal : Nat)
  /-- A subscriber is torn down. -/
  | released (signal subscriber : Nat)
  | destroyed (signal : Nat) (content : Value)
  | own (event : κ)

/-- Surroundings with all that has happened in them. -/
structure Observed (κ υ : Type) where
  host : υ
  happenings : List (Happening κ)

variable {ε κ υ : Type}

instance [HasLog υ] : HasLog (Observed κ υ) :=
  ⟨fun level source message observed =>
    { observed with host := HasLog.log level source message observed.host }⟩

namespace Store

def happenings (store : Store ε (Observed κ υ)) : List (Happening κ) :=
  store.host.happenings

def told (happening : Happening κ) (store : Store ε (Observed κ υ)) : Store ε (Observed κ υ) :=
  { store with host := { store.host with happenings := store.host.happenings ++ [happening] } }

def isAlive (signal : Nat) (store : Store ε υ) : Bool :=
  match store.cells[signal]? with
  | some cell => !cell.isDestroyed
  | none => false

/-- A signal that is there gets another content. -/
def stored (signal : Nat) (content : Value) (store : Store ε (Observed κ υ)) :
    Store ε (Observed κ υ) :=
  let changed := store.modifyCell signal fun cell => { cell with content := content }
  if signal < store.cells.size then changed.told (.written signal content) else changed

def subscribed (signal : Nat) (reaction : Reaction ε) (release : Release ε)
    (store : Store ε (Observed κ υ)) :
    Store ε (Observed κ υ) :=
  let number := store.nextSubscription
  let subscriber := { number := number, reaction := reaction, release := release }
  let changed :=
    { store.modifyCell signal
      (fun cell => { cell with subscribers := cell.subscribers ++ [subscriber] }) with
      nextSubscription := number + 1 }
  changed.told (.attached signal number (store.isAlive signal))

/-- A subscriber is taken off; numbers that were never given say nothing. -/
def departed (signal subscription : Nat) (store : Store ε (Observed κ υ)) :
    Store ε (Observed κ υ) :=
  let changed := store.removeSubscriber signal subscription
  if subscription < store.nextSubscription then changed.told (.left signal subscription)
  else changed

def cleared (signal : Nat) (store : Store ε (Observed κ υ)) : Store ε (Observed κ υ) :=
  (store.modifyCell signal fun cell => { cell with subscribers := [] }).told (.emptied signal)

def marked (signal : Nat) (store : Store ε (Observed κ υ)) : Store ε (Observed κ υ) :=
  let changed :=
    store.modifyCell signal fun cell => { cell with isDestroyed := true, parent := none }
  if signal < store.cells.size then changed.told (.destroyed signal (store.cell signal).content)
  else changed

end Store

def aside {α : Type} (body : Run (Store ε υ) α) : Run (Store ε (Observed κ υ)) α := fun store =>
  (body (store.mapHost Observed.host)).mapState
    (Store.mapHost fun host => { host := host, happenings := store.happenings })

def Observed.modify (change : υ → υ) (observed : Observed κ υ) : Observed κ υ :=
  { observed with host := change observed.host }

/-- Changes the surroundings before a body and again after it, however it ends. -/
def within {α : Type} (enter leave : υ → υ) (body : Run (Store ε υ) α) :
    Run (Store ε υ) α := fun store =>
  Run.ensuring (Store.mapHost leave) body (store.mapHost enter)

def announce (happening : Happening κ) : Run (Store ε (Observed κ υ)) Unit :=
  Run.modify (Store.told happening)

section Observed

variable [HasLog υ] (call : Caller ε (Observed κ υ))

/-- Tells one subscriber of a round. -/
def notify (signal : Nat) (content : Value) (since : Nat) (subscriber : Subscriber ε) :
    Run (Store ε (Observed κ υ)) Unit :=
  protectedCall "Error in signal subscriber" do
    announce (.notified
      { signal := signal, subscriber := subscriber.number, content := content, since := since })
    react call content subscriber.reaction

def observedWrite (signal : Nat) (content : Value) : Run (Store ε (Observed κ υ)) Unit := do
  let store ← Run.get
  let cell := store.cell signal
  if cell.isDestroyed then pure ()
  else if cell.subscribers.isEmpty then Run.modify (Store.stored signal content)
  else if cell.content.same content then pure ()
  else do
    Run.modify (Store.stored signal content)
    Run.forEach (notify call signal content (store.stored signal content).happenings.length)
      cell.subscribers

def observedAttach (signal : Nat) (reaction : Reaction ε) (release : Release ε) :
    Run (Store ε (Observed κ υ)) Nat := do
  let store ← Run.get
  let number := store.nextSubscription
  let content := (store.cell signal).content
  Run.modify (Store.subscribed signal reaction release)
  announce (.notified
    { signal := signal, subscriber := number, content := content,
      since := store.happenings.length })
  protectedCall "Error in initial subscriber notification" (react call content reaction)
  pure number

def observedUnsubscribe (signal subscription : Nat) : Run (Store ε (Observed κ υ)) Unit :=
  Run.modify (Store.departed signal subscription)

def observedDetach : Option (Nat × Nat) → Run (Store ε (Observed κ υ)) Unit
  | none => pure ()
  | some (parent, subscription) => observedUnsubscribe parent subscription

def discharge (message : String) (signal : Nat) (subscriber : Subscriber ε) :
    Run (Store ε (Observed κ υ)) Unit :=
  protectedCall message do
    announce (.released signal subscriber.number)
    release call subscriber.release

def observedTearDown (signal : Nat) (message : String) : Run (Store ε (Observed κ υ)) Unit := do
  let store ← Run.get
  Run.modify (Store.cleared signal)
  Run.forEach (discharge call message signal) (store.cell signal).subscribers

def observedDestroy (signal : Nat) : Run (Store ε (Observed κ υ)) Unit := do
  let store ← Run.get
  let cell := store.cell signal
  if cell.isDestroyed then pure ()
  else do
    Run.modify (Store.marked signal)
    observedDetach cell.parent
    observedTearDown call signal "Error in signal destroy callback"
    runOnDestroy call cell.onDestroy

def observedClean (signal : Nat) : Run (Store ε (Observed κ υ)) Unit :=
  observedTearDown call signal "Error in clean_subscribers destroy callback"

def observedDerive (signal : Nat) (transform : Value → Script ε) :
    Run (Store ε (Observed κ υ)) Nat := do
  let store ← Run.get
  let answer ← call (transform (store.cell signal).content)
  let target ← create answer.content none
  let subscription ← observedAttach call signal (.feed target transform) (.destroy target)
  Run.modify (Store.modifyCell target fun cell =>
    { cell with parent := some (signal, subscription) })
  pure target

def observedScript (perform : ε → Run (Store ε (Observed κ υ)) Value) :
    Script ε → Run (Store ε (Observed κ υ)) (Answer ε)
  | .finish answer => pure answer
  | .fail failure => Run.raise failure
  | .create content onDestroy next => do
    let number ← create content onDestroy
    observedScript perform (next number)
  | .read signal next => do
    let store ← Run.get
    observedScript perform (next (store.cell signal).content)
  | .isDestroyed signal next => do
    let store ← Run.get
    observedScript perform (next (store.cell signal).isDestroyed)
  | .write signal content next => do
    observedWrite call signal content
    observedScript perform next
  | .subscribe signal notify teardown next => do
    let number ← observedAttach call signal (.call notify) (match teardown with
      | none => .nothing
      | some script => .call script)
    observedScript perform (next number)
  | .unsubscribe signal subscription next => do
    observedUnsubscribe signal subscription
    observedScript perform next
  | .derive signal transform next => do
    let outcome ← Run.attempt (observedDerive call signal transform)
    observedScript perform (next outcome)
  | .destroy signal next => do
    observedDestroy call signal
    observedScript perform next
  | .clean signal next => do
    observedClean call signal
    observedScript perform next
  | .perform effect next => do
    let outcome ← Run.attempt (perform effect)
    observedScript perform (next outcome)

end Observed

open Run

abbrev Observes {α : Type} (run : Run (Store ε (Observed κ υ)) α) (plain : Run (Store ε υ) α) :
    Prop :=
  Recounts (Store.mapHost Observed.host) run plain

theorem observed_keeps_log [HasLog υ] : KeepsLog (Observed.host : Observed κ υ → υ) :=
  fun _ _ _ _ => rfl

theorem observes_aside {α : Type} (body : Run (Store ε υ) α) :
    Observes (aside body : Run (Store ε (Observed κ υ)) α) body := by
  intro store
  unfold aside
  cases body (store.mapHost Observed.host) <;> rfl

theorem observes_within {α : Type} (enter leave : υ → υ) {body : Run (Store ε (Observed κ υ)) α}
    {plain : Run (Store ε υ) α} (observes : Observes body plain) :
    Observes (within (Observed.modify enter) (Observed.modify leave) body)
      (within enter leave plain) := by
  intro store
  have inside := observes (store.mapHost (Observed.modify enter))
  have entered : (store.mapHost (Observed.modify enter)).mapHost Observed.host =
      (store.mapHost Observed.host).mapHost enter := rfl
  unfold within Run.ensuring
  rw [← entered, ← inside]
  cases body (store.mapHost (Observed.modify enter)) <;> rfl

theorem observes_followed_by {α : Type} {final : Run (Store ε (Observed κ υ)) Unit}
    {other : Run (Store ε υ) Unit}
    {body : Run (Store ε (Observed κ υ)) α} {plain : Run (Store ε υ) α}
    (last : Observes final other)
    (observes : Observes body plain) : Observes (Run.followedBy final body)
    (Run.followedBy other plain) := by
  intro store
  have inside := observes store
  unfold Run.followedBy
  rw [← inside]
  cases body store with
  | done value after => exact (Recounts.bind last fun _ => Recounts.pure value) after
  | raised failure after => exact (Recounts.bind last fun _ => Recounts.raise failure) after
  | exhausted => rfl

namespace Store

theorem plain_stored (signal : Nat) (content : Value) (store : Store ε (Observed κ υ)) :
    (store.stored signal content).mapHost Observed.host =
      (store.mapHost Observed.host).modifyCell signal fun cell =>
        { cell with content := content } := by
  unfold stored
  split <;> rfl

theorem plain_departed (signal subscription : Nat) (store : Store ε (Observed κ υ)) :
    (store.departed signal subscription).mapHost Observed.host =
      (store.mapHost Observed.host).removeSubscriber signal subscription := by
  unfold departed
  split <;> rfl

theorem plain_marked (signal : Nat) (store : Store ε (Observed κ υ)) :
    (store.marked signal).mapHost Observed.host =
      (store.mapHost Observed.host).modifyCell signal fun cell =>
        { cell with isDestroyed := true, parent := none } := by
  unfold marked
  split <;> rfl

end Store

theorem observes_announce {α : Type} (happening : Happening κ)
    {next : Run (Store ε (Observed κ υ)) α}
    {plain : Run (Store ε υ) α} (continues : Observes next plain) :
    Observes (announce happening >>= fun _ => next) plain :=
  Recounts.modify_bind (fun _ => rfl) continues

theorem observes_unsubscribe (signal subscription : Nat) :
    Observes (observedUnsubscribe signal subscription : Run (Store ε (Observed κ υ)) Unit)
      (unsubscribe signal subscription) :=
  Recounts.modify (Store.plain_departed signal subscription)

theorem observes_detach (parent : Option (Nat × Nat)) :
    Observes (observedDetach parent : Run (Store ε (Observed κ υ)) Unit) (detach parent) := by
  cases parent with
  | none => exact Recounts.pure ()
  | some parent => exact observes_unsubscribe parent.1 parent.2

section Callers

variable [HasLog υ] {call : Caller ε (Observed κ υ)} {plain : Caller ε υ}
  (calls : ∀ script, Observes (call script) (plain script))

include calls

theorem observes_write (signal : Nat) (content : Value) :
    Observes (observedWrite call signal content) (write plain signal content) := by
  refine Recounts.get_bind fun store => ?_
  rw [Store.cell_map_host]
  refine Recounts.choose (fun _ => Recounts.pure ()) fun _ => ?_
  refine Recounts.choose (fun _ => Recounts.modify (Store.plain_stored signal content)) fun _ => ?_
  refine Recounts.choose (fun _ => Recounts.pure ()) fun _ => ?_
  refine Recounts.bind (Recounts.modify (Store.plain_stored signal content)) fun _ => ?_
  refine Recounts.for_each (fun subscriber => recounts_protected observed_keeps_log _ ?_) _
  exact observes_announce _ (recounts_react calls content subscriber.reaction)

theorem observes_attach (signal : Nat) (reaction : Reaction ε) (release : Release ε) :
    Observes (observedAttach call signal reaction release)
      (attach plain signal reaction release) := by
  intro store
  -- both runs go on from the signal with its new subscriber
  have replayed := recounts_protected observed_keeps_log "Error in initial subscriber notification"
    (recounts_react calls (store.cell signal).content reaction)
  exact observes_announce _ (Recounts.bind replayed fun _ => Recounts.pure store.nextSubscription)
    (store.subscribed signal reaction release)

theorem observes_tear_down (signal : Nat) (message : String) :
    Observes (observedTearDown call signal message) (tearDown plain signal message) := by
  refine Recounts.get_bind fun store => ?_
  refine Recounts.bind (Recounts.modify fun _ => rfl) fun _ => ?_
  refine Recounts.for_each (fun subscriber => recounts_protected observed_keeps_log _ ?_) _
  exact observes_announce _ (recounts_release calls subscriber.release)

theorem observes_on_destroy (script : Option (Script ε)) :
    Observes (runOnDestroy call script) (runOnDestroy plain script) := by
  cases script with
  | none => exact Recounts.pure ()
  | some script =>
      exact recounts_protected observed_keeps_log _
        (Recounts.bind (calls script) fun _ => Recounts.pure ())

theorem observes_destroy (signal : Nat) : Observes (observedDestroy call signal)
    (destroy plain signal) := by
  refine Recounts.get_bind fun store => ?_
  rw [Store.cell_map_host]
  refine Recounts.choose (fun _ => Recounts.pure ()) fun _ => ?_
  refine Recounts.bind (Recounts.modify (Store.plain_marked signal)) fun _ => ?_
  refine Recounts.bind (observes_detach _) fun _ => ?_
  exact Recounts.bind (observes_tear_down calls signal _) fun _ => observes_on_destroy calls _

theorem observes_derive (signal : Nat) (transform : Value → Script ε) :
    Observes (observedDerive call signal transform) (derive plain signal transform) := by
  refine Recounts.get_bind fun store => ?_
  refine Recounts.bind (calls _) fun answer => ?_
  refine Recounts.bind (recounts_create Observed.host answer.content none) fun target => ?_
  refine Recounts.bind (observes_attach calls signal _ _) fun subscription => ?_
  exact Recounts.bind (Recounts.modify fun _ => rfl) fun _ => Recounts.pure target

theorem observes_script {perform : ε → Run (Store ε (Observed κ υ)) Value}
    {other : ε → Run (Store ε υ) Value}
    (performs : ∀ effect, Observes (perform effect) (other effect)) (script : Script ε) :
    Observes (observedScript call perform script) (runScript plain other script) := by
  induction script using Script.steps with
  | finish answer => exact Recounts.pure answer
  | fail failure => exact Recounts.raise failure
  | create content onDestroy next ih =>
      exact Recounts.bind (recounts_create Observed.host content onDestroy) ih
  | read signal next ih => exact Recounts.get_bind fun store => ih _
  | isDestroyed signal next ih => exact Recounts.get_bind fun store => ih _
  | write signal content next ih =>
      exact Recounts.bind (observes_write calls signal content) fun _ => ih
  | subscribe signal notify teardown next ih =>
      exact Recounts.bind (observes_attach calls signal _ _) ih
  | unsubscribe signal subscription next ih =>
      exact Recounts.bind (observes_unsubscribe signal subscription) fun _ => ih
  | derive signal transform next ih =>
      exact Recounts.bind (observes_derive calls signal transform).attempt ih
  | destroy signal next ih => exact Recounts.bind (observes_destroy calls signal) fun _ => ih
  | clean signal next ih => exact Recounts.bind (observes_tear_down calls signal _) fun _ => ih
  | perform effect next ih => exact Recounts.bind (performs effect).attempt ih

end Callers

/-- Runs a script with fuel for the nesting of callbacks, and observes it. -/
def observed : Nat → Script Note → Run (Store Note (Observed Empty Journal)) (Answer Note)
  | 0 => fun _ => Run.exhaust
  | fuel + 1 => observedScript (observed fuel) fun note => aside (performNote note)

theorem observes_observed (fuel : Nat) (script : Script Note) :
    Observes (observed fuel script) (Signal.run fuel script) := by
  induction fuel generalizing script with
  | zero => exact fun _ => rfl
  | succ fuel ih => exact observes_script ih (fun note => observes_aside (performNote note)) script

end Signal
end Interplay
