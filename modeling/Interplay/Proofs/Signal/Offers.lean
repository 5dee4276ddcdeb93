import Interplay.Proofs.Signal.Felling

/-!
What signals are offered.

An offering run is an observed run that also writes down each content that a live signal is set to,
whether by host code or because the signal follows another one, beside the content that the signal
holds at that moment.  So it can be said what a subscriber is to be told, and that can be held
against what he is told.
-/

namespace Interplay
namespace Signal

open Run

variable {ε κ υ α β : Type}

/-- A live signal is set to a content while it holds another one, or an equal one. -/
structure Offer where
  signal : Nat
  content : Value
  held : Value

abbrev Offered := Store Note (Observed Offer Journal)

namespace Store

def offered (signal : Nat) (content : Value) (store : Offered) : Offered :=
  if store.isAlive signal then
    store.told (.own { signal := signal, content := content, held := (store.cell signal).content })
  else store

def heralded : Script Note → Offered → Offered
  | .write signal content _, store => store.offered signal content
  | _, store => store

theorem plain_offered (signal : Nat) (content : Value) (store : Offered) :
    (store.offered signal content).mapHost Observed.host = store.mapHost Observed.host := by
  unfold offered
  split <;> rfl

theorem plain_heralded (script : Script Note) (store : Offered) :
    (store.heralded script).mapHost Observed.host = store.mapHost Observed.host := by
  cases script with
  | write signal content next => exact plain_offered signal content store
  | _ => rfl

theorem heralded_of_passive {script : Script Note} (passive : script.IsPassive) (store : Offered) :
    store.heralded script = store := by
  cases passive <;> rfl

/-- A signal is offered a content and takes it. -/
def taken (signal : Nat) (content : Value) (store : Offered) : Offered :=
  (store.offered signal content).stored signal content

theorem cell_offered (signal other : Nat) (content : Value) (store : Offered) :
    (store.offered signal content).cell other = store.cell other := by
  unfold offered
  split <;> rfl

theorem cell_taken (signal other : Nat) (content : Value) (store : Offered) :
    (store.taken signal content).cell other = (store.holding signal content).cell other := by
  unfold taken stored offered
  split <;> split <;> rfl

theorem cell_taken_of_ne {signal other : Nat} (strange : other ≠ signal)
    (content : Value) (store : Offered) :
    (store.taken signal content).cell other = store.cell other := by
  rw [cell_taken, holding, cell_modify_cell, if_neg fun same => strange same.1.symm]

theorem content_taken {signal : Nat} {store : Offered}
    (present : signal < store.cells.size) (content : Value) :
    ((store.taken signal content).cell signal).content = content := by
  rw [cell_taken, cell_holding present]

theorem rewritten_offered (signal : Nat) (content : Value) (store : Offered) :
    store.Rewritten (store.offered signal content) := by
  unfold offered
  split
  · exact Rewritten.host store _
  · exact Rewritten.refl store

theorem rewritten_taken (signal : Nat) (content : Value) (store : Offered) :
    store.Rewritten (store.taken signal content) where
  size := (size_stored signal content _).trans (rewritten_offered signal content store).size
  next := by
    unfold taken stored offered
    split <;> split <;> rfl
  cells := by
    intro other
    rw [cell_taken]
    exact (Rewritten.holding signal content store).cells other

theorem holds_of_rewritten {before after : Offered}
    (rewritten : before.Rewritten after) (signal number : Nat) :
    after.Holds signal number ↔ before.Holds signal number := by
  rw [Holds, numbers, rewritten.subscribers, Holds, numbers]

theorem happenings_taken {signal : Nat} {store : Offered}
    (alive : store.isAlive signal = true) (content : Value) :
    (store.taken signal content).happenings = store.happenings ++
      [.own { signal := signal, content := content, held := (store.cell signal).content },
        .written signal content] := by
  have present : signal < (store.offered signal content).cells.size :=
    (rewritten_offered signal content store).size.symm ▸ (present_of_alive alive).1
  rw [taken, happenings_stored, if_pos present, offered, if_pos alive]
  exact List.append_assoc _ _ _

def rehosted (host : υ) (store : Store ε (Observed κ υ)) : Store ε (Observed κ υ) :=
  { store with host := { store.host with host := host } }

end Store

section Runs

variable (call : Caller Note (Observed Offer Journal))

def offeringWrite (signal : Nat) (content : Value) : Run Offered Unit := do
  Run.modify (Store.offered signal content)
  observedWrite call signal content

def offeringUpdate (signal : Nat) (transform : Value → Script Note) :
    Run Offered (Answer Note) := do
  let store ← Run.get
  let answer ← call (transform (store.cell signal).content)
  call (.write signal answer.content .done)

end Runs

/-- Runs a script with fuel for the nesting of callbacks, and observes it and its offers. -/
def offering : Nat → Script Note → Run Offered (Answer Note)
  | 0, _ => Run.exhaust
  | fuel + 1, script => do
    Run.modify (Store.heralded script)
    observedScript (offering fuel) (fun note => aside (performNote note)) script

theorem observes_offering (fuel : Nat) (script : Script Note) :
    Observes (offering fuel script) (run fuel script) := by
  induction fuel generalizing script with
  | zero => exact Recounts.exhaust
  | succ fuel ih =>
      refine Recounts.modify_bind (Store.plain_heralded script) ?_
      exact observes_script ih (fun note => observes_aside (performNote note)) script

theorem observes_offering_write (fuel signal : Nat) (content : Value) :
    Observes (offeringWrite (offering fuel) signal content) (write (run fuel) signal content) :=
  Recounts.modify_bind (Store.plain_offered signal content)
    (observes_write (observes_offering fuel) signal content)

theorem offering_write (fuel signal : Nat) (content : Value) :
    offering (fuel + 1) (.write signal content .done) =
      offeringWrite (offering fuel) signal content >>= fun _ => pure (.value .null) :=
  (Run.bind_assoc _ _ _).symm

/-- A script that goes on with an answer runs the first part and then the other. -/
theorem run_and_then [HasLog υ] {call : Caller ε υ} {perform : ε → Run (Store ε υ) Value}
    (following : Answer ε → Script ε) (script : Script ε) :
    runScript call perform (script.andThen following) =
      runScript call perform script >>= fun answer => runScript call perform
        (following answer) := by
  have later : ∀ {γ : Type} (first : Run (Store ε υ) γ) {next : γ → Script ε}
      (_ : ∀ value, runScript call perform ((next value).andThen following) =
        runScript call perform (next value) >>=
        fun answer => runScript call perform (following answer)),
      (first >>= fun value => runScript call perform ((next value).andThen following)) =
        (first >>= fun value => runScript call perform (next value)) >>= fun answer =>
          runScript call perform (following answer) := by
    intro γ first next same
    rw [Run.bind_assoc]
    exact congrArg (first >>= ·) (funext same)
  induction script using Script.steps with
  | finish answer => rfl
  | fail failure => rfl
  | create content onDestroy next ih => exact later _ ih
  | read signal next ih => exact later Run.get fun store => ih (store.cell signal).content
  | isDestroyed signal next ih =>
      exact later Run.get fun store => ih (store.cell signal).isDestroyed
  | write signal content next ih => exact later (write call signal content) fun _ => ih
  | subscribe signal notify teardown next ih => exact later _ ih
  | unsubscribe signal subscription next ih =>
      exact later (unsubscribe signal subscription) fun _ => ih
  | derive signal transform next ih => exact later _ ih
  | destroy signal next ih => exact later (destroy call signal) fun _ => ih
  | clean signal next ih => exact later (clean call signal) fun _ => ih
  | perform effect next ih => exact later _ ih

theorem observes_offering_update (fuel signal : Nat) (transform : Value → Script Note) :
    Observes (offeringUpdate (offering (fuel + 1)) signal transform)
      (run (fuel + 1) (Script.update signal transform .done)) := by
  refine Recounts.get_bind fun store => ?_
  change Recounts _ _
    (runScript (run fuel) performNote ((transform (store.cell signal).content).andThen _))
  rw [run_and_then]
  exact Recounts.bind (observes_offering (fuel + 1) _) fun answer =>
    observes_offering (fuel + 1) (.write signal answer.content .done)

section Aside

theorem aside_bind (first : Run (Store ε υ) α) (next : α → Run (Store ε υ) β) :
    (aside (first >>= next) : Run (Store ε (Observed κ υ)) β) = aside first >>=
    fun value => aside (next value) := by
  funext store
  change (Run.bind first next (store.mapHost Observed.host)).mapState _ =
    Run.bind (aside first) _ store
  unfold Run.bind aside
  cases first (store.mapHost Observed.host) <;> rfl

theorem aside_attempt (body : Run (Store ε υ) α) :
    (aside (Run.attempt body) : Run (Store ε (Observed κ υ)) (Except Failure α)) =
    Run.attempt (aside body) := by
  funext store
  change (Run.attempt body (store.mapHost Observed.host)).mapState _ =
    Run.attempt (aside body) store
  simp only [Run.attempt, aside]
  cases body (store.mapHost Observed.host) <;> rfl

variable [HasLog υ]

theorem observed_passive {call : Caller ε (Observed κ υ)} (plain : Caller ε υ)
    {perform : ε → Run (Store ε υ) Value} {script : Script ε} (passive : script.IsPassive) :
    observedScript call (fun effect => aside (perform effect)) script = aside
      (runScript plain perform script) := by
  induction passive with
  | finish answer => rfl
  | fail failure => rfl
  | read _ ih => exact funext fun store => congrFun (ih _) store
  | isDestroyed _ ih => exact funext fun store => congrFun (ih _) store
  | @perform effect next _ ih =>
      change _ = aside
        (Run.attempt (perform effect) >>= fun outcome => runScript plain perform (next outcome))
      rw [aside_bind, aside_attempt]
      exact congrArg (Run.attempt (aside (perform effect)) >>= ·) (funext ih)

theorem aside_protected (message : String) (body : Run (Store ε υ) Unit) :
    (aside (protectedCall message body) : Run (Store ε (Observed κ υ)) Unit) =
    protectedCall message (aside body) := by
  unfold protectedCall
  rw [aside_bind, aside_attempt]
  refine congrArg (Run.attempt (aside body) >>= ·) (funext fun outcome => ?_)
  cases outcome <;> rfl

end Aside

theorem offering_passive {script : Script Note} (passive : script.IsPassive) (fuel : Nat) :
    offering (fuel + 1) script = aside (run (fuel + 1) script) := by
  rw [run, ← observed_passive (run fuel) passive]
  funext store
  change observedScript _ _ script (store.heralded script) = _
  rw [Store.heralded_of_passive passive]

/-- Passive code comes to an end, if there is fuel for any callback at all, and changes only the
surroundings. -/
theorem passive_ends {script : Script Note} (passive : script.IsPassive)
    (fuel : Nat) (store : Offered) :
    ∃ host, (offering (fuel + 1) script store).state? = some (store.rehosted host) := by
  have leaves : Leaves (run (fuel + 1) script) := leaves_passive leaves_note passive
  obtain ⟨outcome, host, ended⟩ := leaves (store.mapHost Observed.host)
  refine ⟨host, ?_⟩
  rw [offering_passive passive, ← state_attempt, ← aside_attempt, aside, ended]
  rfl

theorem state_of_passive {script : Script Note} (passive : script.IsPassive)
    {fuel : Nat} {store last : Offered}
    (left : (offering fuel script store).state? = some last) : ∃ host, last =
    store.rehosted host := by
  cases fuel with
  | zero => cases left
  | succ fuel =>
      obtain ⟨host, ended⟩ := passive_ends passive fuel store
      exact ⟨host, Option.some.inj (left.symm.trans ended)⟩

/-- A passive callback comes to an end, if there is fuel for any callback at all. -/
theorem protected_passive (message : String) {script : Script Note}
    (passive : script.IsPassive) (fuel : Nat) (store : Offered) :
    ∃ host, protectedCall message (offering (fuel + 1) script >>= fun _ => pure ()) store =
      .done () (store.rehosted host) := by
  have leaves : Leaves (run (fuel + 1) script >>= fun _ => pure ()) :=
    leaves_bind (leaves_passive leaves_note passive) fun _ => leaves_pure ()
  obtain ⟨host, ended⟩ := protected_of_leaves message leaves (store.mapHost Observed.host)
  have apart : (offering (fuel + 1) script >>= fun _ => pure ()) =
      (aside (run (fuel + 1) script >>= fun _ => pure ()) : Run Offered Unit) := by
    rw [aside_bind, offering_passive passive]
    rfl
  refine ⟨host, ?_⟩
  rw [apart, ← aside_protected, aside, ended]
  rfl

end Signal
end Interplay
