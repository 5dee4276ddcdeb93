import Interplay.Proofs.Run.Tracking
import Interplay.Signal.Bench

/-!
Signals with passive subscribers.

A write that nobody listens to is stored as it is; one that somebody listens to is dropped if it
equals the content.  As long as subscribers only look on, the two differ by no more than that
equality.
-/

namespace Interplay
namespace Signal

open Run

variable {ε υ α : Type}

/-- Host code that looks at signals and does nothing to them. -/
inductive Script.IsPassive : Script ε → Prop
  | finish (answer : Answer ε) : IsPassive (.finish answer)
  | fail (failure : Failure) : IsPassive (.fail failure)
  | read {signal : Nat} {next : Value → Script ε}
      (continues : ∀ content, (next content).IsPassive) :
      IsPassive (.read signal next)
  | isDestroyed {signal : Nat} {next : Bool → Script ε}
      (continues : ∀ flag, (next flag).IsPassive) :
      IsPassive (.isDestroyed signal next)
  | perform {effect : ε} {next : Except Failure Value → Script ε}
      (continues : ∀ outcome, (next outcome).IsPassive) :
      IsPassive (.perform effect next)

def Leaves (run : Run (Store ε υ) α) : Prop :=
  ∀ store, ∃ outcome host, Run.attempt run store = .done outcome { store with host := host }

theorem leaves_pure (value : α) : Leaves (pure value : Run (Store ε υ) α) :=
  fun store => ⟨.ok value, store.host, rfl⟩

theorem leaves_bind {β : Type} {run : Run (Store ε υ) α}
    {next : α → Run (Store ε υ) β} (first : Leaves run)
    (continues : ∀ value, Leaves (next value)) : Leaves (run >>= next) := by
  intro store
  obtain ⟨outcome, host, ended⟩ := first store
  change ∃ outcome host, Run.attempt (Run.bind run next) store = .done outcome
    { store with host := host }
  unfold Run.attempt at ended
  unfold Run.attempt Run.bind
  cases reached : run store with
  | done value after =>
      rw [reached] at ended
      cases ended
      exact continues value _
  | raised failure after =>
      rw [reached] at ended
      cases ended
      exact ⟨_, _, rfl⟩
  | exhausted =>
      rw [reached] at ended
      cases ended

theorem leaves_attempt {run : Run (Store ε υ) α} (leaves : Leaves run) :
    Leaves (Run.attempt run) := by
  intro store
  obtain ⟨outcome, host, ended⟩ := leaves store
  refine ⟨.ok outcome, host, ?_⟩
  rw [Run.attempt.eq_def (Run.attempt run), ended]

variable [HasLog υ]

/-- Passive code leaves all signals, whatever runs callbacks. -/
theorem leaves_passive {call : Caller ε υ} {perform : ε → Run (Store ε υ) Value}
    (performs : ∀ effect, Leaves (perform effect)) {script : Script ε}
    (passive : script.IsPassive) :
    Leaves (runScript call perform script) := by
  induction passive with
  | finish answer => exact leaves_pure answer
  | fail failure => exact fun store => ⟨.error failure, store.host, rfl⟩
  | read _ ih => exact fun store => ih (store.cell _).content store
  | isDestroyed _ ih => exact fun store => ih (store.cell _).isDestroyed store
  | perform _ ih => exact leaves_bind (leaves_attempt (performs _)) ih

theorem protected_of_leaves (message : String) {body : Run (Store ε υ) Unit} (leaves : Leaves body)
    (store : Store ε υ) : ∃ host, protectedCall message body store = .done ()
    { store with host := host } := by
  obtain ⟨outcome, host, ended⟩ := leaves store
  unfold protectedCall
  rw [bind_of_done ended]
  cases outcome with
  | ok _ => exact ⟨host, rfl⟩
  | error failure => exact ⟨_, rfl⟩

omit [HasLog υ] in
theorem for_each_of_leaves {step : α → Run (Store ε υ) Unit} {items : List α}
    (steps : ∀ item ∈ items, ∀ store, ∃ host, step item store = .done ()
      { store with host := host })
    (store : Store ε υ) : ∃ host, Run.forEach step items store = .done ()
      { store with host := host } := by
  induction items generalizing store with
  | nil => exact ⟨store.host, rfl⟩
  | cons item rest ih =>
      obtain ⟨host, ended⟩ := steps item List.mem_cons_self store
      obtain ⟨last, continued⟩ :=
        ih (fun later member => steps later (List.mem_cons_of_mem item member))
        { store with host := host }
      exact ⟨last, (bind_of_done ended).trans continued⟩

namespace Store

/-- A live signal whose subscribers only look on. -/
structure IsAttended (call : Caller ε υ) (signal : Nat) (store : Store ε υ) : Prop where
  present : signal < store.cells.size
  alive : (store.cell signal).isDestroyed = false
  passive : ∀ subscriber ∈ (store.cell signal).subscribers, ∀ content,
    Leaves (react call content subscriber.reaction)

def holding (signal : Nat) (content : Value) (store : Store ε υ) : Store ε υ :=
  store.modifyCell signal fun cell => { cell with content := content }

omit [HasLog υ] in
theorem cell_holding {signal : Nat} {content : Value} {store : Store ε υ}
    (present : signal < store.cells.size) :
    (store.holding signal content).cell signal = { store.cell signal with content := content } := by
  rw [holding, cell_modify_cell, if_pos ⟨rfl, present⟩]

omit [HasLog υ] in
theorem IsAttended.holding {call : Caller ε υ} {signal : Nat} {store : Store ε υ}
    (attended : store.IsAttended call signal) (content : Value) (host : υ) :
    IsAttended call signal { store.holding signal content with host := host } := by
  have cell : Store.cell signal { store.holding signal content with host := host } =
      { store.cell signal with content := content } := cell_holding attended.present
  exact
    { present := (Array.size_modify : (store.holding signal content).cells.size = store.cells.size) ▸ attended.present
      alive := cell ▸ attended.alive
      passive := by
        intro subscriber member
        rw [cell] at member
        exact attended.passive subscriber member }

end Store

section Writes

variable {call : Caller ε υ} {signal : Nat} {store : Store ε υ}

theorem write_of_lonely (attended : store.IsAttended call signal) (content : Value)
    (lonely : (store.cell signal).subscribers = []) :
    write call signal content store = .done () (store.holding signal content) := by
  change (if (store.cell signal).isDestroyed then _ else _ : Run (Store ε υ) Unit) store = _
  rw [attended.alive, if_neg Bool.false_ne_true, lonely]
  rfl

/-- Somebody listens, so equal contents are dropped. -/
theorem write_of_attended (attended : store.IsAttended call signal) (content : Value)
    (crowd : (store.cell signal).subscribers ≠ []) :
    ∃ host, write call signal content store = .done ()
      (if (store.cell signal).content.same content then store
        else { store.holding signal content with host := host }) := by
  have filled : ¬(store.cell signal).subscribers.isEmpty := fun empty => crowd
      (List.isEmpty_iff.mp empty)
  obtain ⟨host, told⟩ := for_each_of_leaves
    (fun subscriber member => protected_of_leaves "Error in signal subscriber"
      (attended.passive subscriber member content)) (store.holding signal content)
  refine ⟨host, ?_⟩
  change (if (store.cell signal).isDestroyed then _ else _ : Run (Store ε υ) Unit) store = _
  rw [attended.alive, if_neg Bool.false_ne_true, if_neg filled]
  by_cases equal : (store.cell signal).content.same content = true
  · rw [if_pos equal, if_pos equal]
    rfl
  · rw [if_neg equal, if_neg equal]
    exact told

end Writes

def Cell.storing (content : Value) (cell : Cell ε) : Value :=
  if cell.subscribers.isEmpty then content
  else if cell.content.same content then cell.content
  else content

theorem write_leaves_storing {call : Caller ε υ} {signal : Nat} {store : Store ε υ}
    (attended : store.IsAttended call signal) (content : Value) :
    ∃ last, write call signal content store = .done () last ∧ last.IsAttended call signal ∧
      (last.cell signal).content = (store.cell signal).storing content := by
  have held : ∀ host : υ,
      (Store.cell signal { store.holding signal content with host := host }).content = content :=
    fun host => congrArg Cell.content (Store.cell_holding attended.present)
  unfold Cell.storing
  by_cases lonely : (store.cell signal).subscribers = []
  · rw [if_pos (List.isEmpty_iff.mpr lonely)]
    exact ⟨_, write_of_lonely attended content lonely,
      attended.holding content store.host, held store.host⟩
  · rw [if_neg fun empty => lonely (List.isEmpty_iff.mp empty)]
    obtain ⟨host, ended⟩ := write_of_attended attended content lonely
    by_cases equal : (store.cell signal).content.same content = true
    · rw [if_pos equal] at ended ⊢
      exact ⟨store, ended, attended, rfl⟩
    · rw [if_neg equal] at ended ⊢
      exact ⟨_, ended, attended.holding content host, held host⟩

/-- Subscribing passively changes nothing but who is subscribed. -/
theorem attach_of_attended {call : Caller ε υ} {signal : Nat}
    {store : Store ε υ} {reaction : Reaction ε}
    (attended : store.IsAttended call signal)
    (passive : ∀ content, Leaves (react call content reaction)) (release : Release ε) :
    ∃ number last, attach call signal reaction release store = .done number last ∧
    last.IsAttended call signal ∧
      (last.cell signal).content = (store.cell signal).content ∧
      (last.cell signal).subscribers ≠ [] := by
  let subscriber : Subscriber ε :=
    { number := store.nextSubscription, reaction := reaction, release := release }
  let joined : Store ε υ :=
    { store.modifyCell signal
      (fun cell => { cell with subscribers := cell.subscribers ++ [subscriber] }) with
      nextSubscription := store.nextSubscription + 1 }
  have cell : joined.cell signal =
      { store.cell signal with subscribers := (store.cell signal).subscribers ++
        [subscriber] } := by
    change (store.modifyCell signal _).cell signal = _
    rw [Store.cell_modify_cell, if_pos ⟨rfl, attended.present⟩]
  obtain ⟨host, replayed⟩ := protected_of_leaves "Error in initial subscriber notification"
    (passive (store.cell signal).content) joined
  have same : Store.cell signal { joined with host := host } = joined.cell signal := rfl
  refine ⟨store.nextSubscription, { joined with host := host },
    (bind_of_done replayed).trans rfl, ?_, ?_, ?_⟩
  · refine
      { present := (Array.size_modify : joined.cells.size = store.cells.size) ▸ attended.present
        alive := by
          rw [same, cell]
          exact attended.alive
        passive := ?_ }
    intro other member
    rw [same, cell, List.mem_append, List.mem_singleton] at member
    rcases member with older | rfl
    · exact attended.passive other older
    · exact passive
  · rw [same, cell]
  · rw [same, cell]
    exact List.append_ne_nil_of_right_ne_nil _ (List.cons_ne_nil _ _)

/-- What is done to a signal whose subscribers are passive. -/
inductive Step where
  | write (content : Value)
  | subscribe (notify : Value → Script Note) (teardown : Option (Script Note))

namespace Step

def content? : Step → Option Value
  | write content => some content
  | subscribe _ _ => none

def IsPassive : Step → Prop
  | write _ => True
  | subscribe notify _ => ∀ content, (notify content).IsPassive

end Step

/-- The contents that are written, in order. -/
def written (steps : List Step) : List Value :=
  steps.filterMap Step.content?

/-- Takes all steps and then looks at the content. -/
def course (signal : Nat) : List Step → Script Note
  | [] => .read signal .ofValue
  | .write content :: rest => .write signal content (course signal rest)
  | .subscribe notify teardown :: rest =>
    .subscribe signal notify teardown fun _ => course signal rest

/-- The course of a new signal. -/
def courseOf (initial : Value) (steps : List Step) : Script Note :=
  .create initial none fun signal => course signal steps

/-- Contents that a comparing signal and a storing one may have: the same, or equal ones if the
first was kept. -/
def Kept (kept stored : Value) : Prop :=
  kept = stored ∨ kept.same stored = true

theorem leaves_note (note : Note) : Leaves (performNote note) :=
  fun store => ⟨.ok (note.apply store.host).1, (note.apply store.host).2, rfl⟩

theorem leaves_react {fuel : Nat} {notify : Value → Script Note}
    (passive : ∀ content, (notify content).IsPassive)
    (content : Value) : Leaves (react (run (fuel + 1)) content (.call notify)) :=
  leaves_bind (leaves_passive leaves_note (passive content)) fun _ => leaves_pure ()

/-- A signal that nobody listens to ends with what was written last. -/
theorem course_of_lonely (fuel : Nat) (signal : Nat) (contents : List Value) {store : Bench}
    (attended : store.IsAttended (run fuel) signal)
    (lonely : (store.cell signal).subscribers = []) :
    ∃ last, run (fuel + 1) (course signal (contents.map Step.write)) store =
      .done (.value (contents.getLastD (store.cell signal).content)) last := by
  induction contents generalizing store with
  | nil => exact ⟨store, rfl⟩
  | cons content rest ih =>
      have wrote := write_of_lonely attended content lonely
      have cell : (store.holding signal content).cell signal =
          { store.cell signal with content := content } :=
        Store.cell_holding attended.present
      obtain ⟨last, ended⟩ :=
        @ih (store.holding signal content) (attended.holding content store.host) (cell ▸ lonely)
      refine ⟨last, (bind_of_done wrote).trans (ended.trans ?_)⟩
      rw [cell]
      cases rest <;> rfl

/-- A signal with passive subscribers ends with what was written last, or with an equal content that
it had before. -/
theorem course_of_attended (fuel : Nat) (signal : Nat) {steps : List Step}
    (passive : ∀ step ∈ steps, step.IsPassive)
    {store : Bench} (attended : store.IsAttended (run (fuel + 1)) signal) {stored : Value}
    (kept : Kept (store.cell signal).content stored) :
    ∃ content last, run (fuel + 2) (course signal steps) store = .done (.value content) last ∧
      Kept content ((written steps).getLastD stored) ∧
      (content = (store.cell signal).content ∨ content ∈ written steps) := by
  induction steps generalizing store stored with
  | nil => exact ⟨_, store, rfl, kept, .inl rfl⟩
  | cons step rest ih =>
      rw [List.forall_mem_cons] at passive
      cases step with
      | subscribe notify teardown =>
          have joining : ∀ release, ∃ content last,
              (attach (run (fuel + 1)) signal (.call notify) release >>= fun _ =>
                run (fuel + 2) (course signal rest)) store = .done (.value content) last ∧
              Kept content ((written rest).getLastD stored) ∧
              (content = (store.cell signal).content ∨ content ∈ written rest) := by
            intro release
            obtain ⟨number, after, joined, stays, same, _⟩ :=
              attach_of_attended attended (leaves_react passive.1) release
            rw [← same] at kept
            obtain ⟨content, last, ended, final, source⟩ := ih passive.2 stays kept
            exact ⟨content, last, (bind_of_done joined).trans ended, final, same ▸ source⟩
          exact joining _
      | write content =>
          obtain ⟨after, wrote, stays, left⟩ := write_leaves_storing attended content
          have step : Kept (after.cell signal).content content ∧
              ((after.cell signal).content = (store.cell signal).content ∨
                (after.cell signal).content = content) := by
            rw [left, Cell.storing]
            split
            · exact ⟨.inl rfl, .inr rfl⟩
            · split
              · rename_i equal
                exact ⟨.inr equal, .inl rfl⟩
              · exact ⟨.inl rfl, .inr rfl⟩
          obtain ⟨found, last, ended, final, origin⟩ := ih passive.2 stays step.1
          refine ⟨found, last, (bind_of_done wrote).trans ended, ?_, ?_⟩
          · have shifted : (written (.write content :: rest)).getLastD stored =
                (written rest).getLastD content := by
              change (content :: written rest).getLastD stored = _
              cases written rest <;> rfl
            exact shifted ▸ final
          · rcases origin with same | member
            · rcases step.2 with older | newer
              · exact .inl (same.trans older)
              · exact .inr ((same.trans newer) ▸ List.mem_cons_self)
            · exact .inr (List.mem_cons_of_mem _ member)

/-- Equal ones among these contents are the same. -/
def AreDistinct (contents : List Value) : Prop :=
  ∀ first ∈ contents, ∀ second ∈ contents, first.same second = true → first = second

/-- Passive subscribers leave a signal with an equal content, and with the same one where equal
contents are the same. -/
theorem courses_agree (fuel : Nat) (initial : Value) {steps : List Step}
    (passive : ∀ step ∈ steps, step.IsPassive) :
    ∃ content stored last plain, run (fuel + 2) (courseOf initial steps) Bench.empty =
    .done (.value content) last ∧
      run (fuel + 2) (courseOf initial ((written steps).map .write)) Bench.empty =
      .done (.value stored) plain ∧
      Kept content stored ∧ (AreDistinct (initial :: written steps) → content = stored) := by
  let made : Bench := (Bench.empty.addCell (Cell.fresh initial none)).2
  have attended : made.IsAttended (run (fuel + 1)) 0 :=
    ⟨Nat.zero_lt_one, rfl, List.forall_mem_nil _⟩
  obtain ⟨plain, stored⟩ := course_of_lonely (fuel + 1) 0 (written steps) attended rfl
  obtain ⟨content, last, ended, kept, source⟩ :=
    course_of_attended fuel 0 passive attended (.inl rfl)
  refine ⟨content, _, last, plain, ended, stored, kept, fun distinct => ?_⟩
  have final : (written steps).getLastD initial ∈ initial :: written steps := by
    rw [List.getLastD_eq_getLast?]
    cases found : (written steps).getLast? with
    | none => exact List.mem_cons_self
    | some ending => exact List.mem_cons_of_mem _ (List.mem_of_getLast? found)
  have inside : content ∈ initial :: written steps := by
    rcases source with same | member
    · exact same ▸ List.mem_cons_self
    · exact List.mem_cons_of_mem _ member
  exact kept.elim id (distinct content inside _ final)

end Signal
end Interplay
