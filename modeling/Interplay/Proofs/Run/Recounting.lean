import Interplay.Proofs.Run.Tracking

/-!
Runs that keep an account.

A run recounts another one if it does the same and only keeps more in its state: forgetting what it
keeps gives back the other run.  What accounts say is then said of the runs themselves.
-/

namespace Interplay
namespace Run

variable {σ τ α β : Type} {forget : σ → τ}

def Recounts (forget : σ → τ) (run : Run σ α) (plain : Run τ α) : Prop :=
  ∀ state, (run state).mapState forget = plain (forget state)

namespace Recounts

theorem pure (value : α) : Recounts forget (Pure.pure value) (Pure.pure value) :=
  fun _ => rfl

theorem raise (failure : Failure) :
    Recounts forget (Run.raise failure : Run σ α) (Run.raise failure) :=
  fun _ => rfl

theorem exhaust : Recounts forget (Run.exhaust : Run σ α) Run.exhaust :=
  fun _ => rfl

theorem of_except (outcome : Except Failure α) :
    Recounts forget (Run.ofExcept outcome : Run σ α) (Run.ofExcept outcome) := by
  cases outcome with
  | ok value => exact pure value
  | error failure => exact raise failure

theorem bind {run : Run σ α} {plain : Run τ α} {next : α → Run σ β} {following : α → Run τ β}
    (first : Recounts forget run plain)
    (continues : ∀ value, Recounts forget (next value) (following value)) :
    Recounts forget (run >>= next) (plain >>= following) := by
  intro state
  have started := first state
  change (Run.bind run next state).mapState forget = Run.bind plain following (forget state)
  unfold Run.bind
  rw [← started]
  cases run state with
  | done value after => exact continues value after
  | raised failure after => rfl
  | exhausted => rfl

theorem get_bind {next : σ → Run σ α} {following : τ → Run τ α}
    (continues : ∀ state, Recounts forget (next state) (following (forget state))) :
    Recounts forget (Run.get >>= next) (Run.get >>= following) :=
  fun state => continues state state

theorem modify {change : σ → σ} {other : τ → τ}
    (same : ∀ state, forget (change state) = other (forget state)) :
    Recounts forget (Run.modify change) (Run.modify other) := by
  intro state
  change Result.done () (forget (change state)) = Result.done () (other (forget state))
  rw [same]

/-- What only the account keeps is nothing to the plain run. -/
theorem modify_bind {change : σ → σ} {next : Run σ α} {plain : Run τ α}
    (same : ∀ state, forget (change state) = forget state)
    (continues : Recounts forget next plain) :
    Recounts forget (Run.modify change >>= fun _ => next) plain := by
  intro state
  have continued := continues (change state)
  rwa [same] at continued

theorem bind_modify {change : σ → σ} {run : Run σ Unit} {plain : Run τ Unit}
    (same : ∀ state, forget (change state) = forget state) (recounts : Recounts forget run plain) :
    Recounts forget (run >>= fun _ => Run.modify change) plain := by
  intro state
  rw [← recounts state]
  change (Run.bind run (fun _ => Run.modify change) state).mapState forget = _
  unfold Run.bind
  cases run state with
  | done value after => exact congrArg (Result.done value) (same after)
  | raised failure after => rfl
  | exhausted => rfl

theorem attempt {run : Run σ α} {plain : Run τ α} (recounts : Recounts forget run plain) :
    Recounts forget (Run.attempt run) (Run.attempt plain) := by
  intro state
  unfold Run.attempt
  rw [← recounts state]
  cases run state with
  | done value after => rfl
  | raised failure after => rfl
  | exhausted => rfl

theorem for_each {step : α → Run σ Unit} {plain : α → Run τ Unit}
    (recounts : ∀ item, Recounts forget (step item) (plain item)) (items : List α) :
    Recounts forget (Run.forEach step items) (Run.forEach plain items) := by
  induction items with
  | nil => exact fun _ => rfl
  | cons item rest ih => exact bind (recounts item) fun _ => ih

theorem choose {test : Prop} [Decidable test] {run alternative : Run σ α}
    {plain otherwise : Run τ α}
    (chosen : test → Recounts forget run plain)
    (refused : ¬test → Recounts forget alternative otherwise) :
    Recounts forget (if test then run else alternative) (if test then plain else otherwise) := by
  by_cases holds : test
  · rw [if_pos holds, if_pos holds]
    exact chosen holds
  · rw [if_neg holds, if_neg holds]
    exact refused holds

theorem leaves {run : Run σ α} {plain : Run τ α}
    (recounts : Recounts forget run plain) {state last : σ}
    (left : (run state).state? = some last) : (plain (forget state)).state? =
    some (forget last) := by
  rw [← recounts state]
  cases reached : run state with
  | done value after =>
      rw [reached] at left
      cases left
      rfl
  | raised failure after =>
      rw [reached] at left
      cases left
      rfl
  | exhausted =>
      rw [reached] at left
      cases left

theorem finishes {run : Run σ α} {plain : Run τ α} (recounts : Recounts forget run plain)
    {state last : σ} {value : α}
    (ended : run state = .done value last) : plain (forget state) = .done value (forget last) := by
  rw [← recounts state, ended]
  rfl

theorem ends {run : Run σ α} {plain : Run τ α} (recounts : Recounts forget run plain) (state : σ)
    (finite : plain (forget state) ≠ .exhausted) : ∃ last, (run state).state? = some last := by
  rw [← recounts state] at finite
  cases reached : run state with
  | done value last => exact ⟨last, rfl⟩
  | raised failure last => exact ⟨last, rfl⟩
  | exhausted =>
      rw [reached] at finite
      exact absurd rfl finite

end Recounts
end Run
end Interplay
