import Interplay.Proofs.Run.Tracking

/-!
Safe runs.

A run is safe for an invariant if from every state of the invariant it comes to an end, in such a
state again, and with a value of a given property.  Where lost runs are those that were broken off,
safety says that none was.
-/

namespace Interplay

namespace Result

variable {σ α : Type}

def Safe (invariant : σ → Prop) (property : α → Prop) : Result σ α → Prop
  | .done value after => invariant after ∧ property value
  | .raised _ after => invariant after
  | .exhausted => False

theorem safe_map_state {before after : σ → Prop} {property : α → Prop}
    {result : Result σ α} {change : σ → σ}
    (safe : result.Safe before property) (changed : ∀ state, before state → after (change state)) :
    (result.mapState change).Safe after property := by
  cases result with
  | done value state => exact ⟨changed state safe.1, safe.2⟩
  | raised failure state => exact changed state safe
  | exhausted => exact safe

theorem ends_of_safe {invariant : σ → Prop} {property : α → Prop} {result : Result σ α}
    (safe : result.Safe invariant property) : result ≠ .exhausted := by
  rintro rfl
  exact safe

end Result

namespace Run

variable {σ α β : Type} {invariant : σ → Prop} {property : α → Prop} {target : β → Prop}

def Safe (invariant : σ → Prop) (property : α → Prop) (run : Run σ α) : Prop :=
  ∀ state, invariant state → (run state).Safe invariant property

theorem safe_pure {value : α} (has : property value) :
    Safe invariant property (pure value : Run σ α) :=
  fun _ holds => ⟨holds, has⟩

theorem safe_raise (failure : Failure) : Safe invariant property (raise failure : Run σ α) :=
  fun _ holds => holds

theorem safe_modify {change : σ → σ} (kept : ∀ state, invariant state → invariant (change state)) :
    Safe invariant (fun _ => True) (modify change) :=
  fun state holds => ⟨kept state holds, trivial⟩

theorem safe_bind {run : Run σ α} {next : α → Run σ β} (safe : Safe invariant property run)
    (continues : ∀ value, property value → Safe invariant target (next value)) :
    Safe invariant target (run >>= next) := by
  intro state holds
  have first := safe state holds
  change (Run.bind run next state).Safe invariant target
  unfold Run.bind
  cases ended : run state with
  | done value after =>
      rw [ended] at first
      exact continues value first.2 after first.1
  | raised failure after =>
      rw [ended] at first
      exact first
  | exhausted =>
      rw [ended] at first
      exact first

/-- A step that looks at the state first may use that the state it sees is the one it goes on
from. -/
theorem safe_get_bind {next : σ → Run σ β}
    (continues : ∀ state, invariant state → (next state state).Safe invariant target) :
    Safe invariant target (get >>= next) :=
  fun state holds => continues state holds

theorem safe_of_except_bind {outcome : Except Failure α} {next : α → Run σ β}
    (continues : ∀ value, outcome = .ok value → Safe invariant target (next value)) :
    Safe invariant target (ofExcept outcome >>= next) := by
  cases outcome with
  | ok value => exact continues value rfl
  | error failure => exact safe_raise failure

theorem safe_of_except {outcome : Except Failure α}
    (has : ∀ value, outcome = .ok value → property value) :
    Safe invariant property (ofExcept outcome : Run σ α) := by
  cases outcome with
  | ok value => exact safe_pure (has value rfl)
  | error failure => exact safe_raise failure

theorem safe_update {change : σ → Except Failure σ}
    (kept : ∀ state after, invariant state → change state = .ok after → invariant after) :
    Safe invariant (fun _ => True) (update change) := by
  intro state holds
  unfold update
  cases changed : change state with
  | ok after => exact ⟨kept state after holds changed, trivial⟩
  | error failure => exact holds

theorem safe_attempt {run : Run σ α} (safe : Safe invariant property run) :
    Safe invariant (fun outcome => ∀ value, outcome = .ok value → property value)
      (attempt run) := by
  intro state holds
  have ended := safe state holds
  unfold attempt
  cases result : run state with
  | done value after =>
      rw [result] at ended
      refine ⟨ended.1, ?_⟩
      rintro _ ⟨⟩
      exact ended.2
  | raised failure after =>
      rw [result] at ended
      exact ⟨ended, nofun⟩
  | exhausted =>
      rw [result] at ended
      exact ended

theorem safe_followed_by {final : Run σ Unit} {run : Run σ α} (safe : Safe invariant property run)
    (last : Safe invariant (fun _ => True) final) : Safe invariant property
    (followedBy final run) := by
  intro state holds
  have ended := safe state holds
  unfold followedBy
  cases result : run state with
  | done value after =>
      rw [result] at ended
      exact safe_bind last (fun _ _ => safe_pure ended.2) after ended.1
  | raised failure after =>
      rw [result] at ended
      exact safe_bind last (fun _ _ => safe_raise failure) after ended
  | exhausted =>
      rw [result] at ended
      exact ended

theorem safe_collect {step : α → Run σ β} {items : List α}
    (each : ∀ item ∈ items, Safe invariant target (step item)) :
    Safe invariant (fun collected => ∀ value ∈ collected, target value) (collect step items) := by
  induction items with
  | nil => exact safe_pure nofun
  | cons item rest ih =>
      refine safe_bind (each item List.mem_cons_self) fun first held => ?_
      refine safe_bind (ih fun later member => each later (List.mem_cons_of_mem item member))
        fun others allHeld => ?_
      exact safe_pure (List.forall_mem_cons.mpr ⟨held, allHeld⟩)

end Run
end Interplay
