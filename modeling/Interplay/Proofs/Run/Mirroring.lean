import Interplay.Proofs.Run.Tracking

/-!
Runs that mirror each other.

A run mirrors another one if, from related states, both come to the same kind of end, with related
states and related values.  What a failure says does not matter, so whoever catches failures without
looking at them mirrors as well.
-/

namespace Interplay

namespace Result

variable {σ α β : Type}

/-- Results of the same kind; a result that was not followed to its end is left out of account. -/
def Mirrors (relation : σ → σ → Prop) (view : α → β → Prop) : Result σ α → Result σ β → Prop
  | .done value after, .done answer later => relation after later ∧ view value answer
  | .raised _ after, .raised _ later => relation after later
  | .exhausted, _ => True
  | _, _ => False

end Result

namespace Run

variable {σ α β γ δ : Type} {relation : σ → σ → Prop} {view : α → β → Prop}
    {following : γ → δ → Prop}

def Mirrors (relation : σ → σ → Prop) (view : α → β → Prop) (run : Run σ α) (other : Run σ β) :
    Prop :=
  ∀ state counterpart, relation state counterpart →
    (run state).Mirrors relation view (other counterpart)

theorem mirrors_pure {value : α} {answer : β} (known : view value answer) :
    Mirrors relation view (pure value) (pure answer) :=
  fun _ _ related => ⟨related, known⟩

theorem mirrors_raise (failure other : Failure) :
    Mirrors relation view (raise failure : Run σ α) (raise other : Run σ β) :=
  fun _ _ related => related

theorem mirrors_exhaust (other : Run σ β) : Mirrors relation view (exhaust : Run σ α) other :=
  fun _ _ _ => trivial

theorem mirrors_modify {change another : σ → σ}
    (kept : ∀ state counterpart, relation state counterpart →
      relation (change state) (another counterpart)) :
    Mirrors relation (fun _ _ => True) (modify change) (modify another) :=
  fun state counterpart related => ⟨kept state counterpart related, trivial⟩

theorem mirrors_get_bind {next : σ → Run σ α} {after : σ → Run σ β}
    (continues : ∀ state counterpart, relation state counterpart →
      (next state state).Mirrors relation view (after counterpart counterpart)) :
    Mirrors relation view (get >>= next) (get >>= after) :=
  continues

theorem mirrors_bind_at {run : Run σ α} {other : Run σ β} {next : α → Run σ γ} {after : β → Run σ δ}
    {state counterpart : σ} (first : (run state).Mirrors relation view (other counterpart))
    (continues : ∀ value answer, view value answer →
      Mirrors relation following (next value) (after answer)) :
    ((run >>= next) state).Mirrors relation following ((other >>= after) counterpart) := by
  change (Run.bind run next state).Mirrors relation following (Run.bind other after counterpart)
  unfold Run.bind
  cases started : run state with
  | exhausted => trivial
  | done value reached =>
      rw [started] at first
      cases answered : other counterpart with
      | done answer later =>
          rw [answered] at first
          exact continues value answer first.2 reached later first.1
      | raised failure later =>
          rw [answered] at first
          exact first.elim
      | exhausted =>
          rw [answered] at first
          exact first.elim
  | raised failure reached =>
      rw [started] at first
      cases answered : other counterpart with
      | done answer later =>
          rw [answered] at first
          exact first.elim
      | raised failure later =>
          rw [answered] at first
          exact first
      | exhausted =>
          rw [answered] at first
          exact first.elim

theorem mirrors_bind {run : Run σ α} {other : Run σ β} {next : α → Run σ γ} {after : β → Run σ δ}
    (first : Mirrors relation view run other)
    (continues : ∀ value answer, view value answer →
      Mirrors relation following (next value) (after answer)) :
    Mirrors relation following (run >>= next) (other >>= after) :=
  fun state counterpart related => mirrors_bind_at (first state counterpart related) continues

/-- Caught failures are of no account, as long as what follows them mirrors. -/
theorem mirrors_attempt_bind {run : Run σ α} {other : Run σ β} {next : Except Failure α → Run σ γ}
    {after : Except Failure β → Run σ δ} (first : Mirrors relation view run other)
    (continues : ∀ value answer, view value answer →
      Mirrors relation following (next (.ok value)) (after (.ok answer)))
    (caught : ∀ failure another, Mirrors relation following (next (.error failure))
      (after (.error another))) :
    Mirrors relation following (attempt run >>= next) (attempt other >>= after) := by
  intro state counterpart related
  have mirrored := first state counterpart related
  change (Run.bind (attempt run) next state).Mirrors relation following
    (Run.bind (attempt other) after counterpart)
  unfold Run.bind attempt
  cases started : run state with
  | exhausted => trivial
  | done value reached =>
      rw [started] at mirrored
      cases answered : other counterpart with
      | done answer later =>
          rw [answered] at mirrored
          exact continues value answer mirrored.2 reached later mirrored.1
      | raised failure later =>
          rw [answered] at mirrored
          exact mirrored.elim
      | exhausted =>
          rw [answered] at mirrored
          exact mirrored.elim
  | raised failure reached =>
      rw [started] at mirrored
      cases answered : other counterpart with
      | done answer later =>
          rw [answered] at mirrored
          exact mirrored.elim
      | raised another later =>
          rw [answered] at mirrored
          exact caught failure another reached later mirrored
      | exhausted =>
          rw [answered] at mirrored
          exact mirrored.elim

theorem mirrors_if {test other : Prop} [Decidable test] [Decidable other] (same : test ↔ other)
    {run alternative : Run σ α} {chosen otherwise : Run σ β}
    (holds : Mirrors relation view run chosen)
    (fails : Mirrors relation view alternative otherwise) :
    Mirrors relation view (if test then run else alternative)
      (if other then chosen else otherwise) := by
  by_cases given : test
  · rw [if_pos given, if_pos (same.mp given)]
    exact holds
  · rw [if_neg given, if_neg fun taken => given (same.mpr taken)]
    exact fails

theorem mirrors_for_each {step other : α → Run σ Unit} {items : List α}
    (mirrors : ∀ item ∈ items, Mirrors relation (fun _ _ => True) (step item) (other item)) :
    Mirrors relation (fun _ _ => True) (forEach step items) (forEach other items) := by
  induction items with
  | nil => exact mirrors_pure trivial
  | cons item rest ih =>
      rw [List.forall_mem_cons] at mirrors
      exact mirrors_bind mirrors.1 fun _ _ _ => ih mirrors.2

theorem for_each_map (step : β → Run σ Unit) (change : α → β) (items : List α) :
    forEach step (items.map change) = forEach (fun item => step (change item)) items := by
  induction items with
  | nil => rfl
  | cons item rest ih =>
      rw [List.map_cons, forEach, forEach, ih]

end Run
end Interplay
