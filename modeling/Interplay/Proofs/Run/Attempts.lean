import Interplay.Proofs.Run.Tracking

/-!
Attempts one after the other.

A step that fails stops none of the steps after it, which go on from the state that it left.  So
what is known after the items so far, and is kept by the step for one more item whatever its
outcome, is known after all of them.
-/

namespace Interplay
namespace Run

variable {σ α β : Type}

/-- Runs a step for every item, in order, whatever the outcomes; the outcomes are the answer. -/
def attemptAll (step : α → Run σ β) (items : List α) : Run σ (List (Except Failure β)) :=
  collect (fun item => attempt (step item)) items

theorem attempt_of_state {body : Run σ α} {state after : σ}
    (reached : (body state).state? = some after) :
    ∃ outcome, attempt body state = .done outcome after := by
  unfold attempt
  cases ended : body state with
  | done value last =>
      rw [ended] at reached
      cases reached
      exact ⟨.ok value, rfl⟩
  | raised failure last =>
      rw [ended] at reached
      cases reached
      exact ⟨.error failure, rfl⟩
  | exhausted =>
      rw [ended] at reached
      cases reached

/-- A body that ends as an outcome says is an attempt that answers with it. -/
theorem attempt_of_except {body : Run σ α} {state after : σ} {outcome : Except Failure α}
    (ended : body state = ofExcept outcome after) : attempt body state = .done outcome after := by
  unfold attempt
  rw [ended]
  cases outcome with
  | ok value => rfl
  | error failure => rfl

theorem attempt_all_cons {step : α → Run σ β} {item : α} {rest : List α} {state middle last : σ}
    {outcome : Except Failure β} {others : List (Except Failure β)}
    (first : attempt (step item) state = .done outcome middle)
    (remaining : attemptAll step rest middle = .done others last) :
    attemptAll step (item :: rest) state = .done (outcome :: others) last := by
  unfold attemptAll at remaining
  simp only [attemptAll, collect, Run.bind, first, remaining, Run.pure]

section

variable (known : List α → σ → Prop) {step : α → Run σ β}
  (kept : ∀ earlier item state, known earlier state →
    ∃ after, (step item state).state? = some after ∧ known (earlier ++ [item]) after)

include kept

theorem attempt_all_continues (items : List α) {earlier : List α} {state : σ}
    (start : known earlier state) :
    ∃ outcomes last, attemptAll step items state = .done outcomes last ∧
    known (earlier ++ items) last := by
  induction items generalizing earlier state with
  | nil =>
      rw [List.append_nil]
      exact ⟨[], state, rfl, start⟩
  | cons item rest ih =>
      obtain ⟨middle, reached, next⟩ := kept earlier item state start
      obtain ⟨outcome, first⟩ := attempt_of_state reached
      obtain ⟨others, last, remaining, all⟩ := ih next
      rw [List.append_assoc] at all
      exact ⟨outcome :: others, last, attempt_all_cons first remaining, all⟩

/-- What is known after the items so far, and is kept by one more step, is known after all items. -/
theorem attempt_all_reaches (items : List α) {state : σ} (start : known [] state) :
    ∃ outcomes last, attemptAll step items state = .done outcomes last ∧ known items last :=
  attempt_all_continues known kept items start

end

end Run
end Interplay
