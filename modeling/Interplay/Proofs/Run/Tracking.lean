import Interplay.Run

/-!
Runs that track each other.

A run tracks another one if both come to the same end wherever the first comes to one at all.  The
statement is relative to an invariant of the states between steps, which holds again at the end.
Whether the first run may also be lost, by running out of fuel, is a parameter: if it may not,
tracking itself is a proof of termination.
-/

namespace Interplay

namespace Result

variable {σ τ α β : Type}

/-- A result is the same as another one and leaves a state that satisfies the invariant, or it is
lost. -/
def Tracks (lost : Prop) (invariant : σ → Prop) : Result σ α → Result σ α → Prop
  | .done value after, other => other = .done value after ∧ invariant after
  | .raised failure after, other => other = .raised failure after ∧ invariant after
  | .exhausted, _ => lost

/-- The state a result leaves, if it leaves one. -/
def state? : Result σ α → Option σ
  | .done _ after => some after
  | .raised _ after => some after
  | .exhausted => none

theorem not_exhausted_of_state {result : Result σ α} (reached : result.state?.isSome = true) :
    result ≠ .exhausted := by
  rintro rfl
  cases reached

theorem tracks_same {lost : Prop} {invariant : σ → Prop} {result : Result σ α}
    (ends : result = .exhausted → lost)
    (holds : ∀ after, result.state? = some after → invariant after) :
    result.Tracks lost invariant result := by
  cases result with
  | done value after => exact ⟨rfl, holds after rfl⟩
  | raised failure after => exact ⟨rfl, holds after rfl⟩
  | exhausted => exact ends rfl

theorem tracks_eq_or_lost {lost : Prop} {invariant : σ → Prop} {result other : Result σ α}
    (tracks : result.Tracks lost invariant other) : result = .exhausted ∧
    lost ∨ other = result := by
  cases result with
  | done value after => exact .inr tracks.1
  | raised failure after => exact .inr tracks.1
  | exhausted => exact .inl ⟨rfl, tracks⟩

theorem eq_of_tracks {lost : Prop} {invariant : σ → Prop} {result other : Result σ α}
    (tracks : result.Tracks lost invariant other)
    (ends : result ≠ .exhausted) : other = result := by
  rcases tracks_eq_or_lost tracks with ⟨lost, _⟩ | same
  · exact absurd lost ends
  · exact same

theorem holds_of_tracks {lost : Prop} {invariant : σ → Prop} {result other : Result σ α} {after : σ}
    (tracks : result.Tracks lost invariant other)
    (left : result.state? = some after) : invariant after := by
  cases result with
  | done value state =>
      cases left
      exact tracks.2
  | raised failure state =>
      cases left
      exact tracks.2
  | exhausted => cases left

theorem settled_of_tracks {lost : Prop} {invariant : σ → Prop}
    {result other : Result σ α} {last : σ}
    (tracks : result.Tracks lost invariant other) (left : result.state? = some last) :
    other = result ∧ invariant last := by
  refine ⟨eq_of_tracks tracks ?_, holds_of_tracks tracks left⟩
  rintro rfl
  cases left

theorem tracks_self {lost : Prop} {invariant : σ → Prop} {result other : Result σ α}
    (tracks : result.Tracks lost invariant other) : result.Tracks lost invariant result := by
  cases result with
  | done value after => exact ⟨rfl, tracks.2⟩
  | raised failure after => exact ⟨rfl, tracks.2⟩
  | exhausted => exact tracks

theorem ends_of_tracks {invariant : σ → Prop} {result other : Result σ α}
    (tracks : result.Tracks False invariant other) : result ≠ .exhausted := by
  rintro rfl
  exact tracks

theorem tracks_map_state {lost : Prop} {before after : σ → Prop} {change : σ → σ}
    {result other : Result σ α}
    (tracks : result.Tracks lost before other)
    (changed : ∀ state, before state → after (change state)) :
    (result.mapState change).Tracks lost after (other.mapState change) := by
  cases result with
  | done value state =>
      rw [tracks.1]
      exact ⟨rfl, changed state tracks.2⟩
  | raised failure state =>
      rw [tracks.1]
      exact ⟨rfl, changed state tracks.2⟩
  | exhausted => exact tracks

end Result

namespace Run

variable {σ α β : Type} {lost : Prop} {invariant : σ → Prop}

theorem bind_of_done {first : Run σ α} {next : α → Run σ β} {state after : σ} {value : α}
    (ended : first state = .done value after) : (first >>= next) state = next value after := by
  change Run.bind first next state = _
  unfold Run.bind
  rw [ended]

theorem bind_assoc {γ : Type} (first : Run σ α) (next : α → Run σ β) (last : β → Run σ γ) :
    ((first >>= next) >>= last) = first >>= fun value => next value >>= last := by
  funext state
  change Run.bind (Run.bind first next) last state =
    Run.bind first (fun value => Run.bind (next value) last) state
  unfold Run.bind
  cases first state <;> rfl

theorem done_of_bind {first : Run σ α} {next : α → Run σ β} {state last : σ} {value : β}
    (ended : (first >>= next) state = .done value last) :
    ∃ inside after, first state = .done inside after ∧ next inside after = .done value last := by
  change Run.bind first next state = _ at ended
  unfold Run.bind at ended
  cases started : first state with
  | done inside after =>
      rw [started] at ended
      exact ⟨inside, after, rfl, ended⟩
  | raised failure after =>
      rw [started] at ended
      cases ended
  | exhausted =>
      rw [started] at ended
      cases ended

/-- A sequence leaves what its second part leaves, or what its first part leaves by failing. -/
theorem state_of_bind_cases {first : Run σ α} {next : α → Run σ β} {state last : σ}
    (left : ((first >>= next) state).state? = some last) :
    (∃ value after, first state = .done value after ∧ (next value after).state? = some last) ∨
      ∃ failure, first state = .raised failure last := by
  change (Run.bind first next state).state? = some last at left
  unfold Run.bind at left
  cases started : first state with
  | done value after =>
      rw [started] at left
      exact .inl ⟨value, after, rfl, left⟩
  | raised failure after =>
      rw [started] at left
      cases left
      exact .inr ⟨failure, rfl⟩
  | exhausted =>
      rw [started] at left
      cases left

/-- A sequence fails where its first part fails, or its second part after it. -/
theorem raised_of_bind {first : Run σ α} {next : α → Run σ β} {state last : σ} {failure : Failure}
    (ended : (first >>= next) state = .raised failure last) : first state = .raised failure last ∨
      ∃ value after, first state = .done value after ∧ next value after = .raised failure last := by
  change Run.bind first next state = _ at ended
  unfold Run.bind at ended
  cases started : first state with
  | done value after =>
      rw [started] at ended
      exact .inr ⟨value, after, rfl, ended⟩
  | raised failure after =>
      rw [started] at ended
      cases ended
      exact .inl rfl
  | exhausted =>
      rw [started] at ended
      cases ended

theorem state_attempt (body : Run σ α) (state : σ) : (attempt body state).state? =
    (body state).state? := by
  unfold attempt
  cases body state <;> rfl

theorem bind_of_raised {first : Run σ α} {next : α → Run σ β} {state after : σ} {failure : Failure}
    (ended : first state = .raised failure after) : (first >>= next) state =
    .raised failure after := by
  change Run.bind first next state = _
  unfold Run.bind
  rw [ended]

theorem bind_of_exhausted {first : Run σ α} {next : α → Run σ β} {state : σ}
    (lost : first state = .exhausted) : (first >>= next) state = .exhausted := by
  change Run.bind first next state = _
  unfold Run.bind
  rw [lost]

def NeverFails (run : Run σ α) : Prop :=
  ∀ start failure last, run start ≠ .raised failure last

theorem reached_of_bind {first : Run σ α} {next : α → Run σ β} {start last : σ}
    (never : NeverFails first) (left : ((first >>= next) start).state? = some last) :
    ∃ value middle, first start = .done value middle ∧ (next value middle).state? = some last := by
  rcases state_of_bind_cases left with reached | ⟨failure, failed⟩
  · exact reached
  · exact absurd failed (never start failure last)

theorem pure_never_fails (value : α) : NeverFails (pure value : Run σ α) := by
  intro start failure last ended
  cases ended

theorem modify_never_fails (change : σ → σ) : NeverFails (modify change) := by
  intro start failure last ended
  cases ended

theorem attempt_never_fails (run : Run σ α) : NeverFails (attempt run) := by
  intro start failure last ended
  unfold attempt at ended
  cases inside : run start <;> rw [inside] at ended <;> cases ended

theorem bind_never_fails {first : Run σ α} {next : α → Run σ β} (never : NeverFails first)
    (continues : ∀ value, NeverFails (next value)) : NeverFails (first >>= next) := by
  intro start failure last
  change Run.bind first next start ≠ _
  unfold Run.bind
  cases started : first start with
  | done value after => exact continues value after failure last
  | raised failure after => exact absurd started (never start failure after)
  | exhausted =>
      intro ended
      cases ended

theorem for_each_never_fails {step : α → Run σ Unit}
    (steps : ∀ item, NeverFails (step item)) (items : List α) :
    NeverFails (forEach step items) := by
  induction items with
  | nil => exact pure_never_fails ()
  | cons item rest ih => exact bind_never_fails (steps item) fun _ => ih

def Tracks (lost : Prop) (invariant : σ → Prop) (run other : Run σ α) : Prop :=
  ∀ state, invariant state → (run state).Tracks lost invariant (other state)

theorem Tracks.self {run other : Run σ α} (tracks : Tracks lost invariant run other) :
    Tracks lost invariant run run :=
  fun state holds => Result.tracks_self (tracks state holds)

theorem tracks_pure (value : α) : Tracks lost invariant (pure value : Run σ α) (pure value) :=
  fun _ holds => ⟨rfl, holds⟩

theorem tracks_raise (failure : Failure) :
    Tracks lost invariant (raise failure : Run σ α) (raise failure) :=
  fun _ holds => ⟨rfl, holds⟩

theorem tracks_get : Tracks lost invariant (get : Run σ σ) get :=
  fun _ holds => ⟨rfl, holds⟩

theorem tracks_exhaust (permitted : lost) (other : Run σ α) : Tracks lost invariant exhaust other :=
  fun _ _ => permitted

theorem tracks_of_except (outcome : Except Failure α) :
    Tracks lost invariant (ofExcept outcome : Run σ α) (ofExcept outcome) := by
  cases outcome with
  | ok value => exact tracks_pure value
  | error failure => exact tracks_raise failure

theorem tracks_modify {change : σ → σ}
    (kept : ∀ state, invariant state → invariant (change state)) :
    Tracks lost invariant (modify change) (modify change) :=
  fun state holds => ⟨rfl, kept state holds⟩

theorem tracks_update {change : σ → Except Failure σ}
    (kept : ∀ state after, invariant state → change state = .ok after → invariant after) :
    Tracks lost invariant (update change) (update change) := by
  intro state holds
  unfold update
  cases changed : change state with
  | ok after => exact ⟨rfl, kept state after holds changed⟩
  | error failure => exact ⟨rfl, holds⟩

theorem tracks_bind_at {run other : Run σ α} {next following : α → Run σ β} {state : σ}
    (first : (run state).Tracks lost invariant (other state))
    (continues : ∀ value, Tracks lost invariant (next value) (following value)) :
    ((run >>= next) state).Tracks lost invariant ((other >>= following) state) := by
  change (Run.bind run next state).Tracks lost invariant (Run.bind other following state)
  unfold Run.bind
  cases ended : run state with
  | done value after =>
      rw [ended] at first
      rw [first.1]
      exact continues value after first.2
  | raised failure after =>
      rw [ended] at first
      rw [first.1]
      exact ⟨rfl, first.2⟩
  | exhausted =>
      rw [ended] at first
      exact first

theorem tracks_bind {run other : Run σ α} {next following : α → Run σ β}
    (tracks : Tracks lost invariant run other)
    (continues : ∀ value, Tracks lost invariant (next value) (following value)) :
    Tracks lost invariant (run >>= next) (other >>= following) :=
  fun state holds => tracks_bind_at (tracks state holds) continues

theorem tracks_of_except_bind_at {outcome : Except Failure α}
    {next following : α → Run σ β} {state : σ} (holds : invariant state)
    (continues : ∀ value, outcome = .ok value → (next value state).Tracks lost invariant
      (following value state)) :
    ((ofExcept outcome >>= next) state).Tracks lost invariant
      ((ofExcept outcome >>= following) state) := by
  cases outcome with
  | ok value => exact continues value rfl
  | error failure => exact ⟨rfl, holds⟩

/-- What follows a computed outcome may use that it is this one. -/
theorem tracks_of_except_bind {outcome : Except Failure α} {next following : α → Run σ β}
    (continues : ∀ value, outcome = .ok value →
      Tracks lost invariant (next value) (following value)) :
    Tracks lost invariant (ofExcept outcome >>= next) (ofExcept outcome >>= following) :=
  fun state holds => tracks_of_except_bind_at holds fun value made =>
    continues value made state holds

/-- A step that looks at the state first may use that the state it sees is the one it goes on
from. -/
theorem tracks_get_bind {next following : σ → Run σ β}
    (continues : ∀ state, invariant state → (next state state).Tracks lost invariant
      (following state state)) :
    Tracks lost invariant (get >>= next) (get >>= following) :=
  fun state holds => continues state holds

theorem tracks_get_bind_left {next : σ → Run σ β} {other : Run σ β}
    (continues : ∀ state, invariant state →
      (next state state).Tracks lost invariant (other state)) :
    Tracks lost invariant (get >>= next) other :=
  fun state holds => continues state holds

/-- Runs that choose by a test track from a state if what they choose does. -/
theorem tracks_if {test : Prop} [Decidable test] {run other alternative otherwise : Run σ α}
    {state : σ} (chosen : test → (run state).Tracks lost invariant (other state))
    (refused : ¬test → (alternative state).Tracks lost invariant (otherwise state)) :
    ((if test then run else alternative) state).Tracks lost invariant
      ((if test then other else otherwise) state) := by
  by_cases holds : test
  · rw [if_pos holds, if_pos holds]
    exact chosen holds
  · rw [if_neg holds, if_neg holds]
    exact refused holds

theorem tracks_attempt {run other : Run σ α} (tracks : Tracks lost invariant run other) :
    Tracks lost invariant (attempt run) (attempt other) := by
  intro state holds
  have first := tracks state holds
  unfold attempt
  cases ended : run state with
  | done value after =>
      rw [ended] at first
      rw [first.1]
      exact ⟨rfl, first.2⟩
  | raised failure after =>
      rw [ended] at first
      rw [first.1]
      exact ⟨rfl, first.2⟩
  | exhausted =>
      rw [ended] at first
      exact first

theorem tracks_followed_by {final : Run σ Unit} {run other : Run σ α}
    (tracks : Tracks lost invariant run other) (last : Tracks lost invariant final final) :
    Tracks lost invariant (followedBy final run) (followedBy final other) := by
  intro state holds
  have first := tracks state holds
  unfold followedBy
  cases ended : run state with
  | done value after =>
      rw [ended] at first
      rw [first.1]
      exact tracks_bind last (fun _ => tracks_pure value) after first.2
  | raised failure after =>
      rw [ended] at first
      rw [first.1]
      exact tracks_bind last (fun _ => tracks_raise failure) after first.2
  | exhausted =>
      rw [ended] at first
      exact first

theorem tracks_collect_of_mem {step other : α → Run σ β} {items : List α}
    (tracks : ∀ item ∈ items, Tracks lost invariant (step item) (other item)) :
    Tracks lost invariant (collect step items) (collect other items) := by
  induction items with
  | nil => exact tracks_pure []
  | cons item rest ih =>
      refine tracks_bind (tracks item List.mem_cons_self) fun first => ?_
      refine tracks_bind (ih fun later member => tracks later (List.mem_cons_of_mem item member))
        fun others => ?_
      exact tracks_pure (first :: others)

theorem tracks_collect {step other : α → Run σ β}
    (tracks : ∀ item, Tracks lost invariant (step item) (other item))
    (items : List α) : Tracks lost invariant (collect step items) (collect other items) :=
  tracks_collect_of_mem fun item _ => tracks item

theorem tracks_for_each {step other : α → Run σ Unit} {items : List α}
    (tracks : ∀ item ∈ items, Tracks lost invariant (step item) (other item)) :
    Tracks lost invariant (forEach step items) (forEach other items) := by
  induction items with
  | nil => exact tracks_pure ()
  | cons item rest ih =>
      refine tracks_bind (tracks item List.mem_cons_self) fun _ => ?_
      exact ih fun later member => tracks later (List.mem_cons_of_mem item member)

theorem tracks_for_each_indexed {step other : Nat → α → Run σ Unit} {items : List α}
    (tracks : ∀ item ∈ items, ∀ index, Tracks lost invariant (step index item) (other index item))
    (index : Nat) :
    Tracks lost invariant (forEachIndexed step index items) (forEachIndexed other index items) := by
  induction items generalizing index with
  | nil => exact tracks_pure ()
  | cons item rest ih =>
      refine tracks_bind (tracks item List.mem_cons_self index) fun _ => ?_
      exact ih (fun later member => tracks later (List.mem_cons_of_mem item member)) (index + 1)

/-- A run on a part of the state tracks as far as it tracks for that part in its surroundings. -/
theorem tracks_zoom {τ : Type} {view : σ → τ} {update : τ → σ → σ}
    (same : ∀ state, update (view state) state = state)
    {run other : Run τ α} (tracks : ∀ state, invariant state →
      Tracks lost (fun part => invariant (update part state)) run other) :
    Tracks lost invariant (zoom view update run) (zoom view update other) := by
  intro state holds
  have first := tracks state holds (view state) (by simpa only [same] using holds)
  unfold zoom
  cases ended : run (view state) with
  | done value after =>
      rw [ended] at first
      rw [first.1]
      exact ⟨rfl, first.2⟩
  | raised failure after =>
      rw [ended] at first
      rw [first.1]
      exact ⟨rfl, first.2⟩
  | exhausted =>
      rw [ended] at first
      exact first

/-- Every value that a run is done with has a property. -/
def Yields (invariant : σ → Prop) (property : α → Prop) (run : Run σ α) : Prop :=
  ∀ state value after, invariant state → run state = .done value after → property value

variable {property : β → Prop}

theorem yields_pure {value : β} (has : property value) :
    Yields invariant property (pure value : Run σ β) := by
  rintro state found after _ ended
  cases ended
  exact has

theorem yields_raise (failure : Failure) : Yields invariant property (raise failure : Run σ β) := by
  rintro state found after _ ended
  cases ended

theorem yields_exhaust : Yields invariant property (exhaust : Run σ β) := by
  rintro state found after _ ended
  cases ended

theorem yields_bind {run other : Run σ α} {next : α → Run σ β}
    (tracks : Tracks lost invariant run other)
    (continues : ∀ value, Yields invariant property (next value)) :
    Yields invariant property (run >>= next) := by
  intro state value last holds ended
  obtain ⟨inside, after, started, continuing⟩ := done_of_bind ended
  have first := tracks state holds
  rw [started] at first
  exact continues inside after value last first.2 continuing

theorem yields_get_bind {next : σ → Run σ β}
    (continues : ∀ state, Yields invariant property (next state)) :
    Yields invariant property (get >>= next) :=
  fun state value after holds ended => continues state state value after holds ended

theorem yields_of_except_bind {outcome : Except Failure α} {next : α → Run σ β}
    (continues : ∀ value, outcome = .ok value → Yields invariant property (next value)) :
    Yields invariant property (ofExcept outcome >>= next) := by
  cases outcome with
  | ok value => exact continues value rfl
  | error failure => exact yields_raise failure

theorem yields_attempt {run : Run σ β} (yields : Yields invariant property run) :
    Yields invariant (fun outcome => ∀ value, outcome = .ok value → property value)
      (attempt run) := by
  intro state outcome after holds ended
  unfold attempt at ended
  cases inside : run state with
  | done value last =>
      rw [inside] at ended
      cases ended
      rintro _ ⟨⟩
      exact yields state value after holds inside
  | raised failure last =>
      rw [inside] at ended
      cases ended
      rintro _ ⟨⟩
  | exhausted =>
      rw [inside] at ended
      cases ended

/-- What follows a run may use what is known of its value. -/
theorem tracks_bind_of_yields {expected : α → Prop} {run other : Run σ α}
    {next following : α → Run σ β}
    (tracks : Tracks lost invariant run other) (yields : Yields invariant expected run)
    (continues : ∀ value, expected value → Tracks lost invariant (next value) (following value)) :
    Tracks lost invariant (run >>= next) (other >>= following) := by
  intro state holds
  have first := tracks state holds
  change (Run.bind run next state).Tracks lost invariant (Run.bind other following state)
  unfold Run.bind
  cases ended : run state with
  | done value after =>
      rw [ended] at first
      rw [first.1]
      exact continues value (yields state value after holds ended) after first.2
  | raised failure after =>
      rw [ended] at first
      rw [first.1]
      exact ⟨rfl, first.2⟩
  | exhausted =>
      rw [ended] at first
      exact first

theorem yields_bind_of_yields {expected : α → Prop} {run other : Run σ α} {next : α → Run σ β}
    (tracks : Tracks lost invariant run other) (yields : Yields invariant expected run)
    (continues : ∀ value, expected value → Yields invariant property (next value)) :
    Yields invariant property (run >>= next) := by
  intro state value last holds ended
  obtain ⟨inside, after, started, continuing⟩ := done_of_bind ended
  have first := tracks state holds
  rw [started] at first
  exact continues inside (yields state inside after holds started) after
    value last first.2 continuing

def Ends (run : Run σ α) : Prop :=
  Tracks False (fun _ => True) run run

theorem ends_of_never_exhausted {run : Run σ α} (ends : ∀ state, run state ≠ .exhausted) :
    Ends run :=
  fun state _ => Result.tracks_same (ends state) fun _ _ => trivial

end Run
end Interplay
