import Interplay.Proofs.Run.Tracking

/-!
Runs in lockstep.

Two runs go in lockstep if from paired states both come to the same end, with the same value or the
same failure, and their states are paired again.  The first run may fall out of step, but only with
an excuse: its state shows one, and shows it from then on, or the failure that it raises is pardoned
where it is caught.  So a first run that ends without an excuse was in step all the way.
-/

namespace Interplay

/-- Which states are paired, and which states of a first run excuse it. -/
structure Pairing (σ τ : Type) where
  twin : σ → τ → Prop
  excused : σ → Prop
  /-- Whether the first run may also be lost, by running out of fuel. -/
  lost : Prop
  lenient : ∀ state counterpart, twin state counterpart → excused state → lost

/-- Changes of paired states that leave them paired, and leave an excuse standing. -/
def Pairing.Stays {σ τ : Type} (pairing : Pairing σ τ) (change : σ → σ) (other : τ → τ) : Prop :=
  ∀ state counterpart, pairing.twin state counterpart →
    pairing.twin (change state) (other counterpart) ∧
    (pairing.excused state → pairing.excused (change state))

theorem Pairing.Stays.trans {σ τ : Type} {pairing : Pairing σ τ}
    {first second : σ → σ} {other another : τ → τ}
    (stays : pairing.Stays first other) (continues : pairing.Stays second another) :
    pairing.Stays (fun state => second (first state)) fun counterpart =>
      another (other counterpart) :=
  fun _ _ twin =>
    have next := continues _ _ (stays _ _ twin).1
    ⟨next.1, fun shown => next.2 ((stays _ _ twin).2 shown)⟩

/-- No failure at all. -/
def Failure.none : Failure → Prop :=
  fun _ => False

namespace Result

variable {σ τ α β : Type} (pairing : Pairing σ τ)

def Matches : Result σ α → Result τ α → Prop
  | .done value state, .done answer counterpart => value = answer ∧ pairing.twin state counterpart
  | .raised failure state, .raised other counterpart =>
    failure = other ∧ pairing.twin state counterpart
  | .exhausted, .exhausted => True
  | _, _ => False

def Excused : Result σ α → Prop
  | .done _ state => pairing.excused state ∧ ∃ counterpart, pairing.twin state counterpart
  | .raised _ state => pairing.excused state ∧ ∃ counterpart, pairing.twin state counterpart
  | .exhausted => pairing.lost

def Pardoned (pardons : Failure → Prop) : Result σ α → Prop
  | .raised failure state => pardons failure ∧ ∃ counterpart, pairing.twin state counterpart
  | _ => False

def Pairs (pardons : Failure → Prop) (result : Result σ α) (other : Result τ α) : Prop :=
  result.Matches pairing other ∨ result.Excused pairing ∨ result.Pardoned pairing pardons

variable {pairing} {pardons : Failure → Prop} {result : Result σ α} {other : Result τ α}

theorem Pairs.of_matches (matched : result.Matches pairing other) :
    result.Pairs pairing pardons other :=
  .inl matched

theorem Pairs.of_excused (excused : result.Excused pairing) : result.Pairs pairing pardons other :=
  .inr (.inl excused)

theorem not_pardoned_none : ¬result.Pardoned pairing Failure.none := by
  cases result with
  | raised failure state => exact fun pardoned => pardoned.1
  | done value state => exact id
  | exhausted => exact id

theorem Pairs.mono {weaker : Failure → Prop} (pairs : result.Pairs pairing pardons other)
    (weakens : ∀ failure, pardons failure → weaker failure) :
    result.Pairs pairing weaker other := by
  refine pairs.imp_right (Or.imp_right fun pardoned => ?_)
  cases result with
  | raised failure state => exact ⟨weakens failure pardoned.1, pardoned.2⟩
  | done value state => exact pardoned
  | exhausted => exact pardoned

theorem Matches.map_state {ρ ω : Type} {wider : Pairing ρ ω} {change : σ → ρ} {another : τ → ω}
    (matched : result.Matches pairing other)
    (kept : ∀ state counterpart, pairing.twin state counterpart →
      wider.twin (change state) (another counterpart)) :
    (result.mapState change).Matches wider (other.mapState another) := by
  cases result <;> cases other
  case done.done => exact ⟨matched.1, kept _ _ matched.2⟩
  case raised.raised => exact ⟨matched.1, kept _ _ matched.2⟩
  case exhausted.exhausted => trivial
  all_goals exact matched.elim

theorem Excused.map_state {ρ ω : Type} {wider : Pairing ρ ω} {change : σ → ρ} {another : τ → ω}
    (excused : result.Excused pairing) (lost : pairing.lost → wider.lost)
    (kept : ∀ state counterpart, pairing.twin state counterpart →
      wider.twin (change state) (another counterpart) ∧
      (pairing.excused state → wider.excused (change state))) : (result.mapState change).Excused
      wider := by
  cases result with
  | done value state =>
      obtain ⟨shown, counterpart, twin⟩ := excused
      exact ⟨(kept _ _ twin).2 shown, _, (kept _ _ twin).1⟩
  | raised failure state =>
      obtain ⟨shown, counterpart, twin⟩ := excused
      exact ⟨(kept _ _ twin).2 shown, _, (kept _ _ twin).1⟩
  | exhausted => exact lost excused

theorem Pairs.map_state {ρ ω : Type} {wider : Pairing ρ ω} {change : σ → ρ} {another : τ → ω}
    (pairs : result.Pairs pairing pardons other) (lost : pairing.lost → wider.lost)
    (kept : ∀ state counterpart, pairing.twin state counterpart →
      wider.twin (change state) (another counterpart) ∧
      (pairing.excused state → wider.excused (change state))) :
    (result.mapState change).Pairs wider pardons (other.mapState another) := by
  rcases pairs with matched | excused | pardoned
  · exact .of_matches
      (matched.map_state fun state counterpart twin => (kept state counterpart twin).1)
  · exact .of_excused (excused.map_state lost kept)
  · right; right
    cases result with
    | raised failure state =>
        obtain ⟨pardon, counterpart, twin⟩ := pardoned
        exact ⟨pardon, _, (kept _ _ twin).1⟩
    | done value state => exact pardoned.elim
    | exhausted => exact pardoned.elim

theorem matches_of_pairs (pairs : result.Pairs pairing Failure.none other)
    (unexcused : ¬result.Excused pairing) :
    result.Matches pairing other :=
  pairs.elim id fun others => others.elim (fun excused => absurd excused unexcused) fun pardoned =>
    absurd pardoned not_pardoned_none

/-- Where nothing excuses a first run, it is in step all the way. -/
theorem matches_of_unexcused (pairs : result.Pairs pairing Failure.none other)
    (unexcused : ∀ state, ¬pairing.excused state) (found : ¬pairing.lost) :
    result.Matches pairing other := by
  apply matches_of_pairs pairs
  cases result with
  | done value state => exact fun shown => unexcused state shown.1
  | raised failure state => exact fun shown => unexcused state shown.1
  | exhausted => exact found

theorem twin_of_matches {state : σ} {counterpart : τ} (matched : result.Matches pairing other)
    (left : result.state? = some state) (reached : other.state? = some counterpart) :
    pairing.twin state counterpart := by
  cases result <;> cases other <;> cases left <;> cases reached
  case done.done => exact matched.2
  case raised.raised => exact matched.2
  all_goals exact matched.elim

/-- A result that matches one which leaves a state leaves a state, too. -/
theorem counterpart_of_matches {state : σ} (matched : result.Matches pairing other)
    (left : result.state? = some state) :
    ∃ counterpart, other.state? = some counterpart ∧ pairing.twin state counterpart := by
  cases result <;> cases other <;> cases left
  case done.done => exact ⟨_, rfl, matched.2⟩
  case raised.raised => exact ⟨_, rfl, matched.2⟩
  all_goals exact matched.elim

theorem map_state_id (result : Result σ α) : result.mapState id = result := by
  cases result <;> rfl

theorem map_state_map_state {ρ ω : Type} (first : σ → ρ) (second : ρ → ω) (result : Result σ α) :
    (result.mapState first).mapState second = result.mapState fun state =>
      second (first state) := by
  cases result <;> rfl

/-- Results in step look alike to whoever sees the same in paired states. -/
theorem map_state_of_matches {ρ : Type} {view : σ → ρ} {other : τ → ρ}
    {result : Result σ α} {answer : Result τ α} (matched : result.Matches pairing answer)
    (seen : ∀ state counterpart, pairing.twin state counterpart → other counterpart = view state) :
    answer.mapState other = result.mapState view := by
  cases result <;> cases answer
  case done.done value state answer counterpart =>
    obtain ⟨rfl, twin⟩ := matched
    exact congrArg (Result.done value) (seen state counterpart twin)
  case raised.raised failure state other counterpart =>
    obtain ⟨rfl, twin⟩ := matched
    exact congrArg (Result.raised failure) (seen state counterpart twin)
  case exhausted.exhausted => rfl
  all_goals exact matched.elim

end Result

namespace Run

theorem followed_by_pure {σ α : Type} (body : Run σ α) : followedBy (pure ()) body = body := by
  funext state
  unfold followedBy
  cases body state <;> rfl

/-- What follows a body however it ends, where its outcome is caught first. -/
theorem ensuring_attempt_bind {σ α β : Type} (final : σ → σ) (body : Run σ α)
    (next : Except Failure α → Run σ β) :
    ensuring final (attempt body >>= next) = attempt body >>= fun outcome =>
      ensuring final (next outcome) := by
  funext state
  change (Run.bind (attempt body) next state).mapState final =
    Run.bind (attempt body) (fun outcome => ensuring final (next outcome)) state
  unfold Run.bind attempt
  cases body state <;> rfl

theorem done_of_ensuring {σ α : Type} {final : σ → σ} {body : Run σ α} {state after : σ} {value : α}
    (ended : ensuring final body state = .done value after) : ∃ middle, body state =
    .done value middle := by
  unfold ensuring at ended
  cases ran : body state with
  | done found middle =>
      rw [ran] at ended
      cases ended
      exact ⟨middle, rfl⟩
  | raised failure middle =>
      rw [ran] at ended
      cases ended
  | exhausted =>
      rw [ran] at ended
      cases ended

variable {σ τ α β : Type} {pairing : Pairing σ τ} {pardons : Failure → Prop}

structure Pairs (pairing : Pairing σ τ) (pardons : Failure → Prop) (run : Run σ α)
    (other : Run τ α) : Prop where
  follows : ∀ state counterpart, pairing.twin state counterpart →
    (run state).Pairs pairing pardons (other counterpart)
  /-- From a state that shows an excuse, a run leads to such states only. -/
  keeps : ∀ state counterpart, pairing.twin state counterpart → pairing.excused state →
    (run state).Excused pairing

abbrev InStep (pairing : Pairing σ τ) (run : Run σ α) (other : Run τ α) : Prop :=
  Pairs pairing Failure.none run other

namespace Pairs

variable {run : Run σ α} {other : Run τ α}

theorem pardoned (pairs : InStep pairing run other) : Pairs pairing pardons run other where
  follows state counterpart twin := (pairs.follows state counterpart twin).mono nofun
  keeps := pairs.keeps

protected theorem pure (value : α) :
    Pairs pairing pardons (Pure.pure value : Run σ α) (Pure.pure value) where
  follows _ _ twin := .inl ⟨rfl, twin⟩
  keeps _ _ twin excused := ⟨excused, _, twin⟩

theorem raise (failure : Failure) : Pairs pairing pardons (Run.raise failure : Run σ α)
    (Run.raise failure) where
  follows _ _ twin := .inl ⟨rfl, twin⟩
  keeps _ _ twin excused := ⟨excused, _, twin⟩

theorem exhaust : Pairs pairing pardons (Run.exhaust : Run σ α) Run.exhaust where
  follows _ _ _ := .inl trivial
  keeps _ _ twin excused := pairing.lenient _ _ twin excused

theorem of_except (outcome : Except Failure α) :
    Pairs pairing pardons (Run.ofExcept outcome : Run σ α) (Run.ofExcept outcome) := by
  cases outcome with
  | ok value => exact .pure value
  | error failure => exact .raise failure

/-- A change of the state, with a value that is the same for paired states. -/
theorem step {value : σ → α} {answer : τ → α} {change : σ → σ} {another : τ → τ}
    (stays : pairing.Stays change another)
    (same : ∀ state counterpart, pairing.twin state counterpart →
      value state = answer counterpart) :
    Pairs pairing pardons (fun state => .done (value state) (change state))
      fun counterpart => .done (answer counterpart) (another counterpart) where
  follows _ _ twin := .inl ⟨same _ _ twin, (stays _ _ twin).1⟩
  keeps _ _ twin excused := ⟨(stays _ _ twin).2 excused, _, (stays _ _ twin).1⟩

theorem modify {change : σ → σ} {another : τ → τ} (stays : pairing.Stays change another) :
    Pairs pairing pardons (Run.modify change) (Run.modify another) :=
  step stays fun _ _ _ => rfl

theorem excused_bind_of_yields {property : α → Prop} {next : α → Run σ β}
    {following : α → Run τ β} {state : σ}
    (excused : (run state).Excused pairing) (yields : Yields (fun _ => True) property run)
    (continues : ∀ value, property value → Pairs pairing pardons (next value) (following value)) :
    ((run >>= next) state).Excused pairing := by
  change (Run.bind run next state).Excused pairing
  unfold Run.bind
  cases ended : run state with
  | done value after =>
      rw [ended] at excused
      obtain ⟨shown, counterpart, twin⟩ := excused
      exact (continues value (yields state value after trivial ended)).keeps
        after counterpart twin shown
  | raised failure after =>
      rw [ended] at excused
      exact excused
  | exhausted =>
      rw [ended] at excused
      exact excused

theorem excused_bind {next : α → Run σ β} {following : α → Run τ β} {state : σ}
    (excused : (run state).Excused pairing)
    (continues : ∀ value, Pairs pairing pardons (next value) (following value)) :
    ((run >>= next) state).Excused pairing :=
  excused_bind_of_yields excused (fun _ _ _ _ _ => trivial) fun value (_ : True) => continues value

theorem bind_at {property : α → Prop} {next : α → Run σ β} {following : α → Run τ β}
    {state : σ} {counterpart : τ}
    (first : (run state).Pairs pairing pardons (other counterpart))
    (yields : Yields (fun _ => True) property run)
    (continues : ∀ value, property value → Pairs pairing pardons (next value) (following value)) :
    ((run >>= next) state).Pairs pairing pardons ((other >>= following) counterpart) := by
  rcases first with matched | excused | pardoned
  · change (Run.bind run next state).Pairs pairing pardons (Run.bind other following counterpart)
    unfold Run.bind
    cases ended : run state <;> cases answered : other counterpart <;>
      rw [ended, answered] at matched
    case done.done value after answer later =>
      obtain ⟨rfl, twin⟩ := matched
      exact (continues value (yields state value after trivial ended)).follows after later twin
    case raised.raised => exact .inl matched
    case exhausted.exhausted => exact .inl matched
    all_goals exact matched.elim
  · exact .of_excused (excused_bind_of_yields excused yields continues)
  · cases ended : run state with
    | raised failure after =>
        rw [ended] at pardoned
        rw [bind_of_raised ended]
        exact .inr (.inr pardoned)
    | done value after =>
        rw [ended] at pardoned
        exact pardoned.elim
    | exhausted =>
        rw [ended] at pardoned
        exact pardoned.elim

/-- What follows a run may use what is known of its value. -/
theorem bind_of_yields {property : α → Prop} {next : α → Run σ β} {following : α → Run τ β}
    (first : Pairs pairing pardons run other) (yields : Yields (fun _ => True) property run)
    (continues : ∀ value, property value → Pairs pairing pardons (next value) (following value)) :
    Pairs pairing pardons (run >>= next) (other >>= following) where
  follows state counterpart twin := bind_at (first.follows state counterpart twin) yields continues
  keeps state counterpart twin excused :=
    excused_bind_of_yields (first.keeps state counterpart twin excused) yields continues

theorem bind {next : α → Run σ β} {following : α → Run τ β}
    (first : Pairs pairing pardons run other)
    (continues : ∀ value, Pairs pairing pardons (next value) (following value)) :
    Pairs pairing pardons (run >>= next) (other >>= following) :=
  first.bind_of_yields (fun _ _ _ _ _ => trivial) fun value (_ : True) => continues value

theorem of_except_bind {outcome : Except Failure α} {next : α → Run σ β} {following : α → Run τ β}
    (continues : ∀ value, outcome = .ok value →
      Pairs pairing pardons (next value) (following value)) :
    Pairs pairing pardons (Run.ofExcept outcome >>= next) (Run.ofExcept outcome >>= following) := by
  cases outcome with
  | ok value => exact continues value rfl
  | error failure => exact .raise failure

/-- What is seen of paired states may decide how the runs go on. -/
theorem get_bind {next : σ → Run σ β} {following : τ → Run τ β}
    (continues : ∀ state counterpart, pairing.twin state counterpart →
      Pairs pairing pardons (next state) (following counterpart)) :
    Pairs pairing pardons (Run.get >>= next) (Run.get >>= following) where
  follows state counterpart twin :=
    (continues state counterpart twin).follows state counterpart twin
  keeps state counterpart twin := (continues state counterpart twin).keeps state counterpart twin

/-- As `get_bind`, for runs that are given their state as it is. -/
theorem at_states {family : σ → Run σ β} {others : τ → Run τ β}
    (continues : ∀ state counterpart, pairing.twin state counterpart →
      Pairs pairing pardons (family state) (others counterpart)) :
    Pairs pairing pardons (fun state => family state state) fun counterpart =>
      others counterpart counterpart :=
  get_bind continues

/-- States may be paired in another way once a first part of the runs has come to its end. -/
theorem matches_bind {wider : Pairing σ τ} {next : α → Run σ β} {following : α → Run τ β}
    {state : σ} {counterpart : τ} (first : (run state).Matches pairing (other counterpart))
    (continues : ∀ value after later, run state = .done value after → pairing.twin after later →
      (next value after).Matches wider (following value later))
    (fails : ∀ failure after later, run state = .raised failure after → pairing.twin after later →
      wider.twin after later) : ((run >>= next) state).Matches wider
        ((other >>= following) counterpart) := by
  change (Run.bind run next state).Matches wider (Run.bind other following counterpart)
  unfold Run.bind
  cases ended : run state <;> cases answered : other counterpart <;> rw [ended, answered] at first
  case done.done value after answer later =>
    obtain ⟨rfl, twin⟩ := first
    exact continues value after later ended twin
  case raised.raised failure after another later =>
    obtain ⟨rfl, twin⟩ := first
    exact ⟨rfl, fails failure after later ended twin⟩
  case exhausted.exhausted => trivial
  all_goals exact first.elim

theorem attempt_matches {state : σ} {counterpart : τ}
    (matched : (run state).Matches pairing (other counterpart)) :
    (Run.attempt run state).Matches pairing (Run.attempt other counterpart) := by
  unfold Run.attempt
  cases ended : run state <;> cases answered : other counterpart <;> rw [ended, answered] at matched
  case done.done => exact ⟨congrArg Except.ok matched.1, matched.2⟩
  case raised.raised => exact ⟨congrArg Except.error matched.1, matched.2⟩
  case exhausted.exhausted => trivial
  all_goals exact matched.elim

theorem attempt_excused {state : σ} (excused : (run state).Excused pairing) :
    (Run.attempt run state).Excused pairing := by
  unfold Run.attempt
  cases ended : run state <;> rw [ended] at excused <;> exact excused

theorem attempt (pairs : InStep pairing run other) :
    InStep pairing (Run.attempt run) (Run.attempt other) where
  follows state counterpart twin := by
    rcases pairs.follows state counterpart twin with matched | excused | pardoned
    · exact .of_matches (attempt_matches matched)
    · exact .of_excused (attempt_excused excused)
    · exact absurd pardoned Result.not_pardoned_none
  keeps state counterpart twin shown := attempt_excused (pairs.keeps state counterpart twin shown)

/-- Where nothing excuses a first run, it is enough that its results match. -/
theorem of_matches (unexcused : ∀ state, ¬pairing.excused state)
    (matched : ∀ state counterpart, pairing.twin state counterpart →
      (run state).Matches pairing (other counterpart)) :
    Pairs pairing pardons run other where
  follows state counterpart twin := .of_matches (matched state counterpart twin)
  keeps state _ _ shown := absurd shown (unexcused state)

theorem of_excused (excused : ∀ state counterpart, pairing.twin state counterpart →
    (run state).Excused pairing) :
    Pairs pairing pardons run other where
  follows state counterpart twin := .of_excused (excused state counterpart twin)
  keeps state counterpart twin _ := excused state counterpart twin

/-- Failures are pardoned if whoever catches them shows an excuse. -/
theorem recover {settle : Except Failure α → Run σ β} {settling : Except Failure α → Run τ β}
    (pairs : Pairs pairing pardons run other)
    (continues : ∀ outcome, InStep pairing (settle outcome) (settling outcome))
    (redeemed : ∀ failure, pardons failure → ∀ state counterpart, pairing.twin state counterpart →
      (settle (.error failure) state).Excused pairing) :
    InStep pairing (Run.attempt run >>= settle) (Run.attempt other >>= settling) where
  follows state counterpart twin := by
    rcases pairs.follows state counterpart twin with matched | excused | pardoned
    · exact bind_at (.of_matches (attempt_matches matched)) (fun _ _ _ _ _ => trivial)
        fun outcome (_ : True) => continues outcome
    · exact .of_excused (excused_bind (attempt_excused excused) continues)
    · -- the other run may not fail at all; what is caught here has to show the excuse
      cases ended : run state with
      | raised failure after =>
          rw [ended] at pardoned
          obtain ⟨pardon, later, paired⟩ := pardoned
          have caught : Run.attempt run state = .done (.error failure) after := by
            unfold Run.attempt
            rw [ended]
          rw [bind_of_done caught]
          exact .of_excused (redeemed failure pardon after later paired)
      | done value after =>
          rw [ended] at pardoned
          exact pardoned.elim
      | exhausted =>
          rw [ended] at pardoned
          exact pardoned.elim
  keeps state counterpart twin shown :=
    excused_bind (attempt_excused (pairs.keeps state counterpart twin shown)) continues

theorem ensuring {final : σ → σ} {last : τ → τ} (stays : pairing.Stays final last)
    (pairs : Pairs pairing pardons run other) :
    Pairs pairing pardons (Run.ensuring final run) (Run.ensuring last other) where
  follows state counterpart twin := (pairs.follows state counterpart twin).map_state id stays
  keeps state counterpart twin shown :=
    (pairs.keeps state counterpart twin shown).map_state id stays

/-- A change before a run, and another one after it however it ends. -/
theorem between {enter leave : σ → σ} {entering leaving : τ → τ}
    (enters : pairing.Stays enter entering)
    (leaves : pairing.Stays leave leaving) (pairs : Pairs pairing pardons run other) :
    Pairs pairing pardons (fun state => Run.ensuring leave run (enter state))
      (fun counterpart => Run.ensuring leaving other (entering counterpart)) :=
  bind (modify enters) fun _ => ensuring leaves pairs

theorem followed_by {final : Run σ Unit} {last : Run τ Unit} (finals : InStep pairing final last)
    (pairs : InStep pairing run other) :
    InStep pairing (Run.followedBy final run) (Run.followedBy last other) := by
  have returns (value : α) : InStep pairing (Run.bind final fun _ => Run.pure value)
      (Run.bind last fun _ => Run.pure value) := finals.bind fun _ => .pure value
  have fails (failure : Failure) : InStep pairing
      (Run.bind final fun _ => (Run.raise failure : Run σ α))
      (Run.bind last fun _ => Run.raise failure) := finals.bind fun _ => .raise failure
  have excuses (state : σ) (excused : (run state).Excused pairing) :
      (Run.followedBy final run state).Excused pairing := by
    unfold Run.followedBy
    cases ended : run state with
    | done value after =>
        rw [ended] at excused
        obtain ⟨shown, later, paired⟩ := excused
        exact (returns value).keeps after later paired shown
    | raised failure after =>
        rw [ended] at excused
        obtain ⟨shown, later, paired⟩ := excused
        exact (fails failure).keeps after later paired shown
    | exhausted =>
        rw [ended] at excused
        exact excused
  refine ⟨fun state counterpart twin => ?_, fun state counterpart twin shown =>
    excuses state (pairs.keeps state counterpart twin shown)⟩
  rcases pairs.follows state counterpart twin with matched | excused | pardoned
  · unfold Run.followedBy
    cases ended : run state <;> cases answered : other counterpart <;>
      rw [ended, answered] at matched
    case done.done value after answer later =>
      obtain ⟨rfl, paired⟩ := matched
      exact (returns value).follows after later paired
    case raised.raised failure after another later =>
      obtain ⟨rfl, paired⟩ := matched
      exact (fails failure).follows after later paired
    case exhausted.exhausted => exact .inl trivial
    all_goals exact matched.elim
  · exact .of_excused (excuses state excused)
  · exact absurd pardoned Result.not_pardoned_none

theorem for_each {step : α → Run σ Unit} {another : α → Run τ Unit} {items : List α}
    (pairs : ∀ item ∈ items, Pairs pairing pardons (step item) (another item)) :
    Pairs pairing pardons (Run.forEach step items) (Run.forEach another items) := by
  induction items with
  | nil => exact .pure ()
  | cons item rest ih =>
      rw [List.forall_mem_cons] at pairs
      exact pairs.1.bind fun _ => ih pairs.2

theorem for_each_indexed {step : Nat → α → Run σ Unit}
    {another : Nat → α → Run τ Unit} (items : List α)
    (index : Nat)
    (pairs : ∀ index item, Pairs pairing pardons (step index item) (another index item)) :
    Pairs pairing pardons (Run.forEachIndexed step index items)
      (Run.forEachIndexed another index items) := by
  induction items generalizing index with
  | nil => exact .pure ()
  | cons item rest ih => exact (pairs index item).bind fun _ => ih (index + 1)

theorem collect {step : α → Run σ β} {another : α → Run τ β} {items : List α}
    (pairs : ∀ item ∈ items, Pairs pairing pardons (step item) (another item)) :
    Pairs pairing pardons (Run.collect step items) (Run.collect another items) := by
  induction items with
  | nil => exact .pure []
  | cons item rest ih =>
      rw [List.forall_mem_cons] at pairs
      exact pairs.1.bind fun first => (ih pairs.2).bind fun others => .pure (first :: others)

theorem choose {test : Prop} [Decidable test] {alternative : Run σ α} {otherwise : Run τ α}
    (chosen : test → Pairs pairing pardons run other)
    (refused : ¬test → Pairs pairing pardons alternative otherwise) :
    Pairs pairing pardons (if test then run else alternative)
      (if test then other else otherwise) := by
  by_cases holds : test
  · rw [if_pos holds, if_pos holds]
    exact chosen holds
  · rw [if_neg holds, if_neg holds]
    exact refused holds

end Pairs
end Run
end Interplay
