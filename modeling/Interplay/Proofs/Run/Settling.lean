import Interplay.Proofs.Run.Tracking
import Interplay.Value

/-!
Runs that settle.

A family of runs, one for every effort put into them, settles if from some effort on all of them
come to the same end.  An effort is fuel for formulas, fuel for actions and a watch on the depths at
which actions may be dispatched, and on those that callbacks go back to.  Settling is composed step
by step as runs are, so a proof that a run settles follows its code.
-/

namespace Interplay

/-- A whole depth within a ceiling.  If callbacks go back to an action, they start one level below
that action, and so no deeper than here. -/
def WithinCeiling (ceiling : Int) (origin : Option Value) (depth : Value) : Prop :=
  ∃ level : Int, depth = .int level ∧ level ≤ ceiling ∧
    ∀ trigger, origin = some trigger → ∃ above : Int, trigger = .int above ∧ above + 1 ≤ level

structure Effort where
  formulaFuel : Nat
  fuel : Nat
  /-- The depths at which actions may be dispatched, each with the depth of the action that
  callbacks go back to. -/
  allowed : Option Value → Value → Prop

namespace Effort

/-- Both kinds of fuel reach a least amount, and all depths within a ceiling are allowed. -/
structure Reaches (ceiling : Int) (least : Nat) (effort : Effort) : Prop where
  formulas : least ≤ effort.formulaFuel
  actions : least ≤ effort.fuel
  depths : ∀ origin depth, WithinCeiling ceiling origin depth → effort.allowed origin depth

def less (effort : Effort) : Effort :=
  { effort with fuel := effort.fuel - 1 }

theorem Reaches.mono {ceiling : Int} {least less : Nat} {effort : Effort}
    (reaches : effort.Reaches ceiling least) (fewer : less ≤ least) : effort.Reaches ceiling less :=
  ⟨Nat.le_trans fewer reaches.formulas, Nat.le_trans fewer reaches.actions, reaches.depths⟩

theorem Reaches.less {ceiling : Int} {least : Nat} {effort : Effort}
    (reaches : effort.Reaches ceiling (least + 1)) :
    effort.less.Reaches ceiling least :=
  ⟨Nat.le_of_succ_le reaches.formulas, Nat.le_sub_one_of_lt reaches.actions, reaches.depths⟩

end Effort

namespace Result

variable {σ τ α : Type}

/-- A result that was reached: what holds of a value with its state, and what holds of the state of
a failure. -/
def Lands (returned : α → σ → Prop) (raised : σ → Prop) : Result σ α → Prop
  | .done value state => returned value state
  | .raised _ state => raised state
  | .exhausted => False

theorem lands_mono {returned weaker : α → σ → Prop} {raised later : σ → Prop} {result : Result σ α}
    (lands : result.Lands returned raised)
    (values : ∀ value state, returned value state → weaker value state)
    (failures : ∀ state, raised state → later state) : result.Lands weaker later := by
  cases result with
  | done value state => exact values value state lands
  | raised failure state => exact failures state lands
  | exhausted => exact lands

theorem lands_map_state {returned : α → σ → Prop} {raised : σ → Prop}
    {ending : α → τ → Prop} {failing : τ → Prop}
    {change : σ → τ} {result : Result σ α} (lands : result.Lands returned raised)
    (values : ∀ value state, returned value state → ending value (change state))
    (failures : ∀ state, raised state → failing (change state)) :
    (result.mapState change).Lands ending failing := by
  cases result with
  | done value state => exact values value state lands
  | raised failure state => exact failures state lands
  | exhausted => exact lands

theorem not_exhausted_of_lands {returned : α → σ → Prop} {raised : σ → Prop} {result : Result σ α}
    (lands : result.Lands returned raised) : result ≠ .exhausted := by
  rintro rfl
  exact lands

theorem lands_of_tracks {invariant : σ → Prop} {result other : Result σ α}
    (tracks : result.Tracks False invariant other) :
    result.Lands (fun _ => invariant) invariant := by
  cases result with
  | done value state => exact tracks.2
  | raised failure state => exact tracks.2
  | exhausted => exact tracks

end Result

theorem Run.lands_after {σ α : Type} {returned : α → σ → Prop}
    {raised middle : σ → Prop} {final : Run σ Unit}
    {ending : Run σ α} {state : σ} (last : (final state).Lands (fun _ => middle) raised)
    (ends : ∀ state, middle state → (ending state).Lands returned raised) :
    (Run.bind final (fun _ => ending) state).Lands returned raised := by
  unfold Run.bind
  cases ended : final state with
  | done value stop =>
      rw [ended] at last
      exact ends stop last
  | raised failure stop =>
      rw [ended] at last
      exact last
  | exhausted =>
      rw [ended] at last
      exact last

/-- From states of one kind, the runs of a family come to the same end once enough effort is put
into them. -/
def Settles {σ α : Type} (ceiling : Int) (before : σ → Prop)
    (returned : α → σ → Prop) (raised : σ → Prop) (family : Effort → Run σ α) : Prop :=
  ∀ state, before state → ∃ result least, Result.Lands returned raised result ∧
    ∀ effort : Effort, effort.Reaches ceiling least → family effort state = result

namespace Settles

open Run

variable {σ α β : Type} {ceiling : Int} {before raised : σ → Prop}
    {returned : α → σ → Prop} {ending : β → σ → Prop}

theorem mono {earlier later : σ → Prop} {weaker : α → σ → Prop} {family : Effort → Run σ α}
    (settles : Settles ceiling before returned raised family)
    (starts : ∀ state, earlier state → before state)
    (values : ∀ value state, returned value state → weaker value state)
    (failures : ∀ state, raised state → later state) :
    Settles ceiling earlier weaker later family := by
  intro state holds
  obtain ⟨result, least, lands, reached⟩ := settles state (starts state holds)
  exact ⟨result, least, Result.lands_mono lands values failures, reached⟩

theorem of_start {earlier : σ → Prop} {family : Effort → Run σ α}
    (settles : Settles ceiling before returned raised family)
    (starts : ∀ state, earlier state → before state) :
    Settles ceiling earlier returned raised family :=
  settles.mono starts (fun _ _ holds => holds) fun _ holds => holds

theorem constant {run : Run σ α}
    (lands : ∀ state, before state → (run state).Lands returned raised) :
    Settles ceiling before returned raised fun _ => run :=
  fun state holds => ⟨run state, 0, lands state holds, fun _ _ => rfl⟩

theorem pure {value : α} (kept : ∀ state, before state → returned value state) :
    Settles ceiling before returned raised fun _ => (Pure.pure value : Run σ α) :=
  constant kept

theorem raise {failure : Failure} (kept : ∀ state, before state → raised state) :
    Settles ceiling before returned raised fun _ => (Run.raise failure : Run σ α) :=
  constant kept

theorem of_except {outcome : Except Failure α} (kept : ∀ state, before state → raised state)
    (known : ∀ value state, outcome = .ok value → before state → returned value state) :
    Settles ceiling before returned raised fun _ => (Run.ofExcept outcome : Run σ α) := by
  refine constant fun state holds => ?_
  cases outcome with
  | ok value => exact known value state rfl holds
  | error failure => exact kept state holds

theorem modify {change : σ → σ} {after : σ → Prop}
    (kept : ∀ state, before state → after (change state)) :
    Settles ceiling before (fun _ => after) raised fun _ => (Run.modify change : Run σ Unit) :=
  constant kept

theorem bind {family : Effort → Run σ α} {next : Effort → α → Run σ β}
    (first : Settles ceiling before returned raised family)
    (following : ∀ value, Settles ceiling (returned value) ending raised
      fun effort => next effort value) :
    Settles ceiling before ending raised fun effort => family effort >>= next effort := by
  intro state holds
  obtain ⟨result, least, lands, reached⟩ := first state holds
  cases result with
  | done value reachedState =>
      obtain ⟨last, more, ends, ended⟩ := following value reachedState lands
      refine ⟨last, max least more, ends, fun effort reaches => ?_⟩
      have start := reached effort (reaches.mono (Nat.le_max_left _ _))
      exact (bind_of_done start).trans (ended effort (reaches.mono (Nat.le_max_right _ _)))
  | raised failure reachedState =>
      refine ⟨.raised failure reachedState, least, lands, fun effort reaches => ?_⟩
      change Run.bind (family effort) (next effort) state = _
      unfold Run.bind
      rw [reached effort reaches]
  | exhausted => exact lands.elim

theorem get_bind {next : Effort → σ → Run σ β}
    (following : ∀ found, before found → Settles ceiling (fun state => state = found) ending raised
      fun effort => next effort found) :
    Settles ceiling before ending raised fun effort => Run.get >>= next effort := by
  intro state holds
  obtain ⟨result, least, lands, reached⟩ := following state holds state rfl
  exact ⟨result, least, lands, reached⟩

theorem attempt {family : Effort → Run σ α} {after : σ → Prop}
    (settles : Settles ceiling before returned raised family) :
    Settles ceiling before
      (fun outcome state => (∀ value, outcome = .ok value → returned value state) ∧
        ∀ failure, outcome = .error failure → raised state)
      after fun effort => Run.attempt (family effort) := by
  intro state holds
  obtain ⟨result, least, lands, reached⟩ := settles state holds
  cases result with
  | done value reachedState =>
      refine ⟨.done (.ok value) reachedState, least, ⟨fun _ same => ?_, fun _ same => ?_⟩,
        fun effort reaches => ?_⟩
      · cases same
        exact lands
      · cases same
      · simp only [Run.attempt, reached effort reaches]
  | raised failure reachedState =>
      refine ⟨.done (.error failure) reachedState, least, ⟨fun _ same => ?_, fun _ _ => lands⟩,
        fun effort reaches => ?_⟩
      · cases same
      · simp only [Run.attempt, reached effort reaches]
  | exhausted => exact lands.elim

/-- A change before a run, and another one after it however it ends. -/
theorem ensuring {family : Effort → Run σ α} {enter leave : σ → σ}
    {inside failed : σ → Prop} {inner : α → σ → Prop}
    (settles : Settles ceiling inside inner failed family)
    (entering : ∀ state, before state → inside (enter state))
    (leaving : ∀ value state, inner value state → returned value (leave state))
    (failing : ∀ state, failed state → raised (leave state)) :
    Settles ceiling before returned raised fun effort state => Run.ensuring leave
      (family effort) (enter state) := by
  intro state holds
  obtain ⟨result, least, lands, reached⟩ := settles (enter state) (entering state holds)
  refine ⟨result.mapState leave, least, Result.lands_map_state lands leaving failing,
    fun effort reaches => ?_⟩
  simp only [Run.ensuring, reached effort reaches]

/-- A run that follows another one however that ends, and keeps an invariant. -/
theorem followed_by {family : Effort → Run σ Unit} {final : Run σ Unit} {invariant : σ → Prop}
    (settles : Settles ceiling before (fun _ => invariant) invariant family)
    (last : ∀ state, invariant state → (final state).Lands (fun _ => invariant) invariant) :
    Settles ceiling before (fun _ => invariant) invariant fun effort =>
      Run.followedBy final (family effort) := by
  intro state holds
  obtain ⟨result, least, lands, reached⟩ := settles state holds
  cases result with
  | done value reachedState =>
      refine ⟨Run.bind final (fun _ => Run.pure value) reachedState, least, ?_,
        fun effort reaches => ?_⟩
      · exact lands_after (last reachedState lands) fun _ kept => kept
      · simp only [Run.followedBy, reached effort reaches]
  | raised failure reachedState =>
      refine ⟨Run.bind final (fun _ => Run.raise failure) reachedState, least, ?_,
        fun effort reaches => ?_⟩
      · exact lands_after (last reachedState lands) fun _ kept => kept
      · simp only [Run.followedBy, reached effort reaches]
  | exhausted => exact lands.elim

theorem for_each {step : Effort → α → Run σ Unit} {items : List α}
    (settles : ∀ item ∈ items, Settles ceiling before (fun _ => before) raised
      fun effort => step effort item) :
    Settles ceiling before (fun _ => before) raised fun effort => Run.forEach
      (step effort) items := by
  induction items with
  | nil => exact constant fun _ holds => holds
  | cons item rest ih =>
      refine bind (settles item List.mem_cons_self) fun _ => ?_
      exact ih fun next member => settles next (List.mem_cons_of_mem _ member)

theorem for_each_indexed {step : Effort → Nat → α → Run σ Unit} (items : List α) (start : Nat)
    (settles : ∀ index item, Settles ceiling before (fun _ => before) raised fun effort =>
      step effort index item) :
    Settles ceiling before (fun _ => before) raised fun effort => Run.forEachIndexed
      (step effort) start items := by
  induction items generalizing start with
  | nil => exact constant fun _ holds => holds
  | cons item rest ih => exact bind (settles start item) fun _ => ih (start + 1)

/-- Families that agree once the watch allows all depths up to the ceiling. -/
theorem of_eq {family other : Effort → Run σ α}
    (settles : Settles ceiling before returned raised other)
    (same : ∀ effort : Effort, effort.Reaches ceiling 0 → family effort = other effort) :
    Settles ceiling before returned raised family := by
  intro state holds
  obtain ⟨result, least, lands, reached⟩ := settles state holds
  refine ⟨result, least, lands, fun effort reaches => ?_⟩
  rw [same effort (reaches.mono (Nat.zero_le _))]
  exact reached effort reaches

theorem of_less {family body : Effort → Run σ α}
    (settles : Settles ceiling before returned raised body)
    (spends : ∀ effort : Effort, 0 < effort.fuel → family effort = body effort.less) :
    Settles ceiling before returned raised family := by
  intro state holds
  obtain ⟨result, least, lands, reached⟩ := settles state holds
  refine ⟨result, least + 1, lands, fun effort reaches => ?_⟩
  rw [spends effort (Nat.lt_of_lt_of_le (Nat.succ_pos _) reaches.actions)]
  exact reached effort.less reaches.less

end Settles
end Interplay
