import Interplay.Evaluate.Evaluator
import Interplay.Proofs.Metrics.Measured

/-!
What the evaluator leaves alone while it keeps its books.

Recording a fault, logging, counting in metrics, storing in a memo and extending a trail change the
journal and the hosts only.  The ground under them, which is the limits, the cycle stacks, the
closures, the number of hosts and the capacities of their sinks, stays as it is.  An invariant of
that ground survives all of it.  Trails apart, a node keeps the books of its own host only, so that
an invariant may also speak of the books of others.
-/

namespace Interplay

namespace Machine

theorem host_modify_host_self {number : Nat} {machine : Machine}
    (present : number < machine.hosts.size) (change : HostState → HostState) :
    (machine.modifyHost number change).host number = change (machine.host number) := by
  simp only [host, modifyHost, Array.getElem?_modify, if_true, Array.getElem?_eq_getElem present,
    Option.map_some, Option.getD_some]

theorem host_modify_host_of_ne {number other : Nat} (different : other ≠ number) (machine : Machine)
    (change : HostState → HostState) : (machine.modifyHost number change).host other =
    machine.host other := by
  simp [host, modifyHost, Array.getElem?_modify, different.symm]

theorem host_modify_host_absent {number : Nat} {machine : Machine}
    (absent : machine.hosts.size ≤ number)
    (change : HostState → HostState) : machine.modifyHost number change = machine := by
  have unchanged : machine.hosts.modify number change = machine.hosts := by
    apply Array.ext_getElem?
    intro index
    rw [Array.getElem?_modify]
    split
    · rename_i equal
      subst equal
      simp [Array.getElem?_eq_none absent]
    · rfl
  unfold modifyHost
  rw [unchanged]

theorem host_of_metrics {number : Nat} {machine : Machine} {metrics : Metrics Value}
    (taken : (machine.host number).metrics = some metrics) : number < machine.hosts.size := by
  apply Decidable.byContradiction
  intro absent
  have blank : machine.host number = HostState.blank := by
    simp [host, Array.getElem?_eq_none (Nat.le_of_not_lt absent)]
  rw [blank] at taken
  cases taken

theorem host_modify_host_cases (number other : Nat) (machine : Machine)
    (change : HostState → HostState) :
    (machine.modifyHost number change).host other = machine.host other ∨
      other = number ∧ (machine.modifyHost number change).host other =
      change (machine.host other) := by
  by_cases equal : other = number
  · subst equal
    by_cases present : other < machine.hosts.size
    · exact .inr ⟨rfl, host_modify_host_self present change⟩
    · rw [host_modify_host_absent (Nat.le_of_not_lt present)]
      exact .inl rfl
  · exact .inl (host_modify_host_of_ne equal machine change)

/-- Machines that agree in everything evaluation is decided by, data and memos apart. -/
structure SameGround (before after : Machine) : Prop where
  limits : after.limits = before.limits
  cycles : after.cycleStacks = before.cycleStacks
  closures : after.closures = before.closures
  hosts : after.hosts.size = before.hosts.size
  capacity : ∀ number, (after.host number).sink.capacity = (before.host number).sink.capacity

theorem same_ground_modify_host (number : Nat) {change : HostState → HostState} (machine : Machine)
    (kept : ∀ state, (change state).sink.capacity = state.sink.capacity) :
    SameGround machine (machine.modifyHost number change) := by
  refine ⟨rfl, rfl, rfl, by simp [modifyHost], fun other => ?_⟩
  rcases host_modify_host_cases number other machine change with same | ⟨_, changed⟩
  · rw [same]
  · rw [changed, kept]

theorem same_ground_modify_journal (change : Journal → Journal) (machine : Machine) :
    SameGround machine (machine.modifyJournal change) :=
  ⟨rfl, rfl, rfl, rfl, fun _ => rfl⟩

theorem same_ground_push_step (number : Nat) (kind name : String) (machine : Machine) :
    SameGround machine (machine.pushStep number kind name) :=
  same_ground_modify_host number machine fun _ => rfl

theorem same_ground_pop_step (number : Nat) (machine : Machine) :
    SameGround machine (machine.popStep number) :=
  same_ground_modify_host number machine fun _ => rfl

def Grounded (invariant : Machine → Prop) : Prop :=
  ∀ before after, SameGround before after → invariant before → invariant after

/-- Machines between which the books of one host were kept: its sink may have more in it and its
memo may differ, beside the journal and the metrics of anyone.  Metrics over numbers stay so. -/
structure Booked (number : Nat) (before after : Machine) :
    Prop extends SameGround before after where
  durations : ∀ other, (before.host other).IsMeasured → (after.host other).IsMeasured
  trails : ∀ other, (after.host other).trail = (before.host other).trail
  totals : ∀ other, (before.host other).sink.total ≤ (after.host other).sink.total
  sinks : ∀ other, other ≠ number → (after.host other).sink = (before.host other).sink
  memos : ∀ other, other ≠ number → (after.host other).memo = (before.host other).memo

theorem booked_modify_journal (number : Nat) (change : Journal → Journal) (machine : Machine) :
    Booked number machine (machine.modifyJournal change) :=
  ⟨same_ground_modify_journal change machine, fun _ => id, fun _ => rfl,
    fun _ => Nat.le_refl _, fun _ _ => rfl,
    fun _ _ => rfl⟩

theorem booked_modify_host {number : Nat} {change : HostState → HostState} (machine : Machine)
    (capacity : (change (machine.host number)).sink.capacity = (machine.host number).sink.capacity)
    (trail : (change (machine.host number)).trail = (machine.host number).trail)
    (metrics : (change (machine.host number)).metrics = (machine.host number).metrics)
    (total : (machine.host number).sink.total ≤ (change (machine.host number)).sink.total) :
    Booked number machine (machine.modifyHost number change) := by
  have others : ∀ other, other ≠ number →
      (machine.modifyHost number change).host other = machine.host other :=
    fun other different => host_modify_host_of_ne different machine change
  refine ⟨⟨rfl, rfl, rfl, by simp [modifyHost], fun other => ?_⟩,
    fun other measured => ?_, fun other => ?_,
    fun other => ?_, fun other different => ?_, fun other different => ?_⟩
  · rcases host_modify_host_cases number other machine change with same | ⟨rfl, changed⟩
    · rw [same]
    · rw [changed, capacity]
  · rcases host_modify_host_cases number other machine change with same | ⟨rfl, changed⟩
    · rw [same]
      exact measured
    · rw [HostState.IsMeasured, changed, metrics]
      exact measured
  · rcases host_modify_host_cases number other machine change with same | ⟨rfl, changed⟩
    · rw [same]
    · rw [changed, trail]
  · rcases host_modify_host_cases number other machine change with same | ⟨rfl, changed⟩
    · exact Nat.le_of_eq (by rw [same])
    · rw [changed]
      exact total
  · rw [others other different]
  · rw [others other different]

theorem booked_modify_metrics (number measured : Nat)
    {metrics : Option (Metrics Value)} {machine : Machine}
    (durations : (machine.host measured).IsMeasured → ∀ found ∈ metrics, found.IsMeasured) :
    Booked number machine
      (machine.modifyHost measured fun state => { state with metrics := metrics }) := by
  have kept : ∀ other, ∃ found,
      (machine.modifyHost measured fun state => { state with metrics := metrics }).host other =
        { machine.host other with metrics := found } := by
    intro other
    rcases host_modify_host_cases measured other machine fun state =>
      { state with metrics := metrics } with same | ⟨_, changed⟩
    · exact ⟨_, same⟩
    · exact ⟨_, changed⟩
  have still : ∀ other, (machine.host other).IsMeasured →
      ((machine.modifyHost measured fun state => { state with metrics := metrics }).host
        other).IsMeasured := by
    intro other before
    rcases host_modify_host_cases measured other machine fun state =>
      { state with metrics := metrics } with same | ⟨rfl, changed⟩
    · rw [same]
      exact before
    · rw [changed]
      exact durations before
  refine ⟨⟨rfl, rfl, rfl, by simp [modifyHost], fun other => ?_⟩, still, fun other => ?_,
    fun other => Nat.le_of_eq ?_, fun other _ => ?_, fun other _ => ?_⟩
  all_goals
    obtain ⟨found, same⟩ := kept other
    rw [same]

/-- An invariant that survives while the books of a host are kept. -/
def Tolerant (number : Nat) (invariant : Machine → Prop) : Prop :=
  ∀ before after, Booked number before after → invariant before → invariant after

def Trailing (invariant : Machine → Prop) : Prop :=
  ∀ number (change : Trail → Trail) machine, invariant machine →
    invariant (machine.modifyHost number fun state => { state with trail := change state.trail })

theorem Grounded.trailing {invariant : Machine → Prop} (grounded : Grounded invariant) :
    Trailing invariant :=
  fun number _ machine holds => grounded machine _
    (same_ground_modify_host number machine fun _ => rfl) holds

theorem Grounded.tolerant {invariant : Machine → Prop}
    (grounded : Grounded invariant) (number : Nat) :
    Tolerant number invariant :=
  fun before after booked holds => grounded before after booked.toSameGround holds

end Machine

theorem Sink.capacity_add {α : Type} {item : α} {sink after : Sink α}
    (added : sink.add item = .ok after) :
    after.capacity = sink.capacity := by
  unfold Sink.add at added
  split at added
  · cases added
  · cases added; rfl
  · cases added; rfl

namespace Metrics

open Run

variable {δ : Type} [Measure δ]

theorem change_never_exhausted (name category : Scalar) {step : Run (Metric δ) Unit}
    (ends : ∀ metric, step metric ≠ .exhausted) (entries : List (Metric δ)) :
    change name category step entries ≠ .exhausted := by
  induction entries with
  | nil =>
      unfold change
      cases ended : step (Metric.fresh name category) with
      | done value after => simp [Result.mapState]
      | raised failure after => simp [Result.mapState]
      | exhausted => exact absurd ended (ends _)
  | cons metric rest ih =>
      unfold change
      split
      · cases ended : step metric with
        | done value after => simp [Result.mapState]
        | raised failure after => simp [Result.mapState]
        | exhausted => exact absurd ended (ends _)
      · cases ended : change name category step rest with
        | done value after => simp [Result.mapState]
        | raised failure after => simp [Result.mapState]
        | exhausted => exact absurd ended ih

theorem enter_ends (name category : Value) {step : Run (Metric δ) Unit} (ends : Ends step) :
    Ends (enter name category step) := by
  refine tracks_bind tracks_get fun metrics => ?_
  split
  · refine tracks_bind (tracks_of_except _) fun categoryKey => tracks_bind
      (tracks_of_except _) fun nameKey => ?_
    apply ends_of_never_exhausted
    intro state
    have inner := change_never_exhausted nameKey categoryKey
      (fun metric => Result.ends_of_tracks (ends metric trivial)) state.entries
    unfold zoom
    cases ended : change nameKey categoryKey step state.entries with
    | done value after => simp [Result.mapState]
    | raised failure after => simp [Result.mapState]
    | exhausted => exact absurd ended inner
  · exact tracks_pure ()

theorem record_cache_ends (name : Value) (hit : Bool) :
    Ends (recordCache name hit : Run (Metrics δ) Unit) :=
  enter_ends _ _ (tracks_modify fun _ _ => trivial)

theorem record_ends (name category : Value) (now duration : δ) (success : Option Bool) :
    Ends (record name category now duration success) := by
  refine enter_ends _ _ (tracks_bind ?_ fun _ => ?_)
  · refine tracks_bind tracks_get fun metric => ?_
    split
    · exact tracks_modify fun _ _ => trivial
    · refine tracks_bind (tracks_of_except _) fun least => tracks_bind
        (tracks_modify fun _ _ => trivial) fun _ => ?_
      exact tracks_bind (tracks_of_except _) fun greatest => tracks_modify fun _ _ => trivial
  · refine tracks_bind (tracks_modify fun _ _ => trivial) fun _ =>
      tracks_bind tracks_get fun metric => ?_
    exact tracks_bind (tracks_of_except _) fun total => tracks_modify fun _ _ => trivial

end Metrics

namespace Machine

open Run

variable {lost : Prop} {invariant : Machine → Prop} {α : Type}

theorem tracks_booked_modify {number : Nat} (tolerant : Tolerant number invariant)
    {change : Machine → Machine} (booked : ∀ machine, Booked number machine (change machine)) :
    Tracks lost invariant (modify change) (modify change) :=
  tracks_modify fun machine holds => tolerant machine _ (booked machine) holds

theorem tracks_log {number : Nat} (tolerant : Tolerant number invariant)
    (level : LogLevel) (source : LogSource) (message : String) :
    Tracks lost invariant (modify (log level source message)) (modify (log level source message)) :=
  tracks_booked_modify tolerant fun machine => booked_modify_journal number _ machine

theorem tracks_advance {number : Nat} (tolerant : Tolerant number invariant) (seconds : Value) :
    Tracks lost invariant (advance seconds) (advance seconds) := by
  apply tracks_update
  intro machine after holds changed
  cases moved : machine.journal.advance seconds with
  | error failure =>
      rw [moved] at changed
      cases changed
  | ok journal =>
      rw [moved] at changed
      cases changed
      exact tolerant machine _ (booked_modify_journal number (fun _ => journal) machine) holds

theorem tracks_add_fault {number : Nat} (tolerant : Tolerant number invariant) (fault : Fault) :
    Tracks lost invariant (addFault number fault) (addFault number fault) := by
  apply tracks_update
  intro machine after holds changed
  cases added : (machine.host number).sink.add fault with
  | error failure =>
      rw [added] at changed
      cases changed
  | ok sink =>
      rw [added] at changed
      cases changed
      exact tolerant machine _ (booked_modify_host machine (Sink.capacity_add added) rfl rfl
        (by rw [Sink.total_add added]; exact Nat.le_succ _)) holds

theorem tracks_on_metrics {number : Nat} (tolerant : Tolerant number invariant)
    (measured : Nat) (standard : α)
    {body : Run (Metrics Value) α} (ends : Ends body) (keeps : Metrics.Keeps body) :
    Tracks lost invariant (onMetrics measured standard body)
      (onMetrics measured standard body) := by
  intro machine holds
  unfold onMetrics
  split
  · exact ⟨rfl, holds⟩
  · rename_i metrics found
    have inner := Result.ends_of_tracks (ends metrics trivial)
    have durations : ∀ after, (body metrics).state? = some after →
        (machine.host measured).IsMeasured → ∀ kept ∈ some after, kept.IsMeasured := by
      intro after left before kept member
      cases member
      exact keeps metrics (before metrics found) after left
    cases ended : body metrics with
    | done value after =>
        exact ⟨rfl, tolerant machine _ (booked_modify_metrics number measured
          (durations after (congrArg Result.state? ended))) holds⟩
    | raised failure after =>
        exact ⟨rfl, tolerant machine _ (booked_modify_metrics number measured
          (durations after (congrArg Result.state? ended))) holds⟩
    | exhausted => exact absurd ended inner

theorem tracks_record {number : Nat} (tolerant : Tolerant number invariant) (measured : Nat)
    (name category now started finished : Value) (success : Option Bool) :
    Tracks lost invariant
      (onMetrics measured ()
        (Metrics.record name category now (Measure.elapsed started finished) success))
      (onMetrics measured ()
        (Metrics.record name category now (Measure.elapsed started finished) success)) :=
  tracks_on_metrics tolerant measured () (Metrics.record_ends _ _ _ _ _)
    (Metrics.record_keeps _ _ _ (elapsed_is_double _ _) _)

theorem tracks_finish_timing {number : Nat} (tolerant : Tolerant number invariant) (measured : Nat)
    (name category budget started : Value) :
    Tracks lost invariant (finishTiming measured name category budget started)
      (finishTiming measured name category budget started) := by
  refine tracks_bind tracks_get fun machine => ?_
  refine tracks_bind (tracks_record tolerant measured _ _ _ _ _ _) fun _ => ?_
  refine tracks_bind (tracks_of_except _) fun exceeded => ?_
  split
  · exact tracks_log tolerant _ _ _
  · exact tracks_pure ()

theorem tracks_timed {number : Nat} (tolerant : Tolerant number invariant) (measured : Nat)
    (name category budget : Value) {body other : Run Machine α}
    (tracks : Tracks lost invariant body other) :
    Tracks lost invariant (timed measured name category budget body)
      (timed measured name category budget other) :=
  fun machine holds => tracks_followed_by tracks
    (tracks_finish_timing tolerant _ _ _ _ _) machine holds

/-- A step on the trail takes a body from one invariant to another one and back. -/
theorem tracks_on_trail {inner : Machine → Prop} {number : Nat} {kind name : String}
    {body other : Run Machine α} (tracks : Tracks lost inner body other)
    (pushing : ∀ machine, invariant machine → inner (machine.pushStep number kind name))
    (popping : ∀ machine, inner machine → invariant (machine.popStep number)) :
    Tracks lost invariant (onTrail number kind name body) (onTrail number kind name other) :=
  fun machine holds => Result.tracks_map_state (tracks _ (pushing machine holds)) popping

/-- Holding a key takes a body from one invariant to another one and back. -/
theorem tracks_under_key {inner : Machine → Prop} {number : Nat} {key : String}
    {body other : Run Machine α} (tracks : Tracks lost inner body other)
    (entering : ∀ machine entered, invariant machine →
      (machine.stack number).enter machine.limits key = .ok entered →
      inner (machine.modifyStack number fun _ => entered))
    (leaving : ∀ machine, inner machine →
      invariant (machine.modifyStack number (Cycle.Stack.leave key))) :
    Tracks lost invariant (underKey number key body) (underKey number key other) := by
  intro machine holds
  unfold underKey
  cases entry : (machine.stack number).enter machine.limits key with
  | error failure => exact ⟨rfl, holds⟩
  | ok entered =>
      exact Result.tracks_map_state (tracks _ (entering machine entered holds entry)) leaving

end Machine
end Interplay
