import Interplay.Evaluate.Machine
import Interplay.Proofs.Run.Tracking

/-!
Metrics over numbers.

Recording fails where a duration cannot be compared with the ones before or added to them.  Measured
durations are floating-point numbers, so recording them never fails as long as the extremes of all
metrics are numbers, and leaves metrics of the same kind.
-/

namespace Interplay

open Run

namespace Value

def IsNumber (value : Value) : Prop :=
  ∃ scalar number, value = .scalar scalar ∧ scalar.number? = some number

def IsDouble (value : Value) : Prop :=
  ∃ scalar number, value = .scalar scalar ∧ scalar.number? = some (.float number)

theorem IsDouble.number {value : Value} (double : value.IsDouble) : value.IsNumber := by
  obtain ⟨scalar, number, rfl, known⟩ := double
  exact ⟨scalar, .float number, rfl, known⟩

theorem is_number_int (number : Int) : (Value.int number).IsNumber :=
  ⟨.int number, .int number, rfl, rfl⟩

theorem is_double_of_float (occurrence : Nat) (number : Float) :
    (Value.ofFloat occurrence number).IsDouble := by
  unfold ofFloat
  split
  · exact ⟨_, _, rfl, rfl⟩
  · exact ⟨_, _, rfl, rfl⟩

theorem compare_of_numbers (comparison : Comparison) {left right : Value} (first : left.IsNumber)
    (second : right.IsNumber) : ∃ flag, left.compare comparison right = .ok flag := by
  obtain ⟨here, number, rfl, known⟩ := first
  obtain ⟨there, other, rfl, found⟩ := second
  refine ⟨comparison.ofNumbers number other, ?_⟩
  change here.compare comparison there = _
  unfold Scalar.compare
  split
  · cases known
  · rw [known, found]

theorem add_double {duration : Value} (double : duration.IsDouble) (total : Value) :
    ∃ sum, Measure.add total duration = .ok sum := by
  obtain ⟨scalar, number, rfl, known⟩ := double
  refine ⟨.ofFloat 0 (total.toFloat + number), ?_⟩
  change (addTo total.toFloat (.scalar scalar)).map _ = _
  simp only [addTo, known]
  rfl

end Value

theorem elapsed_is_double (started now : Value) : (Measure.elapsed started now : Value).IsDouble :=
  Value.is_double_of_float 0 _

namespace Metric

structure IsMeasured (metric : Metric Value) : Prop where
  least : metric.minDuration.IsNumber
  greatest : metric.maxDuration.IsNumber

theorem fresh_is_measured (name category : Scalar) :
    (fresh name category : Metric Value).IsMeasured :=
  ⟨⟨.float 0.0, .float 0.0, rfl, rfl⟩, ⟨.float 0.0, .float 0.0, rfl, rfl⟩⟩

theorem pick_number (comparison : Comparison) {old new : Value} (before : old.IsNumber)
    (after : new.IsNumber) :
    ∃ picked, pick comparison old new = .ok picked ∧ picked.IsNumber := by
  obtain ⟨flag, compared⟩ := Value.compare_of_numbers comparison after before
  have outcome : Measure.compare comparison new old = .ok flag := compared
  unfold pick
  rw [outcome]
  cases flag with
  | true => exact ⟨new, rfl, after⟩
  | false => exact ⟨old, rfl, before⟩

theorem record_extremes_measured {metric : Metric Value}
    (measured : metric.IsMeasured) {duration : Value} (number : duration.IsNumber) :
    ∃ after, recordExtremes duration metric = .done () after ∧ after.IsMeasured := by
  change ∃ after, (if metric.count = 0 then _ else _ : Run (Metric Value) Unit) metric = .done
    () after ∧ _
  by_cases first : metric.count = 0
  · rw [if_pos first]
    exact ⟨_, rfl, number, number⟩
  · obtain ⟨least, lower, below⟩ := pick_number .below measured.least number
    obtain ⟨greatest, upper, above⟩ := pick_number .above measured.greatest number
    rw [if_neg first, lower, upper]
    exact ⟨_, rfl, below, above⟩

theorem record_measured {metric : Metric Value} (measured : metric.IsMeasured) {duration : Value}
    (double : duration.IsDouble) (now : Value) (success : Option Bool) :
    ∃ after, record now duration success metric = .done () after ∧ after.IsMeasured := by
  obtain ⟨middle, recorded, kept⟩ := record_extremes_measured measured double.number
  obtain ⟨total, added⟩ := Value.add_double double middle.totalDuration
  unfold record
  rw [bind_of_done recorded]
  change ∃ after, (ofExcept (Measure.add middle.totalDuration duration) >>= fun total => _) _ =
    .done () after ∧ _
  rw [added]
  exact ⟨_, rfl, kept.least, kept.greatest⟩

end Metric

namespace Metrics

def IsMeasured (metrics : Metrics Value) : Prop :=
  ∀ metric ∈ metrics.entries, metric.IsMeasured

def Measures (step : Run (Metric Value) Unit) : Prop :=
  ∀ metric, metric.IsMeasured → ∃ after, step metric = .done () after ∧ after.IsMeasured

theorem record_cache_measures (hit : Bool) : Measures (Metric.recordCache hit) := by
  intro metric kept
  cases hit with
  | true => exact ⟨_, rfl, kept.least, kept.greatest⟩
  | false => exact ⟨_, rfl, kept.least, kept.greatest⟩

theorem change_measured (name category : Scalar) {step : Run (Metric Value) Unit}
    (measures : Measures step)
    {entries : List (Metric Value)} (measured : ∀ metric ∈ entries, metric.IsMeasured) :
    ∃ after, change name category step entries = .done () after ∧
    ∀ metric ∈ after, metric.IsMeasured := by
  induction entries with
  | nil =>
      obtain ⟨made, ended, kept⟩ := measures _ (Metric.fresh_is_measured name category)
      refine ⟨[made], ?_, List.forall_mem_singleton.mpr kept⟩
      rw [change, ended]
      rfl
  | cons metric rest ih =>
      rw [List.forall_mem_cons] at measured
      unfold change
      split
      · obtain ⟨made, ended, kept⟩ := measures metric measured.1
        rw [ended]
        exact ⟨made :: rest, rfl, List.forall_mem_cons.mpr ⟨kept, measured.2⟩⟩
      · obtain ⟨after, ended, kept⟩ := ih measured.2
        rw [ended]
        exact ⟨metric :: after, rfl, List.forall_mem_cons.mpr ⟨measured.1, kept⟩⟩

/-- Metrics with proper names are always found or made. -/
theorem enter_measured {name category : Value} {nameKey categoryKey : Scalar}
    (named : name.toKey = .ok nameKey)
    (known : category.toKey = .ok categoryKey) {step : Run (Metric Value) Unit}
    (measures : Measures step) {metrics : Metrics Value} (measured : metrics.IsMeasured) :
    ∃ after, enter name category step metrics = .done () after ∧ after.IsMeasured := by
  change ∃ after, (if metrics.enabled then _ else _ : Run (Metrics Value) Unit) metrics = .done
    () after ∧ _
  split
  · obtain ⟨entries, ended, kept⟩ := change_measured nameKey categoryKey measures measured
    rw [named, known]
    change ∃ after, zoom Metrics.entries
      (fun entries metrics => { metrics with entries := entries })
      (change nameKey categoryKey step) metrics = .done () after ∧ _
    unfold zoom
    rw [ended]
    exact ⟨_, rfl, kept⟩
  · exact ⟨metrics, rfl, measured⟩

theorem record_measured (name category : String) (now : Value) {duration : Value}
    (double : duration.IsDouble)
    (success : Option Bool) {metrics : Metrics Value} (measured : metrics.IsMeasured) :
    ∃ after, record (.text name) (.text category) now duration success metrics = .done () after ∧
      after.IsMeasured :=
  enter_measured rfl rfl (fun _ kept => Metric.record_measured kept double now success) measured

/-- Runs that keep metrics measured, also if they fail. -/
def Keeps {α : Type} (body : Run (Metrics Value) α) : Prop :=
  ∀ metrics, metrics.IsMeasured → ∀ after, (body metrics).state? = some after → after.IsMeasured

theorem enter_keeps (name category : Value) {step : Run (Metric Value) Unit}
    (measures : Measures step) :
    Keeps (enter name category step) := by
  intro metrics measured last left
  have refused : ∀ failure, enter name category step metrics = .raised failure metrics →
      last.IsMeasured := by
    intro failure ended
    rw [ended] at left
    cases left
    exact measured
  by_cases enabled : metrics.enabled = true
  · cases known : category.toKey with
    | error failure =>
        refine refused failure ?_
        change (if metrics.enabled then _ else _ : Run (Metrics Value) Unit) metrics = _
        rw [if_pos enabled, known]
        rfl
    | ok categoryKey =>
        cases named : name.toKey with
        | error failure =>
            refine refused failure ?_
            change (if metrics.enabled then _ else _ : Run (Metrics Value) Unit) metrics = _
            rw [if_pos enabled, known, named]
            rfl
        | ok nameKey =>
            obtain ⟨after, ended, kept⟩ := enter_measured named known measures measured
            rw [ended] at left
            cases left
            exact kept
  · change ((if metrics.enabled then _ else _ : Run (Metrics Value) Unit) metrics).state? =
      some last at left
    rw [if_neg enabled] at left
    cases left
    exact measured

theorem record_keeps (name category now : Value) {duration : Value} (double : duration.IsDouble)
    (success : Option Bool) : Keeps (record name category now duration success) :=
  enter_keeps name category fun _ kept => Metric.record_measured kept double now success

theorem record_cache_keeps (name : Value) (hit : Bool) : Keeps (recordCache name hit) :=
  enter_keeps name _ (record_cache_measures hit)

end Metrics

def HostState.IsMeasured (state : HostState) : Prop :=
  ∀ metrics ∈ state.metrics, metrics.IsMeasured

end Interplay
