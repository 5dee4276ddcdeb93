import Interplay.Proofs.Metrics.Measured
import Interplay.Proofs.Metrics.Timing

/-!
Outcomes of actions in a collector.

The entry of a kind of actions counts how they ended.  In a collector over numbers the recording of
an action changes the entry of its kind by one success or one failure; no other call of the
collector changes that entry.
-/

namespace Interplay
namespace Metrics

/-- The entry of a kind of actions, a fresh one if there is none. -/
def actions (kind : String) (metrics : Metrics Value) : Metric Value :=
  entryOf "action" kind metrics.entries

/-- How many actions of a kind ended in a way. -/
def outcomes (kind : String) (succeeded : Bool) (metrics : Metrics Value) : Nat :=
  match succeeded with
  | true => (metrics.actions kind).successCount
  | false => (metrics.actions kind).failureCount

/-- An enabled collector that further recordings can be kept in.  Whatever it recorded of a kind of
actions since an earlier time was a success or a failure. -/
structure Continues (kind : String) (metrics earlier : Metrics Value) : Prop where
  enabled : metrics.enabled = true
  measured : metrics.IsMeasured
  grown : ∀ succeeded, earlier.outcomes kind succeeded ≤ metrics.outcomes kind succeeded
  settled : (metrics.actions kind).count + earlier.outcomes kind true +
    earlier.outcomes kind false =
    (earlier.actions kind).count + metrics.outcomes kind true + metrics.outcomes kind false

/-- Calls that succeed, and leave the entry of a kind of actions as it is. -/
def Spares (kind : String) (body : Run (Metrics Value) Unit) : Prop :=
  ∀ earlier metrics, metrics.Continues kind earlier →
    ∃ after, body metrics = .done () after ∧ after.Continues kind earlier ∧
    after.actions kind = metrics.actions kind

/-- A step that measures is done on the entry of its name, and leaves that entry in its place. -/
theorem entered_of_measures (category name : String) {step : Run (Metric Value) Unit}
    (measures : Measures step)
    {metrics : Metrics Value} (enabled : metrics.enabled = true) (measured : metrics.IsMeasured) :
    ∃ entry after, step (entryOf category name metrics.entries) = .done () entry ∧
      enter (.text name) (.text category) step metrics = .done () after ∧ after.enabled =
      true ∧ after.IsMeasured ∧
      after.entries = place category name entry metrics.entries := by
  obtain ⟨after, entered, kept⟩ : ∃ after, enter (.text name)
      (.text category) step metrics = .done () after ∧
      after.IsMeasured := enter_measured rfl rfl measures measured
  have shown := enter_eq category name step enabled
  cases stepped : step (entryOf category name metrics.entries) with
  | done value entry =>
      rw [stepped, entered] at shown
      cases shown
      exact ⟨entry, _, rfl, entered, enabled, kept, rfl⟩
  | raised failure entry =>
      rw [stepped, entered] at shown
      cases shown
  | exhausted =>
      rw [stepped, entered] at shown
      cases shown

section Recording

variable {kind : String} {earlier metrics after : Metrics Value}

theorem Continues.start (kind : String) (enabled : metrics.enabled = true)
    (measured : metrics.IsMeasured) :
    metrics.Continues kind metrics :=
  ⟨enabled, measured, fun _ => Nat.le_refl _, rfl⟩

theorem outcomes_of_same (same : after.actions kind = metrics.actions kind) (succeeded : Bool) :
    after.outcomes kind succeeded = metrics.outcomes kind succeeded := by
  unfold outcomes
  rw [same]

theorem Continues.of_same (continues : metrics.Continues kind earlier)
    (enabled : after.enabled = true)
    (measured : after.IsMeasured) (same : after.actions kind = metrics.actions kind) :
    after.Continues kind earlier := by
  refine ⟨enabled, measured, fun succeeded => ?_, ?_⟩
  · rw [outcomes_of_same same]
    exact continues.grown succeeded
  · rw [outcomes_of_same same, outcomes_of_same same, same]
    exact continues.settled

theorem enter_spares {category name : String} (different : ¬("action" = category ∧ kind = name))
    {step : Run (Metric Value) Unit} (measures : Measures step)
    (named : ∀ metric entry, isNamed category name metric = true → step metric = .done () entry →
      isNamed category name entry = true) : Spares kind
        (enter (.text name) (.text category) step) := by
  intro earlier metrics continues
  obtain ⟨entry, after, stepped, entered, enabled, measured, placed⟩ :=
    entered_of_measures category name measures continues.enabled continues.measured
  have same : after.actions kind = metrics.actions kind := by
    unfold actions
    rw [placed]
    exact entry_place_of_ne
      (named _ _ (entry_is_named category name metrics.entries) stepped) different _
  exact ⟨after, entered, continues.of_same enabled measured same, same⟩

theorem record_spares {category name : String} (different : ¬("action" = category ∧ kind = name))
    (now started finished : Value) (success : Option Bool) :
    Spares kind (record (.text name) (.text category) now
      (Measure.elapsed started finished) success) :=
  enter_spares different
    (fun _ kept => Metric.record_measured kept (elapsed_is_double started finished) now success)
    fun _ _ => record_named

theorem record_cache_spares (kind name : String) (hit : Bool) :
    Spares kind (recordCache (.text name) hit) := by
  refine enter_spares (fun same => absurd same.1 (by decide)) (record_cache_measures hit)
    fun metric entry named stepped => ?_
  cases hit with
  | true => cases stepped; exact named
  | false => cases stepped; exact named

/-- The recording of an action is one more success or one more failure. -/
theorem Continues.record (continues : metrics.Continues kind earlier) (now started finished : Value)
    (succeeded : Bool) :
    ∃ after, Metrics.record (.text kind) (.text "action") now
      (Measure.elapsed started finished) (some succeeded)
        metrics = .done () after ∧ after.Continues kind earlier ∧
      ∀ other, after.outcomes kind other = metrics.outcomes kind other + if succeeded =
        other then 1 else 0 := by
  obtain ⟨entry, after, recorded, entered, enabled, measured, placed⟩ :=
    entered_of_measures "action" kind
    (fun _ kept => Metric.record_measured kept
      (elapsed_is_double started finished) now (some succeeded))
    continues.enabled continues.measured
  have own : after.actions kind = entry := by
    unfold actions
    rw [placed]
    exact entry_place_self (record_named (entry_is_named "action" kind metrics.entries) recorded) _
  obtain ⟨least, greatest, total, changed⟩ := Metric.recorded_of_done recorded
  have count : (after.actions kind).count = (metrics.actions kind).count + 1 := by
    rw [own, changed]
    rfl
  have counted (other : Bool) : after.outcomes kind other =
      metrics.outcomes kind other + if succeeded = other then 1 else 0 := by
    unfold outcomes
    rw [own, changed]
    cases other <;> cases succeeded <;> rfl
  refine ⟨after, entered, ⟨enabled, measured, fun other => ?_, ?_⟩, counted⟩
  · rw [counted]
    exact Nat.le_add_right_of_le (continues.grown other)
  · have settled := continues.settled
    rw [count, counted, counted]
    cases succeeded <;> simp <;> omega

end Recording

end Metrics
end Interplay
