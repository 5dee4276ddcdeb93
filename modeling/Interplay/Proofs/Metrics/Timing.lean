import Interplay.Metrics
import Interplay.Proofs.Run.Tracking

/-!
Timings apart from looks into memos.

Counting a look into a memo leaves every timing as it was, and whether a timing can be recorded
depends on the timings so far only.
-/

namespace Interplay

variable {δ : Type}

namespace Metric

def withLooks (hits misses : Nat) (metric : Metric δ) : Metric δ :=
  { metric with cacheHits := hits, cacheMisses := misses }

def timing (metric : Metric δ) : Metric δ :=
  metric.withLooks 0 0

theorem with_looks_timing (metric : Metric δ) :
    metric.timing.withLooks metric.cacheHits metric.cacheMisses = metric := rfl

variable [Measure δ]

theorem record_extremes_with_looks (duration : δ) (hits misses : Nat) (metric : Metric δ) :
    recordExtremes duration (metric.withLooks hits misses) =
      (recordExtremes duration metric).mapState (withLooks hits misses) := by
  simp only [recordExtremes, bind, Run.bind, Run.get]
  split
  · rename_i none
    have same : metric.count = 0 := none
    simp [Run.modify, Result.mapState, withLooks, same]
  · rename_i some
    have same : ¬metric.count = 0 := some
    rw [if_neg same]
    have least : (metric.withLooks hits misses).minDuration = metric.minDuration := rfl
    have greatest : (metric.withLooks hits misses).maxDuration = metric.maxDuration := rfl
    rw [least, greatest]
    cases pick .below metric.minDuration duration with
    | error failure => rfl
    | ok lower =>
        cases pick .above metric.maxDuration duration with
        | error failure => rfl
        | ok upper => rfl

theorem record_with_looks (now duration : δ) (success : Option Bool)
    (hits misses : Nat) (metric : Metric δ) :
    record now duration success (metric.withLooks hits misses) =
      (record now duration success metric).mapState (withLooks hits misses) := by
  simp only [record, bind, Run.bind, record_extremes_with_looks]
  cases recordExtremes duration metric with
  | raised failure after => rfl
  | exhausted => rfl
  | done value after =>
      simp only [Result.mapState, Run.modify, Run.get]
      have total : (after.withLooks hits misses).totalDuration = after.totalDuration := rfl
      simp only [total]
      cases Measure.add after.totalDuration duration with
      | error failure => rfl
      | ok sum => rfl

theorem extremes_of_done {duration : δ} {metric after : Metric δ}
    (recorded : recordExtremes duration metric = .done () after) :
    ∃ least greatest, after = { metric with minDuration := least, maxDuration := greatest } := by
  obtain ⟨_, _, seen, recorded⟩ := Run.done_of_bind recorded
  cases seen
  split at recorded
  · cases recorded
    exact ⟨_, _, rfl⟩
  · obtain ⟨least, _, picked, recorded⟩ := Run.done_of_bind recorded
    cases lower : pick .below metric.minDuration duration with
    | error failure => rw [lower] at picked; cases picked
    | ok found =>
        rw [lower] at picked
        cases picked
        obtain ⟨_, _, changed, recorded⟩ := Run.done_of_bind recorded
        cases changed
        obtain ⟨greatest, _, picked, recorded⟩ := Run.done_of_bind recorded
        cases upper : pick .above metric.maxDuration duration with
        | error failure => rw [upper] at picked; cases picked
        | ok found =>
            rw [upper] at picked
            cases picked
            cases recorded
            exact ⟨_, _, rfl⟩

theorem recorded_of_done {now duration : δ} {success : Option Bool} {metric after : Metric δ}
    (recorded : record now duration success metric = .done () after) :
    ∃ least greatest total, after =
      { metric with
        count := metric.count + 1
        totalDuration := total
        maxDuration := greatest
        minDuration := least
        lastTimestamp := now
        successCount := metric.successCount + (if success = some true then 1 else 0)
        failureCount := metric.failureCount + (if success = some false then 1 else 0) } := by
  obtain ⟨_, extremes, first, recorded⟩ := Run.done_of_bind recorded
  obtain ⟨least, greatest, rfl⟩ := extremes_of_done first
  obtain ⟨_, _, changed, recorded⟩ := Run.done_of_bind recorded
  cases changed
  obtain ⟨_, _, seen, recorded⟩ := Run.done_of_bind recorded
  cases seen
  obtain ⟨total, _, added, recorded⟩ := Run.done_of_bind recorded
  cases sum : Measure.add metric.totalDuration duration with
  | error failure => rw [sum] at added; cases added
  | ok found =>
      rw [sum] at added
      cases added
      cases recorded
      exact ⟨_, _, _, rfl⟩

end Metric

theorem Scalar.eq_of_beq_text {scalar : Scalar} {content : String}
    (same : (scalar == .text content) = true) :
    scalar = .text content := by
  cases scalar with
  | text other =>
      have equal : other = content := eq_of_beq same
      rw [equal]
  | null => cases same
  | bool flag => cases same
  | int number => cases same
  | float number => cases same
  | nan occurrence => cases same
  | closure handle tag => cases same

theorem Scalar.beq_text_self (content : String) : (Scalar.text content == .text content) = true :=
  beq_self_eq_true content

namespace Metrics

def isNamed (category name : String) (metric : Metric δ) : Bool :=
  isEntry (.text name) (.text category) metric

theorem is_named_iff (category name : String) (metric : Metric δ) :
    isNamed category name metric = true ↔
    metric.category = .text category ∧ metric.name = .text name := by
  unfold isNamed isEntry
  rw [Bool.and_eq_true]
  constructor
  · rintro ⟨found, named⟩
    exact ⟨Scalar.eq_of_beq_text found, Scalar.eq_of_beq_text named⟩
  · rintro ⟨found, named⟩
    rw [found, named]
    exact ⟨Scalar.beq_text_self _, Scalar.beq_text_self _⟩

variable [Measure δ]

def entryOf (category name : String) (entries : List (Metric δ)) : Metric δ :=
  (entries.find? (isNamed category name)).getD (Metric.fresh (.text name) (.text category))

def place (category name : String) (metric : Metric δ) : List (Metric δ) → List (Metric δ)
  | [] => [metric]
  | first :: rest =>
    if isNamed category name first then metric :: rest else first :: place category name metric rest

theorem change_eq (category name : String) (step : Run (Metric δ) Unit)
    (entries : List (Metric δ)) :
    change (.text name) (.text category) step entries =
      (step (entryOf category name entries)).mapState fun metric =>
        place category name metric entries := by
  induction entries with
  | nil => rfl
  | cons first rest ih =>
      by_cases matched : isNamed category name first = true
      · have entry : entryOf category name (first :: rest) = first := by simp [entryOf, matched]
        have hit : isEntry (.text name) (.text category) first = true := matched
        rw [entry]
        simp only [change, hit, if_true, place, matched]
      · have entry : entryOf category name (first :: rest) = entryOf category name rest :=
          by simp [entryOf, matched]
        have missed : ¬isEntry (.text name) (.text category) first = true := matched
        rw [entry]
        simp only [change, if_neg missed, ih, place, if_neg matched]
        cases step (entryOf category name rest) <;> rfl

theorem entry_is_named (category name : String) (entries : List (Metric δ)) :
    isNamed category name (entryOf category name entries) = true := by
  unfold entryOf
  cases found : entries.find? (isNamed category name) with
  | none => exact (is_named_iff category name _).mpr ⟨rfl, rfl⟩
  | some metric => exact List.find?_some found

omit [Measure δ] in
theorem find_place_self {category name : String} {metric : Metric δ}
    (named : isNamed category name metric = true) (entries : List (Metric δ)) :
    (place category name metric entries).find? (isNamed category name) = some metric := by
  induction entries with
  | nil => simp [place, named]
  | cons first rest ih =>
      by_cases matched : isNamed category name first = true
      · simp [place, matched, named]
      · simp [place, matched, ih]

omit [Measure δ] in
theorem find_place_of_ne {category name other label : String} {metric : Metric δ}
    (named : isNamed category name metric = true) (different : ¬(other = category ∧ label = name))
    (entries : List (Metric δ)) :
    (place category name metric entries).find? (isNamed other label) = entries.find?
    (isNamed other label) := by
  have elsewhere : ∀ entry : Metric δ, isNamed category name entry = true →
      ¬isNamed other label entry = true := by
    intro entry first second
    have one := (is_named_iff category name entry).mp first
    have two := (is_named_iff other label entry).mp second
    have filed := one.1.symm.trans two.1
    have spelled := one.2.symm.trans two.2
    injection filed with categories
    injection spelled with names
    exact different ⟨categories.symm, names.symm⟩
  induction entries with
  | nil => simp [place, elsewhere metric named]
  | cons first rest ih =>
      by_cases matched : isNamed category name first = true
      · simp [place, matched, elsewhere metric named, elsewhere first matched]
      · by_cases found : isNamed other label first = true
        · simp [place, matched, found]
        · simp [place, matched, found, ih]

theorem entry_place_self {category name : String} {metric : Metric δ}
    (named : isNamed category name metric = true)
    (entries : List (Metric δ)) : entryOf category name
    (place category name metric entries) = metric := by
  unfold entryOf
  rw [find_place_self named]
  rfl

theorem entry_place_of_ne {category name other label : String} {metric : Metric δ}
    (named : isNamed category name metric = true) (different : ¬(other = category ∧ label = name))
    (entries : List (Metric δ)) :
    entryOf other label (place category name metric entries) = entryOf other label entries := by
  unfold entryOf
  rw [find_place_of_ne named different]

def timings (metrics : Metrics δ) (category name : String) : Metric δ :=
  (entryOf category name metrics.entries).timing

theorem timings_place {category name : String} {metric : Metric δ}
    (named : isNamed category name metric = true) (metrics : Metrics δ) (other label : String) :
    timings { metrics with entries := place category name metric metrics.entries } other label =
      if other = category ∧ label = name then metric.timing else metrics.timings other label := by
  unfold timings
  split
  · rename_i equal
    rw [equal.1, equal.2, entry_place_self named]
  · rename_i different
    rw [entry_place_of_ne named different]

theorem enter_eq (category name : String) (step : Run (Metric δ) Unit) {metrics : Metrics δ}
    (enabled : metrics.enabled = true) :
    enter (.text name) (.text category) step metrics =
      (step (entryOf category name metrics.entries)).mapState fun metric =>
        { metrics with entries := place category name metric metrics.entries } := by
  simp only [enter, bind, Run.bind, Run.get, enabled, if_true, Value.toKey, Run.ofExcept,
    Run.pure, Run.zoom, change_eq]
  cases step (entryOf category name metrics.entries) <;> rfl

theorem enter_disabled (category name : Value) (step : Run (Metric δ) Unit) {metrics : Metrics δ}
    (disabled : ¬metrics.enabled = true) : enter name category step metrics = .done () metrics := by
  simp only [enter, bind, Run.bind, Run.get, disabled]
  rfl

theorem record_cache_timings (name : String) (hit : Bool) (metrics : Metrics δ) :
    ∃ after, recordCache (.text name) hit metrics = .done () after ∧
    after.enabled = metrics.enabled ∧
      after.timings = metrics.timings := by
  by_cases enabled : metrics.enabled = true
  · have look : ∃ looked, Metric.recordCache hit (entryOf "formula" name metrics.entries) = .done
        () looked ∧
        isNamed "formula" name looked = true ∧ looked.timing =
        (entryOf "formula" name metrics.entries).timing := by
      have named := entry_is_named "formula" name metrics.entries
      cases hit with
      | true => exact ⟨_, rfl, named, rfl⟩
      | false => exact ⟨_, rfl, named, rfl⟩
    obtain ⟨looked, stepped, named, timed⟩ := look
    refine ⟨{ metrics with entries := place "formula" name looked metrics.entries }, ?_, rfl, ?_⟩
    · unfold recordCache
      rw [enter_eq _ _ _ enabled, stepped]
      rfl
    · funext category label
      rw [timings_place named]
      split
      · rename_i equal
        rw [equal.1, equal.2, timed]
        rfl
      · rfl
  · exact ⟨metrics, enter_disabled _ _ _ enabled, rfl, rfl⟩

theorem record_named {category name : String} {now duration : δ} {success : Option Bool}
    {metric after : Metric δ} (named : isNamed category name metric = true)
    (recorded : Metric.record now duration success metric = .done () after) :
    isNamed category name after = true := by
  obtain ⟨least, greatest, total, rfl⟩ := Metric.recorded_of_done recorded
  exact named

theorem record_of_timings {category name : String} {now duration : δ} {success : Option Bool}
    {metrics others after : Metrics δ} (enabled : others.enabled = metrics.enabled)
    (same : others.timings = metrics.timings)
    (recorded : record (.text name) (.text category) now duration success metrics = .done
      () after) :
    ∃ later, record (.text name) (.text category) now duration success others = .done () later ∧
      later.enabled = after.enabled ∧ later.timings = after.timings := by
  unfold record at recorded ⊢
  by_cases on : metrics.enabled = true
  · have entry : (entryOf category name others.entries).timing =
        (entryOf category name metrics.entries).timing :=
      congrFun (congrFun same category) name
    rw [enter_eq _ _ _ on] at recorded
    rw [enter_eq _ _ _ (enabled.trans on)]
    have first :=
      Metric.record_with_looks now duration success
        (entryOf category name metrics.entries).cacheHits
      (entryOf category name metrics.entries).cacheMisses
        (entryOf category name metrics.entries).timing
    have second :=
      Metric.record_with_looks now duration success (entryOf category name others.entries).cacheHits
      (entryOf category name others.entries).cacheMisses
        (entryOf category name others.entries).timing
    rw [Metric.with_looks_timing] at first second
    rw [entry] at second
    cases ended : Metric.record now duration success
      (entryOf category name metrics.entries).timing with
    | done value reached =>
        rw [ended] at first second
        have named := record_named (entry_is_named category name metrics.entries) first
        have otherNamed := record_named (entry_is_named category name others.entries) second
        rw [first] at recorded
        cases recorded
        rw [second]
        refine ⟨_, rfl, enabled, ?_⟩
        funext other label
        rw [timings_place named, timings_place otherNamed]
        split
        · rfl
        · exact congrFun (congrFun same other) label
    | raised failure reached =>
        rw [ended] at first
        rw [first] at recorded
        cases recorded
    | exhausted =>
        rw [ended] at first
        rw [first] at recorded
        cases recorded
  · rw [enter_disabled _ _ _ on] at recorded
    cases recorded
    exact ⟨others, enter_disabled _ _ _ (by rw [enabled]; exact on), enabled, same⟩

end Metrics
end Interplay
