import Mathlib.Algebra.Group.Basic
import Mathlib.Order.Bounds.Basic
import Interplay.Evaluate.Machine
import Interplay.Proofs.Metrics.Timing

/-!
Collectors over exact durations.

Where durations are exact numbers, an entry of a collector is the sum of what was recorded under its
name since the collector was last cleared, with the least and the greatest of it.  It does not
matter in which order the calls come, whether timings overlap, are started again or ended twice,
whether blocks are left by failures, or whether a look into a memo made the entry.
-/

namespace Interplay

def Comparison.holds {δ : Type} [LinearOrder δ] (comparison : Comparison) (left right : δ) : Bool :=
  match comparison with
  | below => decide (left < right)
  | atMost => decide (left ≤ right)
  | above => decide (right < left)
  | atLeast => decide (right ≤ left)

/-- Exact numbers as durations. -/
instance (priority := low) Measure.exact {δ : Type} [AddCommGroup δ] [LinearOrder δ] :
    Measure δ where
  zero := 0
  add total duration := .ok (total + duration)
  compare comparison left right := .ok (comparison.holds left right)
  elapsed started now := 1000 • (now - started)

structure Recording (δ : Type) where
  name : String
  category : String
  duration : δ
  success : Option Bool

/-- A timing that was started, with the reading of the clock then. -/
structure Opening (δ : Type) where
  name : String
  category : String
  reading : δ

def Opening.timing {δ : Type} (opening : Opening δ) : Timing δ :=
  { name := .text opening.name, category := .text opening.category, started := opening.reading }

/-- A call of a collector, with the reading of the clock where it matters. -/
inductive Usage (δ : Type) where
  | recorded (recording : Recording δ)
  | looked (name : String) (hit : Bool)
  | started (id : String) (opening : Opening δ)
  | ended (id : String) (success : Option Bool) (reading : δ)
  /-- A timed block was left. -/
  | left (opening : Opening δ) (reading : δ)
  | cleared

section Histories

variable {δ : Type}

/-- The timing that is under way for an identifier; histories begin with what happened last. -/
def underWay (id : String) : List (Usage δ) → Option (Opening δ)
  | [] => none
  | .cleared :: _ => none
  | .started other opening :: before => if other = id then some opening else underWay id before
  | .ended other _ _ :: before => if other = id then none else underWay id before
  | _ :: before => underWay id before

/-- Whether the looks into the memo of a formula since a collector was last cleared were hits. -/
def looks (name : String) : List (Usage δ) → List Bool
  | [] => []
  | .cleared :: _ => []
  | .looked other hit :: before =>
    if other = name then hit :: looks name before else looks name before
  | _ :: before => looks name before

def looksOf (category name : String) (history : List (Usage δ)) : List Bool :=
  if category = "formula" then looks name history else []

variable [AddCommGroup δ]

def Opening.close (reading : δ) (success : Option Bool) (opening : Opening δ) : Recording δ :=
  { name := opening.name, category := opening.category, duration := 1000 • (reading - opening.reading)
    success := success }

def Usage.recording? (before : List (Usage δ)) : Usage δ → Option (Recording δ)
  | recorded recording => some recording
  | ended id success reading => (underWay id before).map (Opening.close reading success)
  | left opening reading => some (opening.close reading none)
  | _ => none

def recordings : List (Usage δ) → List (Recording δ)
  | [] => []
  | .cleared :: _ => []
  | usage :: before => (usage.recording? before).toList ++ recordings before

theorem durations_cons {δ : Type} (recording : Recording δ) (recordings : List (Recording δ)) :
    { duration | duration ∈ (recording :: recordings).map Recording.duration } =
      insert recording.duration { duration | duration ∈ recordings.map Recording.duration } :=
  Set.ext fun _ => List.mem_cons

def recordingsOf (category name : String) (history : List (Usage δ)) : List (Recording δ) :=
  (recordings history).filter fun recording => recording.category = category ∧ recording.name = name

theorem recordings_of_recording {usage : Usage δ} {history : List (Usage δ)}
    {recording : Recording δ} (completed : usage.recording? history = some recording) :
    recordings (usage :: history) = recording :: recordings history := by
  cases usage with
  | cleared => cases completed
  | _ => exact congrArg (fun found => found.toList ++ recordings history) completed

theorem recordings_of_none {usage : Usage δ} {history : List (Usage δ)} (kept : usage ≠ .cleared)
    (nothing : usage.recording? history = none) : recordings (usage :: history) =
    recordings history := by
  cases usage with
  | cleared => exact absurd rfl kept
  | _ => exact congrArg (fun found => found.toList ++ recordings history) nothing

end Histories

namespace Metric

variable {δ : Type} [AddCommGroup δ] [LinearOrder δ]

structure SumsUp (recordings : List (Recording δ)) (looks : List Bool) (metric : Metric δ) :
    Prop where
  count : metric.count = recordings.length
  total : metric.totalDuration = (recordings.map Recording.duration).sum
  least : recordings ≠ [] →
    IsLeast { duration | duration ∈ recordings.map Recording.duration } metric.minDuration
  greatest : recordings ≠ [] →
    IsGreatest { duration | duration ∈ recordings.map Recording.duration } metric.maxDuration
  successes : metric.successCount = recordings.countP fun recording => recording.success = some true
  failures : metric.failureCount = recordings.countP fun recording => recording.success = some false
  hits : metric.cacheHits = looks.count true
  misses : metric.cacheMisses = looks.count false

namespace SumsUp

variable {recordings : List (Recording δ)} {looks : List Bool} {metric : Metric δ}

theorem of_fresh (name category : Scalar) : (fresh name category : Metric δ).SumsUp [] [] :=
  ⟨rfl, rfl, fun none => absurd rfl none, fun none => absurd rfl none, rfl, rfl, rfl, rfl⟩

theorem settled (sums : metric.SumsUp recordings looks) :
    metric.successCount + metric.failureCount ≤ metric.count := by
  rw [sums.count, sums.successes, sums.failures]
  clear sums
  induction recordings with
  | nil => exact Nat.le_refl 0
  | cons recording rest ih =>
      obtain ⟨_, _, _, _ | _ | _⟩ := recording <;> simp <;> omega

theorem looked (sums : metric.SumsUp recordings looks) :
    metric.cacheHits + metric.cacheMisses = looks.length := by
  rw [sums.hits, sums.misses]
  clear sums
  induction looks with
  | nil => rfl
  | cons hit rest ih => cases hit <;> simp <;> omega

/-- Without recordings the extremes are those of the first one, whatever they were before. -/
theorem record_extremes (sums : metric.SumsUp recordings looks) (recording : Recording δ) :
    ∃ least greatest, recordExtremes recording.duration metric =
        .done () { metric with minDuration := least, maxDuration := greatest } ∧
      IsLeast { duration | duration ∈ (recording :: recordings).map Recording.duration } least ∧
      IsGreatest { duration | duration ∈ (recording :: recordings).map Recording.duration }
        greatest := by
  rw [durations_cons]
  cases recordings with
  | nil =>
      have first : metric.count = 0 := sums.count
      refine ⟨recording.duration, recording.duration, ?_, ?_, ?_⟩
      · change (if metric.count = 0 then _ else _ : Run (Metric δ) Unit) metric = _
        rw [if_pos first]
        rfl
      · simp
      · simp
  | cons earlier rest =>
      have further : metric.count ≠ 0 := by simp [sums.count]
      refine ⟨min recording.duration metric.minDuration, max recording.duration metric.maxDuration,
        ?_,
        (sums.least (List.cons_ne_nil _ _)).insert _,
        (sums.greatest (List.cons_ne_nil _ _)).insert _⟩
      have lower : pick .below metric.minDuration recording.duration =
          .ok (min recording.duration metric.minDuration) := by
        rw [min_def_lt]
        by_cases below : recording.duration < metric.minDuration <;>
          simp [pick, Measure.compare, Comparison.holds, below]
      have upper : pick .above metric.maxDuration recording.duration =
          .ok (max recording.duration metric.maxDuration) := by
        rw [max_comm, max_def_lt]
        by_cases above : metric.maxDuration < recording.duration <;>
          simp [pick, Measure.compare, Comparison.holds, above]
      change (if metric.count = 0 then _ else _ : Run (Metric δ) Unit) metric = _
      rw [if_neg further, lower, upper]
      rfl

theorem record (sums : metric.SumsUp recordings looks) (recording : Recording δ) (now : δ) :
    ∃ after, Metric.record now recording.duration recording.success metric = .done () after ∧
      after.SumsUp (recording :: recordings) looks := by
  obtain ⟨least, greatest, extremes, lower, upper⟩ := sums.record_extremes recording
  unfold Metric.record
  rw [Run.bind_of_done extremes]
  refine ⟨_, rfl, ?_⟩
  constructor
  case count => exact congrArg (· + 1) sums.count
  case total =>
    change metric.totalDuration + recording.duration = _
    rw [sums.total, List.map_cons, List.sum_cons, add_comm]
  case least => exact fun _ => lower
  case greatest => exact fun _ => upper
  case successes =>
    change metric.successCount + _ = _
    rw [sums.successes, List.countP_cons]
    simp
  case failures =>
    change metric.failureCount + _ = _
    rw [sums.failures, List.countP_cons]
    simp
  case hits => exact sums.hits
  case misses => exact sums.misses

theorem record_cache (sums : metric.SumsUp recordings looks) (hit : Bool) :
    ∃ after, recordCache hit metric = .done () after ∧ after.name = metric.name ∧
      after.category = metric.category ∧ after.SumsUp recordings (hit :: looks) := by
  cases hit with
  | true =>
      refine ⟨_, rfl, rfl, rfl, { sums with hits := ?_, misses := ?_ }⟩
      · rw [List.count_cons_self, ← sums.hits]
        rfl
      · rw [List.count_cons_of_ne (by decide), ← sums.misses]
        rfl
  | false =>
      refine ⟨_, rfl, rfl, rfl, { sums with hits := ?_, misses := ?_ }⟩
      · rw [List.count_cons_of_ne (by decide), ← sums.hits]
        rfl
      · rw [List.count_cons_self, ← sums.misses]
        rfl

end SumsUp

end Metric

namespace Metrics

section Collectors

variable {δ : Type} [AddCommGroup δ] [LinearOrder δ]

/-- A collector has an entry for each name that was recorded or looked for, which sums up its
recordings and looks. -/
structure SumsUp (history : List (Usage δ)) (entries : List (Metric δ)) : Prop where
  sums : ∀ category name, (entryOf category name entries).SumsUp
    (recordingsOf category name history) (looksOf category name history)
  present : ∀ category name, (entries.find? (isNamed category name)).isSome = true ↔
    recordingsOf category name history ≠ [] ∨ looksOf category name history ≠ []

namespace SumsUp

variable {history : List (Usage δ)} {metrics : Metrics δ}

theorem of_none {history : List (Usage δ)} (recorded : recordings history = [])
    (looked : ∀ name, looks name history = []) : SumsUp history [] := by
  have nothing (category name : String) : recordingsOf category name history = [] ∧
      looksOf category name history = [] := by
    unfold recordingsOf looksOf
    rw [recorded, looked]
    exact ⟨rfl, ite_self []⟩
  refine ⟨fun category name => ?_, fun category name => ?_⟩
  · rw [(nothing category name).1, (nothing category name).2]
    exact .of_fresh _ _
  · simp [nothing category name]

/-- A call that completes nothing leaves all sums as they are. -/
theorem of_same {after : List (Usage δ)} {entries : List (Metric δ)} (sums : SumsUp history entries)
    (recorded : recordings after = recordings history)
    (looked : ∀ name, looks name after = looks name history) :
    SumsUp after entries := by
  have same (category name : String) : recordingsOf category name after =
      recordingsOf category name history ∧
      looksOf category name after = looksOf category name history := by
    unfold recordingsOf looksOf
    rw [recorded, looked]
    exact ⟨rfl, rfl⟩
  refine ⟨fun category name => ?_, fun category name => ?_⟩
  · rw [(same category name).1, (same category name).2]
    exact sums.sums category name
  · rw [(same category name).1, (same category name).2]
    exact sums.present category name

/-- A call that concerns one name changes the entry of that name only. -/
theorem place {after : List (Usage δ)} {entries : List (Metric δ)} (sums : SumsUp history entries)
    {category name : String} {metric : Metric δ} (named : isNamed category name metric = true)
    (summed : metric.SumsUp (recordingsOf category name after) (looksOf category name after))
    (known : recordingsOf category name after ≠ [] ∨ looksOf category name after ≠ [])
    (others : ∀ other label, ¬(other = category ∧ label = name) →
      recordingsOf other label after = recordingsOf other label history ∧
        looksOf other label after = looksOf other label history) :
    SumsUp after (Metrics.place category name metric entries) := by
  refine ⟨fun other label => ?_, fun other label => ?_⟩
  · by_cases own : other = category ∧ label = name
    · obtain ⟨rfl, rfl⟩ := own
      rw [entry_place_self named]
      exact summed
    · rw [entry_place_of_ne named own, (others other label own).1, (others other label own).2]
      exact sums.sums other label
  · by_cases own : other = category ∧ label = name
    · obtain ⟨rfl, rfl⟩ := own
      rw [find_place_self named]
      exact iff_of_true rfl known
    · rw [find_place_of_ne named own, (others other label own).1, (others other label own).2]
      exact sums.present other label

theorem record (sums : SumsUp history metrics.entries)
    (enabled : metrics.enabled = true) {usage : Usage δ}
    {recording : Recording δ} (completed : usage.recording? history = some recording)
    (unlooked : ∀ name, looks name (usage :: history) = looks name history) (now : δ) :
    ∃ entries, Metrics.record (.text recording.name)
      (.text recording.category) now recording.duration
        recording.success metrics = .done () { metrics with entries := entries } ∧
      SumsUp (usage :: history) entries := by
  obtain ⟨metric, recorded, summed⟩ :=
    (sums.sums recording.category recording.name).record recording now
  have named :=
    record_named (entry_is_named recording.category recording.name metrics.entries) recorded
  have own : recordingsOf recording.category recording.name (usage :: history) =
      recording :: recordingsOf recording.category recording.name history := by
    unfold recordingsOf
    rw [recordings_of_recording completed]
    exact List.filter_cons_of_pos (by simp)
  have looked (category name : String) : looksOf category name (usage :: history) =
      looksOf category name history := by
    unfold looksOf
    rw [unlooked]
  refine ⟨Metrics.place recording.category recording.name metric metrics.entries, ?_, ?_⟩
  · unfold Metrics.record
    rw [enter_eq _ _ _ enabled, recorded]
    rfl
  · refine sums.place named ?_ (.inl (own ▸ List.cons_ne_nil _ _))
      fun other label different => ⟨?_, looked _ _⟩
    · rw [own, looked]
      exact summed
    · unfold recordingsOf
      rw [recordings_of_recording completed]
      refine List.filter_cons_of_neg ?_
      rw [decide_eq_true_eq]
      exact fun same => different ⟨same.1.symm, same.2.symm⟩

theorem record_cache (sums : SumsUp history metrics.entries)
    (enabled : metrics.enabled = true) (name : String) (hit : Bool) :
    ∃ entries, recordCache (.text name) hit metrics = .done () { metrics with entries := entries } ∧
      SumsUp (.looked name hit :: history) entries := by
  obtain ⟨metric, recorded, sameName, sameCategory, summed⟩ :=
    (sums.sums "formula" name).record_cache hit
  have named : isNamed "formula" name metric = true := by
    have before := entry_is_named "formula" name metrics.entries
    rw [is_named_iff] at before ⊢
    exact ⟨sameCategory.trans before.1, sameName.trans before.2⟩
  have own : looksOf "formula" name (.looked name hit :: history) = hit ::
      looksOf "formula" name history := by
    simp [looksOf, looks]
  refine ⟨Metrics.place "formula" name metric metrics.entries, ?_, ?_⟩
  · unfold recordCache
    rw [enter_eq _ _ _ enabled, recorded]
    rfl
  · refine sums.place named ?_ (.inr (own ▸ List.cons_ne_nil _ _))
      fun other label different => ⟨rfl, ?_⟩
    · rw [own]
      exact summed
    · unfold looksOf
      split
      · rename_i formula
        exact if_neg fun same => different ⟨formula, same.symm⟩
      · rfl

end SumsUp

/-- What a collector answers about names, and what was recorded and looked for under them. -/
structure Accounts (history : List (Usage δ)) (metrics : Metrics δ) : Prop where
  absent : ∀ category name, metrics.get? (.text name) (.text category) = none ↔
    recordingsOf category name history = [] ∧ looksOf category name history = []
  present : ∀ category name metric, metrics.get? (.text name) (.text category) = some metric →
    metric.SumsUp (recordingsOf category name history) (looksOf category name history) ∧
      metric.successCount + metric.failureCount ≤ metric.count ∧
      metric.cacheHits + metric.cacheMisses = (looksOf category name history).length

theorem SumsUp.accounts {history : List (Usage δ)} {metrics : Metrics δ}
    (sums : SumsUp history metrics.entries) :
    metrics.Accounts history where
  absent category name := by
    have present := sums.present category name
    change metrics.entries.find? (isNamed category name) = none ↔ _
    rw [← Option.not_isSome_iff_eq_none, present]
    tauto
  present category name metric found := by
    have summed := sums.sums category name
    have own : entryOf category name metrics.entries = metric := by
      unfold entryOf
      rw [show metrics.entries.find? (isNamed category name) = some metric from found]
      rfl
    rw [own] at summed
    exact ⟨summed, summed.settled, summed.looked⟩

end Collectors

/-! ### Timings under way -/

section Timings

variable {δ : Type} {metrics : Metrics δ}

theorem timing_of_text (id : String) (metrics : Metrics δ) :
    metrics.timing? (.text id) =
      .ok ((Keyed.find? (.text id) metrics.active).map fun timing => (.text id, timing)) := by
  unfold timing? Value.removalKey
  cases metrics.active with
  | nil => rfl
  | cons entry rest => rfl

theorem start_eq (enabled : metrics.enabled = true) (id : String) (timing : Timing δ) :
    start (.text id) timing.name timing.category timing.started metrics =
      .done () { metrics with active := Keyed.insert (.text id) timing metrics.active } := by
  change (if metrics.enabled then _ else _ : Run (Metrics δ) Unit) metrics = _
  rw [if_pos enabled]
  rfl

theorem finish_eq [Measure δ] (enabled : metrics.enabled = true) (id : String) (now : δ)
    (success : Option Bool) :
    finish (.text id) now success metrics =
      match Keyed.find? (.text id) metrics.active with
      | none => .done none metrics
      | some timing =>
        (do
          record timing.name timing.category now (Measure.elapsed timing.started now) success
          pure (some (Measure.elapsed timing.started now)) : Run (Metrics δ) (Option δ))
          { metrics with active := Keyed.erase (.text id) metrics.active } := by
  change (if metrics.enabled then (Run.ofExcept (metrics.timing? (.text id)) >>= fun found => _)
    else _ :
    Run (Metrics δ) (Option δ)) metrics = _
  rw [if_pos enabled, timing_of_text]
  cases Keyed.find? (.text id) metrics.active with
  | none => rfl
  | some timing => rfl

end Timings

/-! ### Timed blocks -/

section Blocks

variable {σ δ α : Type} [Measure δ] (clock : σ → δ) (keep : Run (Metrics δ) Unit → Run σ Unit)
  (warn : δ → Run σ Unit) (name category : Value)

def conclude (entered : δ) : Run σ Unit := do
  let state ← Run.get
  let duration := Measure.elapsed entered (clock state)
  keep (record name category (clock state) duration none)
  warn duration

def block (body : Run σ α) : Run σ α := fun state =>
  Run.followedBy (conclude clock keep warn name category (clock state)) body state

theorem timed_eq (number : Nat) (name category budget : Value) (body : Run Machine α) :
    Machine.timed number name category budget body =
      block Machine.now (Machine.onMetrics number ())
        (fun duration => do
          if ← Run.ofExcept (Machine.overBudget budget duration) then
            Run.modify (Machine.log .warning .metrics
              (Machine.budgetMessage category name budget duration)))
        name category body := rfl

end Blocks

end Metrics

namespace Keyed

variable {α : Type}

theorem find?_insert_text (id other : String) (content : α) (table : Keyed Scalar α) :
    find? (.text other) (insert (.text id) content table) =
      if id = other then some content else find? (.text other) table := by
  have same (label : String) : (Scalar.text id == .text label) = true ↔ id = label :=
    ⟨fun equal => Scalar.text.inj (Scalar.eq_of_beq_text equal), fun equal => equal ▸
      Scalar.beq_text_self id⟩
  induction table with
  | nil => simp [insert, find?, same]
  | cons entry rest ih =>
      obtain ⟨key, old⟩ := entry
      by_cases found : (key == .text id) = true
      · obtain rfl := Scalar.eq_of_beq_text found
        by_cases equal : id = other
        · subst equal
          simp [insert, find?, found]
        · simp [insert, find?, same, equal, found]
      · by_cases asked : (key == .text other) = true
        · obtain rfl := Scalar.eq_of_beq_text asked
          have different : id ≠ other := fun equal => found (equal ▸ Scalar.beq_text_self id)
          simp [insert, find?, found, asked, different]
        · simp [insert, find?, found, asked, ih]

theorem find?_erase_text (id other : String) (table : Keyed Scalar α) :
    find? (.text other) (erase (.text id) table) = if id = other then none else find?
      (.text other) table := by
  unfold erase
  induction table with
  | nil => simp [find?]
  | cons entry rest ih =>
      obtain ⟨key, content⟩ := entry
      by_cases found : (key == .text id) = true
      · obtain rfl := Scalar.eq_of_beq_text found
        by_cases equal : id = other
        · subst equal
          simpa [found] using ih
        · have missed : ¬(Scalar.text id == .text other) = true :=
            fun same => equal (Scalar.text.inj (Scalar.eq_of_beq_text same))
          simp [find?, found, ih, equal, missed]
      · by_cases asked : (key == .text other) = true
        · obtain rfl := Scalar.eq_of_beq_text asked
          have different : id ≠ other := fun equal => found (equal ▸ Scalar.beq_text_self id)
          simp [find?, found, asked, different]
        · simp [find?, found, asked, ih]

end Keyed

/-- A body ends as it does, and what follows it is done first. -/
theorem Run.attempt_followed_by {σ α : Type} {final : Run σ Unit} {body : Run σ α}
    {outcome : Except Failure α}
    {state after later : σ} (ran : body state = Run.ofExcept outcome after)
    (finished : final after = .done () later) :
    Run.attempt (Run.followedBy final body) state = .done outcome later := by
  have continues (next : Unit → Run σ α) : Run.bind final next after = next () later :=
    Run.bind_of_done finished
  unfold Run.attempt Run.followedBy
  rw [ran]
  cases outcome with
  | ok value => simp only [Run.ofExcept, Run.pure, continues]
  | error failure => simp only [Run.ofExcept, Run.raise, continues]

/-- A collector beside a clock, with the durations of blocks that were over their budgets. -/
structure Stopwatch (δ : Type) where
  metrics : Metrics δ
  clock : δ
  overruns : List δ

/-- Host code that uses a collector.  Blocks end before the code around them goes on; a block of a
coroutine is entered and left while others go on. -/
inductive Timekeeping (δ : Type) where
  | leave (outcome : Except Failure Unit)
  | record (recording : Recording δ) (next : Timekeeping δ)
  | recordCache (name : String) (hit : Bool) (next : Timekeeping δ)
  | start (id name category : String) (next : Timekeeping δ)
  | finish (id : String) (success : Option Bool) (next : Option δ → Timekeeping δ)
  | time (name category : String) (budget : δ) (body : Timekeeping δ)
      (next : Except Failure Unit → Timekeeping δ)
  | enter (next : δ → Timekeeping δ)
  | exit (opening : Opening δ) (budget : δ) (next : Timekeeping δ)
  | clear (next : Timekeeping δ)
  | wait (duration : δ) (next : Timekeeping δ)

/-- What host code did, with the clock that it did it by. -/
structure Diary (δ : Type) where
  clock : δ
  history : List (Usage δ)

def Diary.blank {δ : Type} (now : δ) : Diary δ :=
  { clock := now, history := [] }

def Diary.note {δ : Type} (usage : Usage δ) (diary : Diary δ) : Diary δ :=
  { diary with history := usage :: diary.history }

section Keeping

variable {δ : Type} [AddCommGroup δ] [LinearOrder δ]

namespace Stopwatch

/-- A new collector. -/
def opened (now : δ) : Stopwatch δ :=
  { metrics := Metrics.empty true now, clock := now, overruns := [] }

def onMetrics {α : Type} (body : Run (Metrics δ) α) : Run (Stopwatch δ) α :=
  Run.zoom metrics (fun metrics watch => { watch with metrics := metrics }) body

/-- Calls the collector, which is told what the clock shows. -/
def call {α : Type} (body : δ → Run (Metrics δ) α) : Run (Stopwatch δ) α := fun watch =>
  onMetrics (body watch.clock) watch

def warn (budget duration : δ) : Run (Stopwatch δ) Unit :=
  if budget ≠ 0 ∧ budget < duration then
    Run.modify fun watch => { watch with overruns := watch.overruns ++ [duration] }
  else pure ()

end Stopwatch

namespace Timekeeping

def run : Timekeeping δ → Run (Stopwatch δ) Unit
  | leave outcome => Run.ofExcept outcome
  | record recording next => do
    Stopwatch.call fun now =>
      Metrics.record (.text recording.name)
        (.text recording.category) now recording.duration recording.success
    next.run
  | recordCache name hit next => do
    Stopwatch.onMetrics (Metrics.recordCache (.text name) hit)
    next.run
  | start id name category next => do
    Stopwatch.call (Metrics.start (.text id) (.text name) (.text category))
    next.run
  | finish id success next => do
    let duration ← Stopwatch.call fun now => Metrics.finish (.text id) now success
    (next duration).run
  | time name category budget body next => do
    let outcome ← Run.attempt
      (Metrics.block Stopwatch.clock Stopwatch.onMetrics (Stopwatch.warn budget) (.text name)
      (.text category) body.run)
    (next outcome).run
  | enter next => do
    let watch ← Run.get
    (next watch.clock).run
  | exit opening budget next => do
    Metrics.conclude Stopwatch.clock Stopwatch.onMetrics
      (Stopwatch.warn budget) (.text opening.name) (.text opening.category) opening.reading
    next.run
  | clear next => do
    Stopwatch.onMetrics (Run.modify Metrics.clear)
    next.run
  | wait duration next => do
    Run.modify fun watch => { watch with clock := watch.clock + duration }
    next.run

/-- What host code does, told without a collector. -/
def tell : Timekeeping δ → Diary δ → Except Failure Unit × Diary δ
  | leave outcome, diary => (outcome, diary)
  | record recording next, diary => next.tell (diary.note (.recorded recording))
  | recordCache name hit next, diary => next.tell (diary.note (.looked name hit))
  | start id name category next, diary =>
    next.tell (diary.note (.started id ⟨name, category, diary.clock⟩))
  | finish id success next, diary =>
    let usage := Usage.ended id success diary.clock
    (next ((usage.recording? diary.history).map Recording.duration)).tell (diary.note usage)
  | time name category _ body next, diary =>
    let (outcome, later) := body.tell diary
    (next outcome).tell (later.note (.left ⟨name, category, diary.clock⟩ later.clock))
  | enter next, diary => (next diary.clock).tell diary
  | exit opening _ next, diary => next.tell (diary.note (.left opening diary.clock))
  | clear next, diary => next.tell (diary.note .cleared)
  | wait duration next, diary => next.tell { diary with clock := diary.clock + duration }

end Timekeeping

/-- A collector knows what host code did with it: which timings are under way, and the sums of what
was recorded. -/
structure Stopwatch.Keeps (diary : Diary δ) (watch : Stopwatch δ) : Prop where
  clock : watch.clock = diary.clock
  enabled : watch.metrics.enabled = true
  timings : ∀ id, Keyed.find? (.text id) watch.metrics.active =
    (underWay id diary.history).map Opening.timing
  sums : Metrics.SumsUp diary.history watch.metrics.entries

namespace Stopwatch.Keeps

open Run

variable {diary : Diary δ} {watch : Stopwatch δ}

theorem opened (now : δ) : (Stopwatch.opened now).Keeps (Diary.blank now) :=
  ⟨rfl, rfl, fun _ => rfl, .of_none rfl fun _ => rfl⟩

theorem record (keeps : watch.Keeps diary) (usage : Usage δ) {recording : Recording δ}
    (completed : usage.recording? diary.history = some recording)
    (unlooked : ∀ name, looks name (usage :: diary.history) = looks name diary.history)
    (unstarted : ∀ id, underWay id (usage :: diary.history) = underWay id diary.history) (now : δ) :
    ∃ after, Stopwatch.onMetrics
      (Metrics.record (.text recording.name) (.text recording.category) now
        recording.duration recording.success) watch = .done () after ∧
        after.Keeps (diary.note usage) := by
  obtain ⟨entries, recorded, summed⟩ := keeps.sums.record keeps.enabled completed unlooked now
  refine ⟨{ watch with metrics := { watch.metrics with entries := entries } }, ?_,
    keeps.clock, keeps.enabled, ?_, summed⟩
  · unfold Stopwatch.onMetrics zoom
    rw [recorded]
    rfl
  · intro id
    exact (keeps.timings id).trans (congrArg (Option.map Opening.timing) (unstarted id).symm)

theorem record_cache (keeps : watch.Keeps diary) (name : String) (hit : Bool) :
    ∃ after, Stopwatch.onMetrics (Metrics.recordCache (.text name) hit) watch = .done () after ∧
      after.Keeps (diary.note (.looked name hit)) := by
  obtain ⟨entries, recorded, summed⟩ := keeps.sums.record_cache keeps.enabled name hit
  refine ⟨{ watch with metrics := { watch.metrics with entries := entries } }, ?_,
    keeps.clock, keeps.enabled, keeps.timings, summed⟩
  unfold Stopwatch.onMetrics zoom
  rw [recorded]
  rfl

theorem start (keeps : watch.Keeps diary) (id name category : String) :
    ∃ after, Stopwatch.call (Metrics.start (.text id) (.text name) (.text category)) watch = .done
      () after ∧
      after.Keeps (diary.note (.started id ⟨name, category, diary.clock⟩)) := by
  let timing : Timing δ :=
    { name := .text name, category := .text category, started := watch.clock }
  have started := Metrics.start_eq keeps.enabled id timing
  refine ⟨{ watch with
    metrics := { watch.metrics with active := Keyed.insert (.text id) timing watch.metrics.active }
      }, ?_, keeps.clock,
    keeps.enabled, ?_, keeps.sums.of_same rfl fun _ => rfl⟩
  · unfold Stopwatch.call Stopwatch.onMetrics zoom
    exact congrArg (Result.mapState _) started
  · intro other
    change Keyed.find? (.text other) (Keyed.insert (.text id) timing watch.metrics.active) =
      (if id = other then _ else _ : Option (Opening δ)).map Opening.timing
    rw [Keyed.find?_insert_text]
    split
    · change some timing = some (Opening.timing ⟨name, category, diary.clock⟩)
      rw [← keeps.clock]
      rfl
    · exact keeps.timings other

theorem clear (keeps : watch.Keeps diary) :
    ∃ after, Stopwatch.onMetrics (Run.modify Metrics.clear) watch = .done () after ∧
      after.Keeps (diary.note .cleared) :=
  ⟨_, rfl, keeps.clock, keeps.enabled, fun _ => rfl, .of_none rfl fun _ => rfl⟩

theorem wait (keeps : watch.Keeps diary) (duration : δ) :
    ({ watch with clock := watch.clock + duration } : Stopwatch δ).Keeps
      { diary with clock := diary.clock + duration } :=
  { keeps with clock := congrArg (· + duration) keeps.clock }

/-- Ending a timing that is not under way does nothing. -/
theorem finish (keeps : watch.Keeps diary) (id : String) (success : Option Bool) :
    ∃ after, Stopwatch.call (fun now => Metrics.finish (.text id) now success) watch =
        .done (((Usage.ended id success diary.clock).recording? diary.history).map Recording.duration) after ∧
      after.Keeps (diary.note (.ended id success diary.clock)) := by
  have known := keeps.timings id
  unfold Stopwatch.call Stopwatch.onMetrics zoom
  dsimp only
  rw [Metrics.finish_eq keeps.enabled, known]
  cases present : underWay id diary.history with
  | none =>
      have nothing : (Usage.ended id success diary.clock).recording? diary.history = none := by
        rw [Usage.recording?, present]
        rfl
      rw [nothing]
      refine ⟨watch, rfl, keeps.clock, keeps.enabled, fun other => ?_,
        keeps.sums.of_same (recordings_of_none nofun nothing) fun _ => rfl⟩
      change _ = (if id = other then none else underWay other diary.history).map Opening.timing
      split
      · rename_i same
        rw [← same, known, present]
      · exact keeps.timings other
  | some opening =>
      have completed : (Usage.ended id success diary.clock).recording? diary.history =
          some (opening.close diary.clock success) := by
        rw [Usage.recording?, present]
        rfl
      rw [completed]
      let erased : Metrics δ := { watch.metrics with active := Keyed.erase (.text id) watch.metrics.active }
      have before : Metrics.SumsUp diary.history erased.entries := keeps.sums
      obtain ⟨entries, recorded, summed⟩ := before.record keeps.enabled completed (fun _ => rfl) diary.clock
      refine ⟨{ watch with metrics := { erased with entries := entries } }, ?_, keeps.clock, keeps.enabled,
        fun other => ?_, summed⟩
      · have finished : (do
            Metrics.record (.text opening.name) (.text opening.category) diary.clock
              (Measure.elapsed opening.reading diary.clock) success
            pure (some (Measure.elapsed opening.reading diary.clock)) : Run (Metrics δ) (Option δ)) erased =
              .done _ { erased with entries := entries } := bind_of_done recorded
        rw [keeps.clock]
        exact congrArg (Result.mapState _) finished
      · change Keyed.find? (.text other) (Keyed.erase (.text id) watch.metrics.active) =
          (if id = other then none else underWay other diary.history).map Opening.timing
        rw [Keyed.find?_erase_text]
        split
        · rfl
        · exact keeps.timings other

/-- A block is recorded when it is left, and a warning about its budget changes nothing that is
recorded. -/
theorem conclude (keeps : watch.Keeps diary) (opening : Opening δ) (budget : δ) :
    ∃ after, Metrics.conclude Stopwatch.clock Stopwatch.onMetrics (Stopwatch.warn budget) (.text opening.name)
        (.text opening.category) opening.reading watch = .done () after ∧
      after.Keeps (diary.note (.left opening diary.clock)) := by
  obtain ⟨after, recorded, kept⟩ := keeps.record (.left opening diary.clock) rfl (fun _ => rfl) (fun _ => rfl)
    diary.clock
  have concluded : Metrics.conclude Stopwatch.clock Stopwatch.onMetrics (Stopwatch.warn budget) (.text opening.name)
      (.text opening.category) opening.reading watch =
        Stopwatch.warn budget (Measure.elapsed opening.reading diary.clock) after := by
    rw [← keeps.clock] at recorded ⊢
    exact bind_of_done recorded
  rw [concluded]
  unfold Stopwatch.warn
  split
  · exact ⟨_, rfl, kept.clock, kept.enabled, kept.timings, kept.sums⟩
  · exact ⟨after, rfl, kept⟩

end Stopwatch.Keeps

/-- Host code runs as it is told, and calls of the collector never fail, by induction on the
code. -/
theorem Timekeeping.run_keeps (code : Timekeeping δ) {watch : Stopwatch δ} {diary : Diary δ}
    (keeps : watch.Keeps diary) :
    ∃ last, code.run watch = Run.ofExcept (code.tell diary).1 last ∧
    last.Keeps (code.tell diary).2 := by
  induction code generalizing watch diary with
  | leave outcome => exact ⟨watch, rfl, keeps⟩
  | record recording next ih =>
      obtain ⟨after, recorded, kept⟩ :=
        keeps.record (.recorded recording) rfl (fun _ => rfl) (fun _ => rfl) watch.clock
      obtain ⟨last, ended, left⟩ := ih kept
      exact ⟨last, (Run.bind_of_done recorded).trans ended, left⟩
  | recordCache name hit next ih =>
      obtain ⟨after, recorded, kept⟩ := keeps.record_cache name hit
      obtain ⟨last, ended, left⟩ := ih kept
      exact ⟨last, (Run.bind_of_done recorded).trans ended, left⟩
  | start id name category next ih =>
      obtain ⟨after, started, kept⟩ := keeps.start id name category
      obtain ⟨last, ended, left⟩ := ih kept
      exact ⟨last, (Run.bind_of_done started).trans ended, left⟩
  | finish id success next ih =>
      obtain ⟨after, finished, kept⟩ := keeps.finish id success
      obtain ⟨last, ended, left⟩ := ih _ kept
      exact ⟨last, (Run.bind_of_done finished).trans ended, left⟩
  | time name category budget body next inner ih =>
      obtain ⟨after, ran, kept⟩ := inner keeps
      obtain ⟨later, concluded, noted⟩ := kept.conclude ⟨name, category, watch.clock⟩ budget
      rw [keeps.clock] at noted
      obtain ⟨last, ended, left⟩ := ih (body.tell diary).1 noted
      exact ⟨last, (Run.bind_of_done (Run.attempt_followed_by ran concluded)).trans ended, left⟩
  | enter next ih =>
      obtain ⟨last, ended, left⟩ := ih diary.clock keeps
      refine ⟨last, ?_, left⟩
      change (next watch.clock).run watch = _
      rw [keeps.clock]
      exact ended
  | exit opening budget next ih =>
      obtain ⟨after, concluded, kept⟩ := keeps.conclude opening budget
      obtain ⟨last, ended, left⟩ := ih kept
      exact ⟨last, (Run.bind_of_done concluded).trans ended, left⟩
  | clear next ih =>
      obtain ⟨after, cleared, kept⟩ := keeps.clear
      obtain ⟨last, ended, left⟩ := ih kept
      exact ⟨last, (Run.bind_of_done cleared).trans ended, left⟩
  | wait duration next ih => exact ih (keeps.wait duration)

/-- A new collector accounts for whatever host code does with it, which ends as it is told. -/
theorem collectors_account (code : Timekeeping δ) (now : δ) :
    ∃ last, code.run (Stopwatch.opened now) = Run.ofExcept (code.tell (Diary.blank now)).1 last ∧
      last.metrics.Accounts (code.tell (Diary.blank now)).2.history := by
  obtain ⟨last, ended, kept⟩ := code.run_keeps (Stopwatch.Keeps.opened now)
  exact ⟨last, ended, kept.sums.accounts⟩

end Keeping
end Interplay
