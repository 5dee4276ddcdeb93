import Interplay.Proofs.Cycle.Raising
import Interplay.Proofs.Registry.Lookup
import Interplay.Proofs.Run.Attempts
import Interplay.Proofs.Value.Content
import Interplay.Proofs.Value.Mention

/-!
Counts and occurrences of running workflows.

A detector keeps a count for each key beside the path of all keys.  However entries and exits follow
each other, the count of a key is the number of its occurrences on the path, so it never passes the
recursion ceiling, and no key is kept with a count of zero.  An exit takes the last occurrence of
its key off the path and nothing else.
-/

namespace Interplay

theorem Value.below_int (left right : Int) :
    (int left).compare .below (int right) = .ok (decide (left < right)) := by
  simp [compare, Scalar.compare, Scalar.number?, Comparison.ofNumbers, Number.below_int]

namespace Cycle
namespace Workflow

/-- A use of a detector: a key is entered or left. -/
inductive Use where
  | enter (key : String)
  | leave (key : String)

def Use.run : Use → Run (Workflow String) Unit
  | enter key => Run.update (Workflow.enter key)
  | leave key => Run.modify (Workflow.leave key)

/-- The counts say how often each key stands on the path, which is never more often than the ceiling
allows. -/
structure IsInStep (ceiling : Int) (running : Workflow String) : Prop where
  limited : running.maxRecursion = .int ceiling
  counts : ∀ key, running.depthOf key = running.path.count key
  within : ∀ key, (running.depthOf key : Int) ≤ max ceiling 0
  positive : ∀ entry ∈ running.active, entry.2 ≠ 0

/-- A key is let in exactly where the detector says that it can enter; a refusal is a cycle and
changes nothing. -/
def EntersDuly (ceiling : Int) (key : String) (running : Workflow String) : Prop :=
  running.canEnter key = .ok (decide ((running.depthOf key : Int) < ceiling)) ∧
    (running.canEnter key = .ok true → (Use.enter key).run running = .done ()
      (running.entered key)) ∧
    (running.canEnter key = .ok false → ∃ fault, (Use.enter key).run running = .raised
      (.fault fault) running ∧
      fault.source = .cycle (.text "workflow") (running.path.map Value.text) (.text key))

/-- Leaving a key takes its last occurrence off the path; a key that does not occur is left without
any effect. -/
def LeavesDuly (key : String) (running : Workflow String) : Prop :=
  (∃ before after, running.path = before ++ key :: after ∧ key ∉ after ∧
      (running.leave key).path = before ++ after) ∨
    key ∉ running.path ∧ running.leave key = running

theorem empty_in_step (ceiling : Int) :
    (empty (.int ceiling) : Workflow String).IsInStep ceiling where
  limited := rfl
  counts _ := rfl
  within _ := le_max_right ceiling 0
  positive := nofun

theorem count_erase_last (key other : String) (path : List String) :
    (eraseLast key path).count other = path.count other - if key = other then 1 else 0 := by
  simp [eraseLast, List.count_erase]

theorem erase_last_of_mem {key : String} {path : List String} (member : key ∈ path) :
    ∃ before after, path = before ++ key :: after ∧ key ∉ after ∧
    eraseLast key path = before ++ after := by
  obtain ⟨after, before, absent, split, erased⟩ :=
    List.exists_erase_eq (List.mem_reverse.mpr member)
  have forward : path = before.reverse ++ key :: after.reverse := by
    rw [← path.reverse_reverse, split]
    simp
  refine ⟨before.reverse, after.reverse, forward, by simpa using absent, ?_⟩
  unfold eraseLast
  rw [erased, List.reverse_append]

theorem erase_last_of_not_mem {key : String} {path : List String} (absent : key ∉ path) :
    eraseLast key path = path := by
  unfold eraseLast
  rw [List.erase_of_not_mem (by simpa using absent), List.reverse_reverse]

theorem depth_of_leave_self (key : String) (running : Workflow String) :
    (running.leave key).depthOf key = running.depthOf key - 1 := by
  unfold depthOf leave
  by_cases single : running.depthOf key ≤ 1
  · rw [if_pos single, Keyed.find?_erase_self]
    unfold depthOf at single
    simp only [Option.getD_none]
    omega
  · rw [if_neg single, Keyed.find?_insert_self]
    rfl

theorem depth_of_leave_of_ne {key other : String} (different : other ≠ key)
    (running : Workflow String) :
    (running.leave key).depthOf other = running.depthOf other := by
  unfold depthOf leave
  by_cases single : running.depthOf key ≤ 1
  · rw [if_pos single, Keyed.find?_erase_of_ne different]
  · rw [if_neg single, Keyed.find?_insert_of_ne _ _ different]

section

variable {ceiling : Int} {running : Workflow String}

theorem can_enter_eq (known : running.maxRecursion = .int ceiling) (key : String) :
    running.canEnter key = .ok (decide ((running.depthOf key : Int) < ceiling)) := by
  unfold canEnter
  rw [known]
  exact Value.below_int _ _

theorem enter_below (known : running.maxRecursion = .int ceiling) {key : String}
    (room : (running.depthOf key : Int) < ceiling) : running.enter key = .ok
    (running.entered key) := by
  have compared : (Value.ofNat (running.depthOf key)).compare .atLeast running.maxRecursion =
      .ok false := by
    rw [known, show Value.ofNat (running.depthOf key) = .int (running.depthOf key : Int) from rfl,
      Value.at_least_int]
    simpa using room
  unfold enter
  rw [compared]
  rfl

theorem enter_full (known : running.maxRecursion = .int ceiling) {key : String}
    (full : ceiling ≤ running.depthOf key) :
    running.enter key = .error
      (.cycle (.text "workflow") (running.path.map Value.text) (.text key)) := by
  have compared : (Value.ofNat (running.depthOf key)).compare .atLeast running.maxRecursion =
      .ok true := by
    rw [known, show Value.ofNat (running.depthOf key) = .int (running.depthOf key : Int) from rfl,
      Value.at_least_int]
    simpa using full
  unfold enter
  rw [compared]
  rfl

theorem enters_duly (known : running.maxRecursion = .int ceiling) (key : String) :
    running.EntersDuly ceiling key := by
  have answer := can_enter_eq known key
  refine ⟨answer, ?_, ?_⟩
  · intro free
    have room : (running.depthOf key : Int) < ceiling := by
      rw [answer] at free
      exact of_decide_eq_true (Except.ok.inj free)
    simp only [Use.run, Run.update, enter_below known room]
  · intro full
    have reached : ceiling ≤ running.depthOf key := by
      rw [answer] at full
      have notBelow := of_decide_eq_false (Except.ok.inj full)
      omega
    obtain ⟨fault, raised, source⟩ := Failure.cycle_of_keys (.text "workflow") running.path key
    refine ⟨fault, ?_, source⟩
    simp only [Use.run, Run.update, enter_full known reached, raised]

end

namespace IsInStep

variable {ceiling : Int} {running : Workflow String}

theorem entered (inStep : running.IsInStep ceiling) {key : String}
    (room : (running.depthOf key : Int) < ceiling) :
    (running.entered key).IsInStep ceiling where
  limited := inStep.limited
  counts other := by
    have onPath : (running.entered key).path = running.path ++ [key] := rfl
    rw [onPath, List.count_append, ← inStep.counts other]
    by_cases same : other = key
    · subst same
      rw [depth_of_entered_self, List.count_singleton_self]
    · have apart : key ≠ other := fun equal => same equal.symm
      rw [depth_of_entered_of_ne same, List.count_singleton,
        if_neg (by simpa using apart), Nat.add_zero]
  within other := by
    by_cases same : other = key
    · subst same
      rw [depth_of_entered_self]
      omega
    · rw [depth_of_entered_of_ne same]
      exact inStep.within other
  positive entry member := by
    rcases Keyed.mem_of_insert member with present | ⟨written, _⟩
    · exact inStep.positive entry present
    · rw [written]
      exact Nat.succ_ne_zero _

theorem leave (inStep : running.IsInStep ceiling) (key : String) :
    (running.leave key).IsInStep ceiling where
  limited := inStep.limited
  counts other := by
    have onPath : (running.leave key).path = eraseLast key running.path := rfl
    rw [onPath, count_erase_last, ← inStep.counts other]
    by_cases same : other = key
    · subst same
      rw [depth_of_leave_self, if_pos rfl]
    · rw [depth_of_leave_of_ne same, if_neg fun equal => same equal.symm, Nat.sub_zero]
  within other := by
    have before := inStep.within other
    by_cases same : other = key
    · subst same
      rw [depth_of_leave_self]
      omega
    · rw [depth_of_leave_of_ne same]
      exact before
  positive entry member := by
    by_cases single : running.depthOf key ≤ 1
    · have kept : entry ∈ Keyed.erase key running.active := by
        simpa [Workflow.leave, single] using member
      exact inStep.positive entry (List.mem_of_mem_filter kept)
    · have written : entry ∈ Keyed.insert key (running.depthOf key - 1) running.active := by
        simpa [Workflow.leave, single] using member
      rcases Keyed.mem_of_insert written with present | ⟨same, _⟩
      · exact inStep.positive entry present
      · rw [same]
        omega

/-- One use of a detector keeps the counts and the path in step. -/
theorem use (inStep : running.IsInStep ceiling) (use : Use) :
    ∃ after, (use.run running).state? = some after ∧ after.IsInStep ceiling := by
  cases use with
  | leave key => exact ⟨running.leave key, rfl, inStep.leave key⟩
  | enter key =>
      by_cases room : (running.depthOf key : Int) < ceiling
      · refine ⟨running.entered key, ?_, inStep.entered room⟩
        simp only [Use.run, Run.update, enter_below inStep.limited room, Result.state?]
      · refine ⟨running, ?_, inStep⟩
        simp only [Use.run, Run.update, enter_full inStep.limited
          (Int.not_lt.mp room), Result.state?]

theorem find_eq_none_iff (inStep : running.IsInStep ceiling) (key : String) :
    Keyed.find? key running.active = none ↔ key ∉ running.path := by
  rw [← List.count_eq_zero, ← inStep.counts key]
  unfold depthOf
  cases found : Keyed.find? key running.active with
  | none => simp
  | some count =>
      obtain ⟨spelled, member⟩ := Keyed.mem_of_find? found
      have positive : count ≠ 0 := inStep.positive _ member
      simpa using positive

theorem has_active_iff (inStep : running.IsInStep ceiling) : running.hasActive = true ↔
    running.path ≠ [] := by
  cases active : running.active with
  | nil =>
      have absent : ∀ key, key ∉ running.path := by
        intro key
        apply (inStep.find_eq_none_iff key).mp
        rw [active]
        rfl
      simp [hasActive, active, List.eq_nil_iff_forall_not_mem.mpr absent]
  | cons entry rest =>
      obtain ⟨key, count⟩ := entry
      have found : Keyed.find? key running.active ≠ none := by simp [active, Keyed.find?]
      have present : key ∈ running.path := by
        by_contra absent
        exact found ((inStep.find_eq_none_iff key).mpr absent)
      simp [hasActive, active, List.ne_nil_of_mem present]

theorem leaves_duly (inStep : running.IsInStep ceiling) (key : String) :
    running.LeavesDuly key := by
  by_cases present : key ∈ running.path
  · exact .inl (erase_last_of_mem present)
  · have idle : running.depthOf key ≤ 1 := by
      rw [inStep.counts key, List.count_eq_zero_of_not_mem present]
      exact Nat.zero_le 1
    have untouched : Keyed.erase key running.active = running.active :=
      Keyed.erase_of_absent ((inStep.find_eq_none_iff key).mpr present)
    right
    refine ⟨present, ?_⟩
    unfold Workflow.leave
    rw [if_pos idle, untouched, erase_last_of_not_mem present]

end IsInStep

/-- However keys are entered and left, the count of each key is the number of its occurrences on the
path and within the recursion ceiling, no count of zero is kept, and something is active exactly as
long as the path is not empty. -/
theorem counts_follow_path (ceiling : Int) (uses : List Use) :
    ∃ outcomes last, Run.attemptAll Use.run uses (empty (.int ceiling)) = .done outcomes last ∧
      (∀ key, last.depthOf key = last.path.count key ∧ (last.depthOf key : Int) ≤ max ceiling 0) ∧
      (∀ entry ∈ last.active, entry.2 ≠ 0) ∧ (last.hasActive = true ↔ last.path ≠ []) ∧
      (∀ key, last.EntersDuly ceiling key) ∧ ∀ key, last.LeavesDuly key := by
  obtain ⟨outcomes, last, ended, inStep⟩ :=
    Run.attempt_all_reaches (fun _ running => IsInStep ceiling running)
    (fun _ use _ before => before.use use) uses (empty_in_step ceiling)
  refine ⟨outcomes, last, ended, ?_, inStep.positive, inStep.has_active_iff, ?_, inStep.leaves_duly⟩
  · intro key
    exact ⟨inStep.counts key, inStep.within key⟩
  · intro key
    exact enters_duly inStep.limited key

end Workflow
end Cycle
end Interplay
