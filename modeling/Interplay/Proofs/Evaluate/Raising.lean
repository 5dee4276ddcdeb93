import Interplay.Proofs.Execute.Siblings
import Interplay.Proofs.Traversal.Obstruction
import Interplay.Proofs.Value.Whole

/-!
When evaluating a persisted formula fails.

Every failure inside a node becomes a fault and null, whatever handlers do, and keeping the books
does not fail where ceilings, capacities and durations are numbers.  What is left is reading the
formula, which fails before anything else happens, and a depth above the ceiling where one of the
two has too many digits for a fault to name both.
-/

namespace Interplay

open Run

/-- A result that is a failure. -/
def Result.Fails {σ α : Type} : Result σ α → Prop
  | .raised _ _ => True
  | _ => False

namespace Limits

/-- A value is above its ceiling, and one of the two cannot be written. -/
def ExceedsUnwritably (category name : String) (value : Value) (limits : Limits) : Prop :=
  value.compare .above (limits.ceiling category name) = .ok true ∧
    ¬(value.isWritable = true ∧ (limits.ceiling category name).isWritable = true)

/-- Checking a number against a number gives a mishap only if there is no way to name both. -/
theorem check_mishap_iff {limits : Limits} (numeric : limits.AreNumeric)
    (category name : String) {value : Value}
    (number : value.IsNumber) :
    (∃ mishap, limits.check category name value = .error (.mishap mishap)) ↔
      limits.ExceedsUnwritably category name value := by
  unfold check checkAgainst ExceedsUnwritably
  generalize known : limits.ceiling category name = ceiling
  have named : (Value.text category).isWritable = true ∧ (Value.text name).isWritable = true :=
    ⟨rfl, rfl⟩
  rcases known ▸ numeric category name with numbered | rfl
  · obtain ⟨above, compared⟩ := Value.compare_of_numbers .above number numbered
    obtain ⟨scalar, _, rfl, valued⟩ := numbered
    have present : (Value.scalar scalar).isNull = false := by
      cases scalar with
      | null => cases valued
      | bool | int | float | nan | text | closure => rfl
    rw [present, compared]
    cases above with
    | false => simp
    | true =>
        by_cases writable : value.isWritable = true ∧ (Value.scalar scalar).isWritable = true
        · simp [named, writable]
        · have unnamed : [.text category, .text name, value, .scalar scalar].all Value.isWritable =
              false := by
            simpa [named] using writable
          simp [unnamed, writable]
  · obtain ⟨scalar, _, rfl, valued⟩ := number
    cases scalar with
    | null | text | closure => cases valued
    | bool | int | float | nan => simp [Value.isNull, Value.compare, Scalar.compare, Scalar.number?]

end Limits

namespace Evaluate

variable {environment : Environment} {context : Context} {machine : Machine}

theorem record_fault_done (ready : machine.IsReady) (fault : Fault) :
    ∃ after, recordFault environment context fault machine = .done () after := by
  obtain ⟨kept, added⟩ := Machine.add_fault_done (ready.capacities context.host)
    (fault.stamp (machine.trailSteps context.trailHost))
  change ∃ after, (Machine.addFault context.host _ >>= fun _ => _) machine = .done () after
  rw [bind_of_done added]
  split
  · exact ⟨_, rfl⟩
  · exact ⟨_, rfl⟩

theorem node_fails_iff (ready : machine.IsReady) (fuel : Nat) (formula : Formula) (depth : Value) :
    (evaluateNode environment (fuel + 1) formula context depth machine).Fails ↔
      ∃ mishap, machine.limits.check "formula" "max_depth" depth = .error (.mishap mishap) := by
  change (evaluateWith environment (evaluateNode environment fuel) formula context
    depth machine).Fails ↔ _
  have works : Tracks True Machine.IsReady
      (dispatch environment (evaluateNode environment fuel) formula context depth)
      (dispatch environment (evaluateNode environment fuel) formula context depth) :=
    tracks_dispatch_of_everywhere Machine.ready_steady
      (fun smaller inner level _ => more_fuel_tracks Machine.ready_steady
        (Nat.le_refl fuel) smaller trivial level)
      formula trivial depth
  have recorded (reached : Machine) (still : reached.IsReady) (fault : Fault) :
      ¬((recordFault environment context fault >>= fun _ => pure Value.null) reached).Fails := by
    obtain ⟨kept, done⟩ : ∃ after, recordFault environment context fault reached = .done () after :=
      record_fault_done still fault
    rw [bind_of_done done]
    exact id
  rw [evaluateWith, bind_of_done (rfl : Run.get machine = .done machine machine)]
  cases checked : machine.limits.check "formula" "max_depth" depth with
  | error failure =>
      cases failure with
      | mishap mishap => exact iff_of_true trivial ⟨mishap, rfl⟩
      | fault fault => exact iff_of_false (recorded machine ready fault) nofun
  | ok passed =>
      refine iff_of_false ?_ nofun
      dsimp only
      cases worked : dispatch environment (evaluateNode environment fuel) formula
        context depth machine with
      | done content reached =>
          rw [bind_of_done (by rw [attempt, worked])]
          exact id
      | raised failure reached =>
          have still : reached.IsReady :=
            Result.holds_of_tracks (works machine ready) (by rw [worked]; rfl)
          rw [bind_of_done (by rw [attempt, worked])]
          exact recorded reached still _
      | exhausted =>
          rw [bind_of_exhausted (by rw [attempt, worked])]
          exact id

theorem timed_fails_iff {body : Run Machine Value} (number : Nat)
    (name category : String) {budget : Value} (budgeted : budget.IsNumber ∨ budget = .null)
    (still : ∀ after, (body machine).state? = some after → after.IsReady) :
    (Machine.timed number (.text name) (.text category) budget body machine).Fails ↔
    (body machine).Fails := by
  change (followedBy _ body machine).Fails ↔ _
  unfold followedBy
  cases ended : body machine with
  | done content reached =>
      have ready := still reached (by rw [ended]; rfl)
      obtain ⟨after, timed⟩ :=
        Machine.finish_timing_done ready number name category budgeted machine.now
      change ((Machine.finishTiming _ _ _ _ _ >>= fun _ => Run.pure content) reached).Fails ↔ _
      rw [bind_of_done timed]
      exact Iff.rfl
  | raised failure reached =>
      have ready := still reached (by rw [ended]; rfl)
      obtain ⟨after, timed⟩ :=
        Machine.finish_timing_done ready number name category budgeted machine.now
      change ((Machine.finishTiming _ _ _ _ _ >>= fun _ => (raise failure : Run Machine Value))
        reached).Fails ↔ _
      rw [bind_of_done timed]
      exact Iff.rfl
  | exhausted => exact Iff.rfl

/-- A formula fails only if its depth cannot be checked; an absent one is null at any depth. -/
theorem evaluation_fails_iff (ready : machine.IsReady) (fuel : Nat)
    (formula : Option Formula) (depth : Value) :
    (evaluate environment (fuel + 1) formula context depth machine).Fails ↔
    (∃ present, formula = some present) ∧
      ∃ mishap, machine.limits.check "formula" "max_depth" depth = .error (.mishap mishap) := by
  cases formula with
  | none => exact iff_of_false id nofun
  | some present =>
      have node : (evaluateNode environment (fuel + 1) present context depth machine).Fails ↔ _ :=
        node_fails_iff ready fuel present depth
      rw [and_iff_right ⟨present, rfl⟩, ← node]
      unfold evaluate evaluateTop
      dsimp only
      split
      · apply timed_fails_iff context.host _ "formula" (ready.limits _ _)
        intro after left
        have tracks : Tracks True Machine.IsReady
            (evaluateNode environment (fuel + 1) present context depth) _ :=
          more_fuel_tracks Machine.ready_steady (Nat.le_refl (fuel + 1)) present trivial depth
        exact Result.holds_of_tracks (tracks machine ready) left
      · rfl

/-- Where reading fails, nothing else happens. -/
theorem evaluation_of_unread {source : Value} {failure : Failure}
    (unread : Formula.read source = .error failure) (fuel : Nat) (depth : Value) :
    evaluatePersisted environment fuel source context depth machine = .raised failure machine := by
  unfold evaluatePersisted evaluateSource
  rw [unread]
  rfl

theorem evaluation_fails_of_unread {source : Value}
    (unread : Failing (Formula.read source)) (fuel : Nat)
    (depth : Value) : (evaluatePersisted environment fuel source context depth machine).Fails := by
  obtain ⟨failure, known⟩ := unread
  rw [evaluation_of_unread known]
  trivial

/-- Reading a persisted formula fails exactly if the reader can descend to an obstructed formula.
Evaluating one fails exactly if reading it fails, and then nothing else has happened, or if its
depth is above the ceiling and cannot be named beside it. -/
theorem persisted_evaluation_fails_iff (ready : machine.IsReady) (fuel : Nat)
    (source : Value) {depth : Value} (number : depth.IsNumber) :
    (Failing (Formula.read source) ↔
        ∃ position, Formula.HasPosition source position ∧ Formula.IsObstructed position) ∧
      ((evaluatePersisted environment (fuel + 1) source context depth machine).Fails ↔
        Failing (Formula.read source) ∨ (∃ formula, Formula.read source = .ok (some formula)) ∧
          machine.limits.ExceedsUnwritably "formula" "max_depth" depth) ∧
      ∀ failure, Formula.read source = .error failure →
        evaluatePersisted environment (fuel + 1) source context depth machine =
        .raised failure machine := by
  refine ⟨Formula.read_fails_iff_obstructed source, ?_,
    fun failure unread => evaluation_of_unread unread _ _⟩
  cases found : Formula.read source with
  | error failure =>
      exact iff_of_true (evaluation_fails_of_unread ⟨failure, found⟩ _ _)
        (.inl (failing_error failure))
  | ok formula =>
      have reads : evaluatePersisted environment (fuel + 1) source context depth machine =
          evaluate environment (fuel + 1) formula context depth machine := by
        unfold evaluatePersisted evaluateSource
        rw [found]
        rfl
      rw [reads, evaluation_fails_iff ready, Limits.check_mishap_iff ready.limits _ _ number,
        or_iff_right (not_failing_ok formula)]
      simp only [Except.ok.injEq]

def flagPath : Value :=
  .object [("type", .text "path"), ("path", .bool true)]

/-- An array whose first argument is no object and whose second one is the path. -/
def misshapen : Value :=
  .object [("type", .text "array"),
    ("arguments", .list [.text "none", .object [("formula", flagPath)]])]

def barren : Environment := fun _ =>
  { formulas := { packages := [], legacy := [] }, component := none, logErrors := true }

theorem lone_machine_is_ready (capacity : Int) :
    (Machine.lone Limits.standard capacity).IsReady where
  limits := Limits.standard_are_numeric
  capacities
    | 0 => Value.is_number_int capacity
    | _ + 1 => Value.is_number_int 0
  measured
    | 0 => nofun
    | _ + 1 => nofun

/-- The misshapen array cannot be read, and the machine stays as it was. -/
theorem misshapen_array_fails :
    (Machine.lone Limits.standard 5).IsReady ∧ (Value.int 0).IsNumber ∧ ∃ failure,
      evaluatePersisted barren (2 + 1) misshapen (Context.lone (.mapping [])) (.int 0)
        (Machine.lone Limits.standard 5) = .raised failure (Machine.lone Limits.standard 5) := by
  have ready := lone_machine_is_ready 5
  have number := Value.is_number_int 0
  have fails :=
    @persisted_evaluation_fails_iff barren (Context.lone (.mapping [])) _ ready 2 misshapen _ number
  have listed : Value.object [("formula", flagPath)] ∈ (misshapen.field "arguments").objects :=
    List.mem_singleton.mpr rfl
  have path : Formula.HasPosition misshapen flagPath := .single (.argument rfl listed)
  obtain ⟨failure, unread⟩ := fails.1.mpr ⟨flagPath, path, .inl ⟨"path", rfl, rfl⟩⟩
  exact ⟨ready, number, failure, fails.2.2 failure unread⟩

/-- A path whose only segment is a number. -/
def numberedPath (segment : Nat) : Value :=
  .object [("type", .text "path"), ("path", .list [.ofNat segment])]

theorem numbered_path_partless (segment : Nat) (part : Value) :
    ¬Formula.HasPart (numberedPath segment) part := by
  have tag : (numberedPath segment).formulaTag = "path" := rfl
  intro has
  cases has with
  | argument listed => exact absurd (tag ▸ listed) (by decide)
  | condition tagged | result tagged | fallback tagged =>
      exact absurd (tag.symm.trans tagged) (by decide)

theorem numbered_path_has_list (segment : Nat) {position : Value}
    (below : Formula.HasPosition (numberedPath segment) position) :
    ¬Formula.IsListless position := by
  rcases below.cases_head with same | ⟨part, has, _⟩
  · rw [← same]
    rintro ⟨key, listed, solid⟩
    cases listed
    cases solid
  · exact absurd has (numbered_path_partless segment part)

theorem numbered_path_unread {segment : Nat} (long : 10 ^ Number.digitLimit ≤ segment) :
    Failing (Formula.read (numberedPath segment)) :=
  (Formula.read_fails_iff_obstructed _).mpr
    ⟨_, .refl, .inr
      (.segment rfl rfl (List.mem_singleton.mpr rfl) (Value.not_writable_of_long long))⟩

theorem numbered_path_fails {segment : Nat} (long : 10 ^ Number.digitLimit ≤ segment) :
    (∀ position, Formula.HasPosition (numberedPath segment) position →
      ¬Formula.IsListless position) ∧
      Failing (Formula.read (numberedPath segment)) ∧
      (evaluatePersisted environment 1 (numberedPath segment) context (.int 0) machine).Fails :=
  ⟨fun _ => numbered_path_has_list segment, numbered_path_unread long,
    evaluation_fails_of_unread (numbered_path_unread long) 1 (.int 0)⟩

/-- A formula in which no field that should be a list is a number or true, which cannot be read all
the same because of a number of too many digits, so that its evaluation fails. -/
theorem interminable_path_fails :
    (∀ position, Formula.HasPosition (numberedPath (10 ^ Number.digitLimit)) position →
        ¬Formula.IsListless position) ∧
      Failing (Formula.read (numberedPath (10 ^ Number.digitLimit))) ∧
      (evaluatePersisted barren 1 (numberedPath (10 ^ Number.digitLimit))
        (Context.lone (.mapping [])) (.int 0) (Machine.lone Limits.standard 5)).Fails :=
  numbered_path_fails (Nat.le_refl _)

end Evaluate
end Interplay
