import Interplay.Proofs.Cycle.Dependency
import Interplay.Proofs.Cycle.Workflow
import Interplay.Proofs.Value.Whole

/-!
Raised ceilings.

What a ceiling refuses after it was raised, it refused before.  A refusal is a fault that says so,
as long as the numbers in it can be written, and so is the refusal of a workflow that runs too
often.
-/

namespace Interplay

/-- Whether a fault says that a ceiling was exceeded, or that a workflow was running too often. -/
def Fault.isCut (fault : Fault) : Bool :=
  match fault.source with
  | .limit .. => true
  | .cycle (.text "workflow") _ _ => true
  | _ => false

theorem Fault.is_cut_stamp (path : List TrailStep) (fault : Fault) :
    (fault.stamp path).isCut = fault.isCut := by
  unfold stamp
  split <;> rfl

namespace Number

theorem signed_nat_abs (number : Int) :
    Decimal.Reading.signed (decide (number < 0)) number.natAbs = number := by
  by_cases negative : number < 0
  · simp only [Decimal.Reading.signed, negative, decide_true, if_true, Int.ofNat_eq_natCast]
    omega
  · simp only [Decimal.Reading.signed, negative, decide_false, Int.ofNat_eq_natCast]
    simp only [Bool.false_eq_true, if_false]
    omega

/-- What is above a whole number is above every lesser one. -/
theorem below_of_le {lesser greater : Int} (order : lesser ≤ greater) {number : Number}
    (below : (int greater).below number = true) : (int lesser).below number = true := by
  change (Decimal.Reading.finite (decide (greater < 0)) greater.natAbs 0).below number.reading =
    true at below
  change (Decimal.Reading.finite (decide (lesser < 0)) lesser.natAbs 0).below number.reading = true
  generalize number.reading = reading at below ⊢
  cases reading with
  | undefined => cases below
  | infinite negative => exact below
  | finite negative significand exponent =>
      simp only [Decimal.Reading.below, Decimal.Reading.aligned, signed_nat_abs,
        decide_eq_true_eq] at below ⊢
      exact Int.lt_of_le_of_lt (Int.mul_le_mul_of_nonneg_right order (Int.natCast_nonneg _)) below

theorem same_int (left right : Int) : (int left).same (int right) = decide (left = right) := by
  simp only [same, reading, Decimal.Reading.same, Decimal.Reading.aligned, signed_nat_abs]
  simp [Decimal.twoPower, beq_eq_decide]

end Number

namespace Value

theorem at_least_int (left right : Int) :
    (int left).compare .atLeast (int right) = .ok (decide (right ≤ left)) := by
  have order : (decide (right < left) || decide (right = left)) = decide (right ≤ left) := by
    rw [← Bool.decide_or]
    exact decide_eq_decide.mpr (by omega)
  simp [compare, Scalar.compare, Scalar.number?, Comparison.ofNumbers, Number.atMost,
    Number.below_int, Number.same_int, order]

/-- The same ceiling, or a greater whole number in place of a whole number. -/
def RaisesTo (low high : Value) : Prop :=
  low = high ∨ ∃ lesser greater : Int, low = .int lesser ∧ high = .int greater ∧ lesser ≤ greater

/-- A whole number and a lesser one compare alike with a value that is not between them. -/
theorem above_of_le {lesser greater : Int} (order : lesser ≤ greater) (value : Value) :
    value.compare .above (.int greater) = value.compare .above (.int lesser) ∨
      value.compare .above (.int lesser) = .ok true := by
  cases value with
  | scalar content =>
      have numeric {number : Number} (known : content.number? = some number) (ceiling : Int) :
          (Value.scalar content).compare .above (.int ceiling) = .ok
          ((Number.int ceiling).below number) := by
        cases content <;> simp_all [compare, Scalar.compare, Scalar.number?, Comparison.ofNumbers]
      cases known : content.number? with
      | none =>
          left
          cases content <;> simp_all [compare, Scalar.compare, Scalar.number?, Scalar.typeName]
      | some number =>
          rw [numeric known, numeric known]
          cases above : (Number.int greater).below number with
          | true => exact .inr (congrArg Except.ok (Number.below_of_le order above))
          | false =>
              cases (Number.int lesser).below number with
              | true => exact .inr rfl
              | false => exact .inl rfl
  | _ => exact .inl rfl

/-- What is above a whole number and cannot be written is a longer whole number. -/
theorem unwritable_above {ceiling : Int} {value : Value}
    (above : value.compare .above (.int ceiling) = .ok true)
    (unwritable : value.isWritable = false) : ∃ number : Int, value =
    .int number ∧ ceiling < number := by
  cases value with
  | scalar content =>
      cases content with
      | int number =>
          have same : (Value.int number).compare .above (.int ceiling) = .ok true := above
          rw [above_int] at same
          exact ⟨number, rfl, of_decide_eq_true (Except.ok.inj same)⟩
      | _ => cases unwritable
  | _ => cases above

end Value

namespace Limits

variable {category name : String} {low high value : Value}

theorem check_against_int {ceiling : Int} (written : (Value.int ceiling).isWritable = true) :
    checkAgainst (.text category) (.text name) value (.int ceiling) =
      match value.compare .above (.int ceiling) with
      | .error failure => .error failure
      | .ok true =>
        if value.isWritable then
          .error (.fault (Fault.limit (.text category) (.text name) value (.int ceiling)))
        else .error (.mishap .notWritable)
      | .ok false => .ok () := by
  have all : [Value.text category, .text name, value, .int ceiling].all Value.isWritable =
      value.isWritable := by
    change (value.isWritable && ((Value.int ceiling).isWritable && true)) = value.isWritable
    rw [written, Bool.and_true, Bool.and_true]
  unfold checkAgainst
  rw [all]
  rfl

/-- A ceiling too long to be written refuses without a fault that says so, unlike all that can be
written. -/
theorem check_against_unwritable {category name : Value} {ceiling number : Int}
    (long : (Value.int ceiling).isWritable = false) (above : ceiling < number) :
    checkAgainst category name (.int number) (.int ceiling) = .error (.mishap .notWritable) := by
  have compared : (Value.int number).compare .above (.int ceiling) = .ok true := by
    rw [Value.above_int, decide_eq_true above]
  have unwritable : [category, name, .int number, .int ceiling].all Value.isWritable = false := by
    simp [long]
  unfold checkAgainst
  rw [compared, unwritable]
  rfl

/-- A raised ceiling refuses nothing else, and it refuses in the same way unless the lower one
cut. -/
theorem check_against_raised (raised : low.RaisesTo high) (written : low.isWritable = true)
    (alsoWritten : high.isWritable = true) :
    checkAgainst (.text category) (.text name) value high = checkAgainst (.text category)
      (.text name) value low ∨
      ∃ fault, checkAgainst (.text category) (.text name) value low = .error (.fault fault) ∧
      fault.isCut = true := by
  rcases raised with rfl | ⟨lesser, greater, rfl, rfl, order⟩
  · exact .inl rfl
  rw [check_against_int written, check_against_int alsoWritten]
  by_cases above : value.compare .above (.int lesser) = .ok true
  · rw [above]
    cases writable : value.isWritable with
    | true => exact .inr ⟨_, rfl, rfl⟩
    | false =>
        -- too long to be written, so far above both ceilings
        obtain ⟨number, rfl, beyond⟩ := Value.unwritable_above above writable
        have lower := (Value.is_writable_int_iff _).mp written
        have upper := (Value.is_writable_int_iff _).mp alsoWritten
        have long : ¬number.natAbs < 10 ^ Number.digitLimit := fun short => by
          rw [(Value.is_writable_int_iff _).mpr short] at writable
          cases writable
        have farAbove : decide (greater < number) = true := decide_eq_true (by omega)
        rw [Value.above_int, farAbove]
        exact .inl rfl
  · rcases Value.above_of_le order value with same | cut
    · rw [same]
      cases compared : value.compare .above (.int lesser) with
      | error failure => exact .inl rfl
      | ok refused =>
          cases refused with
          | true => exact absurd compared above
          | false => exact .inl rfl
    · exact absurd cut above

/-- Depth ceilings are the same, or greater numbers that can be written, as faults of a ceiling have
to be; all other ceilings are the same. -/
def RaisesTo (low high : Limits) : Prop :=
  ∀ category name, high.ceiling category name = low.ceiling category name ∨
    name = "max_depth" ∧ (low.ceiling category name).RaisesTo (high.ceiling category name) ∧
      (low.ceiling category name).isWritable = true ∧ (high.ceiling category name).isWritable = true

variable {lower upper : Limits}

theorem RaisesTo.check (raises : lower.RaisesTo upper) (category name : String) (value : Value) :
    upper.check category name value = lower.check category name value ∨
      ∃ fault, lower.check category name value = .error (.fault fault) ∧ fault.isCut = true := by
  unfold Limits.check
  rcases raises category name with same | ⟨_, raised, written, alsoWritten⟩
  · rw [same]
    exact .inl rfl
  · exact check_against_raised raised written alsoWritten

theorem RaisesTo.ceiling (raises : lower.RaisesTo upper) (category : String) {name : String}
    (other : name ≠ "max_depth") : upper.ceiling category name = lower.ceiling category name :=
  (raises category name).resolve_right fun raised => other raised.1

theorem RaisesTo.refl (limits : Limits) : limits.RaisesTo limits :=
  fun _ _ => .inl rfl

end Limits

namespace Cycle
namespace Workflow

def under (ceiling : Value) (running : Workflow String) : Workflow String :=
  { running with maxRecursion := ceiling }

/-- A workflow that may run more often is refused less. -/
theorem enter_under {running : Workflow String} {ceiling : Value}
    (raised : running.maxRecursion.RaisesTo ceiling) (key : String) :
    (running.under ceiling).enter key = (running.enter key).map (under ceiling) ∨
      ∃ fault, running.enter key = .error (.fault fault) ∧ fault.isCut = true := by
  have entering (running : Workflow String) : running.enter key =
      match (Value.ofNat (running.depthOf key)).compare .atLeast running.maxRecursion with
      | .error failure => .error failure
      | .ok true =>
        .error (.cycle (.text "workflow") (running.path.map Key.toValue) (Key.toValue key))
      | .ok false => .ok (running.entered key) := rfl
  rcases raised with same | ⟨lesser, greater, low, rfl, order⟩
  · left
    have own : running.under ceiling = running := by
      rw [← same]
      rfl
    rw [own]
    cases entry : running.enter key with
    | error failure => rfl
    | ok entered =>
        rw [entered_of_enter entry, ← same]
        rfl
  · have deep : (running.under (.int greater)).depthOf key = running.depthOf key := rfl
    have high : (running.under (.int greater)).maxRecursion = .int greater := rfl
    rw [entering, entering, low, deep, high]
    have lowly := Value.at_least_int (running.depthOf key) lesser
    have highly := Value.at_least_int (running.depthOf key) greater
    change (Value.ofNat (running.depthOf key)).compare .atLeast (.int lesser) = _ at lowly
    change (Value.ofNat (running.depthOf key)).compare .atLeast (.int greater) = _ at highly
    rw [lowly, highly]
    by_cases often : lesser ≤ running.depthOf key
    · have texts : ∀ item ∈ running.path.map Key.toValue ++ [Key.toValue key],
          ∃ content, item = Value.text content := by
        intro item member
        rw [List.mem_append, List.mem_map, List.mem_singleton] at member
        rcases member with ⟨content, _, rfl⟩ | rfl
        · exact ⟨content, rfl⟩
        · exact ⟨key, rfl⟩
      obtain ⟨fault, refused, source⟩ := Failure.cycle_of_texts (.text "workflow") texts
      rw [decide_eq_true often]
      refine .inr ⟨fault, congrArg Except.error refused, ?_⟩
      unfold Fault.isCut
      rw [source]
      rfl
    · rw [decide_eq_false often, decide_eq_false (by omega)]
      exact .inl rfl

end Workflow
end Cycle
end Interplay
