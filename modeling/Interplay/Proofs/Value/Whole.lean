import Mathlib.Algebra.Group.Nat.Defs
import Interplay.Limits
import Interplay.Sink

/-!
Whole numbers against ceilings and capacities.

Comparing two whole numbers never fails and agrees with their order.  A ceiling that is a whole
number refuses exactly the greater ones, and a sink whose capacity is a number takes every item.
-/

namespace Interplay

namespace Number

theorem below_int (left right : Int) : (int left).below (int right) = decide (left < right) := by
  have signed : ∀ number : Int,
      Decimal.Reading.signed (decide (number < 0)) number.natAbs = number := by
    intro number
    unfold Decimal.Reading.signed
    split
    · rename_i negative
      have := of_decide_eq_true negative
      simp only [Int.ofNat_eq_natCast]
      omega
    · rename_i positive
      have : ¬number < 0 := by simpa using positive
      simp only [Int.ofNat_eq_natCast]
      omega
  simp only [below, reading, Decimal.Reading.below, Decimal.Reading.aligned, signed]
  simp [Decimal.twoPower]

end Number

namespace Value

/-- A whole number can be written if it has no more digits than numbers may have. -/
theorem is_writable_int_iff (number : Int) :
    (int number).isWritable = true ↔ number.natAbs < 10 ^ Number.digitLimit := by
  have positive : 0 < Number.digitLimit := by decide
  have written : toString number.natAbs = number.natAbs.repr := rfl
  rw [show (int number).isWritable = (Scalar.int number).isWritable from rfl]
  simp only [Scalar.isWritable, decide_eq_true_eq, written, Nat.length_repr_le_iff positive]

theorem not_writable_of_long {number : Nat} (long : 10 ^ Number.digitLimit ≤ number) :
    (Value.ofNat number).isWritable = false := by
  rw [Bool.eq_false_iff]
  intro written
  exact absurd ((is_writable_int_iff _).mp written) (Nat.not_lt.mpr long)

theorem above_int (left right : Int) :
    (int left).compare .above (int right) = .ok (decide (right < left)) := by
  simp [compare, Scalar.compare, Scalar.number?, Comparison.ofNumbers, Number.below_int]

end Value

namespace Limits

/-- A whole number within a whole ceiling passes. -/
theorem check_within {category name : String} {limits : Limits} {ceiling value : Int}
    (known : limits.ceiling category name = .int ceiling) (within : value ≤ ceiling) :
    limits.check category name (.int value) = .ok () := by
  have notAbove : decide (ceiling < value) = false := by simpa using within
  simp [check, checkAgainst, known, Value.isNull, Value.above_int, notAbove]

/-- A whole number above a whole ceiling is refused: as a fault that names both, if both can be
written. -/
theorem check_above {category name : String} {limits : Limits} {ceiling value : Int}
    (known : limits.ceiling category name = .int ceiling) (above : ceiling < value) :
    limits.check category name (.int value) =
      if (Value.int value).isWritable && (Value.int ceiling).isWritable then
        .error (.fault (Fault.limit (.text category) (.text name) (.int value) (.int ceiling)))
      else .error (.mishap .notWritable) := by
  have isAbove : decide (ceiling < value) = true := by simpa using above
  simp [check, checkAgainst, known, Value.isNull, Value.above_int, isAbove,
    Value.isWritable, Scalar.isWritable]

theorem check_passes_iff {category name : String} {limits : Limits} {ceiling value : Int}
    (known : limits.ceiling category name = .int ceiling) :
    limits.check category name (.int value) = .ok () ↔ value ≤ ceiling := by
  constructor
  · intro passed
    by_cases within : value ≤ ceiling
    · exact within
    · rw [check_above known (by omega)] at passed
      split at passed <;> cases passed
  · exact check_within known

end Limits

namespace Sink

variable {α : Type}

/-- The capacity of a sink is something that numbers can be compared with. -/
def IsCounting (sink : Sink α) : Prop :=
  ∃ content number, sink.capacity = .scalar content ∧ content.number? = some number

theorem add_of_is_counting {sink : Sink α} (counting : sink.IsCounting) (item : α) :
    ∃ after, sink.add item = .ok after := by
  obtain ⟨content, number, capacity, numeric⟩ := counting
  have compared : ∃ full, sink.isFull = .ok full := by
    unfold isFull
    rw [capacity]
    cases content <;>
      simp_all [Value.ofNat, Value.compare, Scalar.compare, Scalar.number?]
  obtain ⟨full, known⟩ := compared
  unfold add
  rw [known]
  cases full with
  | true => exact ⟨_, rfl⟩
  | false => exact ⟨_, rfl⟩

end Sink
end Interplay
