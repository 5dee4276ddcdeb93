import Mathlib.Algebra.Order.Field.Power
import Mathlib.Data.Rat.Cast.Order
import Mathlib.Tactic.FieldSimp
import Mathlib.Tactic.Linarith
import Mathlib.Tactic.Positivity
import Mathlib.Tactic.Ring
import Interplay.Decimal.Shortest

/-!
The shortest digits read back as the number they were made for.

A number owns the reals between the halfway points to its neighbours, a halfway point going to the
even one.  No real has two owners, and among decimals of seventeen digits there is always one that
the number owns.  So the digits that are found are owned by the number, and by no other one.
-/

namespace Interplay
namespace Decimal

/-- Significand and exponent of a finite number: below the least binade the significand may be
small. -/
structure IsDouble (significand : Nat) (exponent : Int) : Prop where
  small : significand < 2 ^ 53
  least : -1074 ≤ exponent
  full : -1074 < exponent → 2 ^ 52 ≤ significand

theorem is_double_of_read_bits {bits significand : Nat} {exponent : Int} {negative : Bool}
    (read : readBits bits = .finite negative significand exponent) :
    IsDouble significand exponent := by
  have power : twoPower 52 = 2 ^ 52 := rfl
  have start : binadeStart = 2 ^ 52 := rfl
  unfold readBits at read
  simp only [power, start] at read
  have fraction : bits % 2 ^ 52 < 2 ^ 52 := Nat.mod_lt _ (by decide)
  split at read
  · split at read <;> cases read
  · split at read
    · cases read
      exact ⟨by omega, le_refl _, fun above => absurd above (lt_irrefl _)⟩
    · rename_i _ nonzero
      have field : 0 < bits / 2 ^ 52 % twoPower 11 := Nat.pos_of_ne_zero nonzero
      cases read
      refine ⟨by omega, ?_, fun _ => by omega⟩
      simp only [Int.ofNat_eq_natCast]
      omega

/-- How far the number owns the reals below it, in quarters of its last place. -/
def lowGap (significand : Nat) (exponent : Int) : Nat :=
  if significand = binadeStart ∧ -1074 < exponent then 1 else 2

def lowerEnd (significand : Nat) (exponent : Int) : ℚ :=
  (4 * significand - lowGap significand exponent : ℚ) * 2 ^ (exponent - 2)

def upperEnd (significand : Nat) (exponent : Int) : ℚ :=
  (4 * significand + 2 : ℚ) * 2 ^ (exponent - 2)

/-- The reals that round to a number. -/
def Owns (significand : Nat) (exponent : Int) (real : ℚ) : Prop :=
  if significand % 2 = 0 then lowerEnd significand exponent ≤ real ∧
    real ≤ upperEnd significand exponent
  else lowerEnd significand exponent < real ∧ real < upperEnd significand exponent

theorem low_gap_cases (significand : Nat) (exponent : Int) :
    lowGap significand exponent = 1 ∧ significand = 2 ^ 52 ∨ lowGap significand exponent = 2 := by
  unfold lowGap
  split
  · rename_i special
    exact .inl ⟨rfl, special.1⟩
  · exact .inr rfl

theorem bounds_of_owns {significand : Nat} {exponent : Int} {real : ℚ}
    (owned : Owns significand exponent real) :
    lowerEnd significand exponent ≤ real ∧ real ≤ upperEnd significand exponent := by
  unfold Owns at owned
  split at owned
  · exact owned
  · exact ⟨owned.1.le, owned.2.le⟩

/-- A point that two numbers could both own, the upper end of one and the lower end of the other, is
owned by even ones only. -/
theorem even_of_owns_end {significand : Nat} {exponent : Int} {real : ℚ}
    (owned : Owns significand exponent real)
    (ends : real = lowerEnd significand exponent ∨ real = upperEnd significand exponent) :
    significand % 2 = 0 := by
  unfold Owns at owned
  split at owned
  · assumption
  · rcases ends with rfl | rfl
    · exact absurd owned.1 (lt_irrefl _)
    · exact absurd owned.2 (lt_irrefl _)

theorem two_zpow_pos (exponent : Int) : (0 : ℚ) < 2 ^ exponent := by positivity

theorem two_zpow_eq (exponent : Int) : (2 : ℚ) ^ exponent = 4 * 2 ^ (exponent - 2) := by
  rw [zpow_sub₀ (by norm_num)]
  norm_num
  ring

/-- A real that is owned by numbers of the same exponent is owned by one only. -/
theorem significand_unique {significand other : Nat} {exponent : Int} {real : ℚ}
    (owned : Owns significand exponent real) (otherOwned : Owns other exponent real) :
    ¬significand < other := by
  intro less
  obtain ⟨_, upper⟩ := bounds_of_owns owned
  obtain ⟨lower, _⟩ := bounds_of_owns otherOwned
  have unit := two_zpow_pos (exponent - 2)
  have step : (significand : ℚ) + 1 ≤ other := by exact_mod_cast less
  have gap : (lowGap other exponent : ℚ) ≤ 2 := by
    rcases low_gap_cases other exponent with ⟨known, _⟩ | known <;> rw [known] <;> norm_num
  have apart : (4 * significand + 2 : ℚ) ≤ 4 * other - lowGap other exponent := by linarith
  have ordered : upperEnd significand exponent ≤ lowerEnd other exponent :=
    mul_le_mul_of_nonneg_right apart unit.le
  have meets : real = upperEnd significand exponent := le_antisymm upper (ordered.trans lower)
  have touches : real = lowerEnd other exponent := le_antisymm (upper.trans ordered) lower
  have adjacent : (4 * significand + 2 : ℚ) = 4 * other - lowGap other exponent := by
    have ends : upperEnd significand exponent = lowerEnd other exponent :=
      by rw [← meets, ← touches]
    exact mul_right_cancel₀ unit.ne' ends
  -- neighbours of which both are even
  have even := even_of_owns_end owned (.inr meets)
  have otherEven := even_of_owns_end otherOwned (.inl touches)
  have next : (other : ℚ) ≤ significand + 1 := by linarith
  have next' : other ≤ significand + 1 := by exact_mod_cast next
  omega

/-- Above the least binade, the low end of a number lies at the end of the binade below or
higher. -/
theorem low_end_of_normal {significand : Nat} {exponent : Int}
    (double : IsDouble significand exponent)
    (normal : -1074 < exponent) : (2 ^ 54 - 1 : ℚ) ≤ 4 * significand -
    lowGap significand exponent := by
  have full : 2 ^ 52 ≤ significand := double.full normal
  rcases low_gap_cases significand exponent with ⟨known, special⟩ | known
  · rw [known, special]
    norm_num
  · -- the gap is wide, so this is not the least significand of the binade
    rw [known]
    have above : 2 ^ 52 + 1 ≤ significand := by
      refine Nat.lt_of_le_of_ne full fun least => ?_
      unfold lowGap at known
      rw [if_pos ⟨least.symm, normal⟩] at known
      cases known
    have above' : (2 ^ 52 + 1 : ℚ) ≤ significand := by exact_mod_cast above
    push_cast
    linarith

/-- Twice the unit of a number is at most the unit of a number of a higher exponent. -/
theorem unit_doubles {exponent higher : Int} (less : exponent < higher) :
    (2 : ℚ) * 2 ^ (exponent - 2) ≤ 2 ^ (higher - 2) := by
  have twice : (2 : ℚ) ^ (exponent - 1) = 2 * 2 ^ (exponent - 2) := by
    rw [show exponent - 1 = (exponent - 2) + 1 by ring, zpow_add_one₀ (by norm_num)]
    ring
  rw [← twice]
  exact zpow_le_zpow_right₀ (by norm_num) (by omega)

/-- A real that a number owns is below everything that a number of a higher exponent owns. -/
theorem exponent_unique {significand other : Nat} {exponent higher : Int} {real : ℚ}
    (double : IsDouble significand exponent) (otherDouble : IsDouble other higher)
    (owned : Owns significand exponent real) (otherOwned : Owns other higher real) :
    ¬exponent < higher := by
  intro less
  obtain ⟨_, upper⟩ := bounds_of_owns owned
  obtain ⟨lower, _⟩ := bounds_of_owns otherOwned
  have unit := two_zpow_pos (exponent - 2)
  have small : (significand : ℚ) + 1 ≤ 2 ^ 53 := by exact_mod_cast double.small
  have least := low_end_of_normal otherDouble (Int.lt_of_le_of_lt double.least less)
  have lifted : (2 ^ 54 - 1) * (2 * 2 ^ (exponent - 2)) ≤ lowerEnd other higher := by
    calc (2 ^ 54 - 1 : ℚ) * (2 * 2 ^ (exponent - 2))
        ≤ (2 ^ 54 - 1) * 2 ^ (higher - 2) :=
      mul_le_mul_of_nonneg_left (unit_doubles less) (by norm_num)
      _ ≤ lowerEnd other higher := mul_le_mul_of_nonneg_right least (two_zpow_pos _).le
  have below : upperEnd significand exponent ≤ (2 ^ 54 - 1) * (2 * 2 ^ (exponent - 2)) := by
    unfold upperEnd
    nlinarith
  have meets : real = upperEnd significand exponent :=
    le_antisymm upper ((below.trans lifted).trans lower)
  have even := even_of_owns_end owned (.inr meets)
  -- an even significand is not the last one of its binade, so something lies between
  have slack : (significand : ℚ) + 2 ≤ 2 ^ 53 := by
    have := double.small
    have room : significand + 2 ≤ 2 ^ 53 := by omega
    exact_mod_cast room
  have strict : upperEnd significand exponent < (2 ^ 54 - 1) * (2 * 2 ^ (exponent - 2)) := by
    unfold upperEnd
    nlinarith
  exact absurd (lower.trans upper) (not_le.mpr (strict.trans_le lifted))

theorem owner_unique {significand other : Nat} {exponent otherExponent : Int} {real : ℚ}
    (double : IsDouble significand exponent) (otherDouble : IsDouble other otherExponent)
    (owned : Owns significand exponent real) (otherOwned : Owns other otherExponent real) :
    significand = other ∧ exponent = otherExponent := by
  have notLess := exponent_unique double otherDouble owned otherOwned
  have notMore := exponent_unique otherDouble double otherOwned owned
  obtain rfl : exponent = otherExponent := by omega
  have notBelow := significand_unique owned otherOwned
  have notAbove := significand_unique otherOwned owned
  exact ⟨by omega, rfl⟩

theorem positive_of_owns {significand : Nat} {exponent : Int} {real : ℚ}
    (positive : 0 < significand) (owned : Owns significand exponent real) : 0 < real := by
  have unit := two_zpow_pos (exponent - 2)
  have least : (1 : ℚ) ≤ significand := by exact_mod_cast positive
  have gap : (lowGap significand exponent : ℚ) ≤ 2 := by
    rcases low_gap_cases significand exponent with ⟨known, _⟩ | known <;> rw [known] <;> norm_num
  have lower : 0 < lowerEnd significand exponent := mul_pos (by linarith) unit
  exact lower.trans_le (bounds_of_owns owned).1

def Digits.toRat (candidate : Digits) : ℚ :=
  candidate.digits * 10 ^ candidate.scale

theorem zpow_eq_div (base : ℚ) (exponent : Int) :
    base ^ exponent = base ^ exponent.toNat / base ^ (-exponent).toNat := by
  rcases le_total 0 exponent with positive | negative
  · rw [show (-exponent).toNat =
      0 by omega, pow_zero, div_one, ← zpow_natCast, Int.toNat_of_nonneg positive]
  · rw [show exponent.toNat = 0 by omega, pow_zero, one_div, ← zpow_natCast,
      Int.toNat_of_nonneg (by omega), zpow_neg, inv_inv]

/-- Comparing the two sides that were made whole compares the numbers. -/
theorem scaled_le_iff (bound digits : Nat) (power scale : Int) :
    bound * twoPower power.toNat * tenPower (-scale).toNat ≤
        digits * tenPower scale.toNat * twoPower (-power).toNat ↔
      (bound : ℚ) * 2 ^ power ≤ digits * 10 ^ scale := by
  rw [zpow_eq_div 2, zpow_eq_div 10, ← mul_div_assoc,
    ← mul_div_assoc, div_le_div_iff₀ (by positivity) (by positivity)]
  simp only [twoPower, tenPower, Nat.pow_eq]
  exact_mod_cast Iff.rfl

theorem scaled_ge_iff (bound digits : Nat) (power scale : Int) :
    digits * tenPower scale.toNat * twoPower (-power).toNat ≤
        bound * twoPower power.toNat * tenPower (-scale).toNat ↔
      (digits : ℚ) * 10 ^ scale ≤ bound * 2 ^ power := by
  rw [zpow_eq_div 2, zpow_eq_div 10, ← mul_div_assoc,
    ← mul_div_assoc, div_le_div_iff₀ (by positivity) (by positivity)]
  simp only [twoPower, tenPower, Nat.pow_eq]
  exact_mod_cast Iff.rfl

theorem lower_end_eq {significand : Nat} (positive : 0 < significand) (exponent : Int) :
    lowerEnd significand exponent =
      ((4 * significand - lowGap significand exponent : Nat) : ℚ) * 2 ^ (exponent - 2) := by
  have gap : lowGap significand exponent ≤ 4 * significand := by
    rcases low_gap_cases significand exponent with ⟨known, _⟩ | known <;> omega
  unfold lowerEnd
  rw [Nat.cast_sub gap]
  push_cast
  rfl

theorem accepts_iff_owns {significand : Nat} (positive : 0 < significand)
    (exponent : Int) (candidate : Digits) :
    (Target.ofSignificand significand exponent).accepts candidate = true ↔
      Owns significand exponent candidate.toRat := by
  have lower :=
    scaled_le_iff (4 * significand - lowGap significand exponent) candidate.digits (exponent - 2)
    candidate.scale
  have upper := scaled_ge_iff (4 * significand + 2) candidate.digits (exponent - 2) candidate.scale
  have lower' :=
    scaled_ge_iff (4 * significand - lowGap significand exponent) candidate.digits (exponent - 2)
    candidate.scale
  have upper' := scaled_le_iff (4 * significand + 2) candidate.digits (exponent - 2) candidate.scale
  have top : upperEnd significand exponent = ((4 * significand + 2 : Nat) : ℚ) *
      2 ^ (exponent - 2) := by
    unfold upperEnd
    push_cast
    rfl
  have form : (Target.ofSignificand significand exponent).accepts candidate =
      if significand % 2 == 0 then
        decide ((4 * significand - lowGap significand exponent) * twoPower (exponent - 2).toNat
            * tenPower (-candidate.scale).toNat ≤
          candidate.digits * tenPower candidate.scale.toNat * twoPower (-(exponent - 2)).toNat) &&
        decide (candidate.digits * tenPower candidate.scale.toNat * twoPower
          (-(exponent - 2)).toNat ≤
          (4 * significand + 2) * twoPower (exponent - 2).toNat * tenPower (-candidate.scale).toNat)
      else
        decide ((4 * significand - lowGap significand exponent) * twoPower (exponent - 2).toNat
            * tenPower (-candidate.scale).toNat <
          candidate.digits * tenPower candidate.scale.toNat * twoPower (-(exponent - 2)).toNat) &&
        decide (candidate.digits * tenPower candidate.scale.toNat * twoPower
          (-(exponent - 2)).toNat <
          (4 * significand + 2) * twoPower (exponent - 2).toNat * tenPower
          (-candidate.scale).toNat) := rfl
  unfold Owns
  rw [form, lower_end_eq positive, top]
  split
  · rename_i even
    rw [if_pos (by simpa using even), Bool.and_eq_true, decide_eq_true_eq,
      decide_eq_true_eq, lower, upper]
    rfl
  · rename_i odd
    rw [if_neg (by simpa using odd), Bool.and_eq_true, decide_eq_true_eq,
      decide_eq_true_eq, ← not_le, ← not_le, lower', upper', not_le, not_le]
    rfl

theorem accepted_of_pick {target : Target} {count : Nat} {candidate : Digits}
    (picked : target.pick count = some candidate) : target.accepts candidate = true := by
  unfold Target.pick at picked
  dsimp only at picked
  split at picked
  · cases picked
  · cases picked
    assumption
  · cases picked
    assumption
  · split at picked
    · cases picked
      assumption
    · split at picked
      · cases picked
        assumption
      · split at picked
        · cases picked
          assumption
        · cases picked
          assumption

theorem ten_power_le_of_digit_count {number : Nat} (positive : 0 < number) :
    10 ^ (digitCount number - 1) ≤ number := by
  rcases Nat.eq_zero_or_pos (digitCount number - 1) with none | some
  · rw [none]
    exact positive
  · by_contra less
    have short := (Nat.length_toDigits_le_iff (by decide) some).mpr (not_le.mp less)
    change digitCount number ≤ digitCount number - 1 at short
    omega

theorem lt_ten_power_digit_count (number : Nat) : number < 10 ^ digitCount number :=
  (Nat.length_toDigits_le_iff (by decide) Nat.length_toDigits_pos).mp le_rfl

theorem ten_power_leading_le {target : Target} (positive : 0 < target.value)
    (proper : 0 < target.denominator) :
    (10 : ℚ) ^ target.leading ≤ target.value / target.denominator := by
  have divisor : (0 : ℚ) < target.denominator := by exact_mod_cast proper
  unfold Target.leading
  split
  · rename_i whole
    have quotient : 0 < target.value / target.denominator := Nat.div_pos whole proper
    have counted : 0 < digitCount (target.value / target.denominator) := Nat.length_toDigits_pos
    have below := ten_power_le_of_digit_count quotient
    rw [show Int.ofNat (digitCount (target.value / target.denominator)) - 1
        = ((digitCount (target.value / target.denominator) - 1 : Nat) : Int) by
      simp only [Int.ofNat_eq_natCast]; omega, zpow_natCast, le_div_iff₀ divisor]
    have product := (Nat.mul_le_mul_right target.denominator below).trans (Nat.div_mul_le_self _ _)
    exact_mod_cast product
  · rename_i fraction
    dsimp only
    generalize reciprocal : (target.denominator + target.value - 1) / target.value = ceiling
    have above : target.denominator ≤ ceiling * target.value := by
      have remainder := Nat.mod_lt (target.denominator + target.value - 1) positive
      have division := Nat.div_add_mod (target.denominator + target.value - 1) target.value
      rw [reciprocal] at division
      rw [Nat.mul_comm]
      omega
    have small : ceiling ≤ 10 ^ digitCount (ceiling - 1) := by
      have := lt_ten_power_digit_count (ceiling - 1)
      omega
    have bounded : target.denominator ≤ 10 ^ digitCount (ceiling - 1) * target.value :=
      above.trans (Nat.mul_le_mul_right _ small)
    have bounded' : (target.denominator : ℚ) ≤ 10 ^ digitCount (ceiling - 1) * target.value := by
      exact_mod_cast bounded
    rw [Int.negOfNat_eq, Int.ofNat_eq_natCast, zpow_neg, zpow_natCast, le_div_iff₀ divisor,
      inv_mul_le_iff₀ (by positivity)]
    exact bounded'

theorem value_of_significand (significand : Nat) (exponent : Int) :
    ((Target.ofSignificand significand exponent).value : ℚ) /
      (Target.ofSignificand significand exponent).denominator = significand * 2 ^ exponent := by
  rw [two_zpow_eq, zpow_eq_div 2 (exponent - 2)]
  simp only [Target.ofSignificand, twoPower, Nat.pow_eq]
  push_cast
  ring

/-- The whole number of grid steps below a number, and one more, enclose it. -/
theorem floor_encloses (value : Nat) {divisor : Nat} (proper : 0 < divisor) (scale : Int) :
    ((value * tenPower (-scale).toNat / (divisor * tenPower scale.toNat) : Nat) : ℚ) * 10 ^ scale
        ≤ value / divisor ∧
      (value : ℚ) / divisor <
        ((value * tenPower (-scale).toNat / (divisor * tenPower scale.toNat) + 1 : Nat) : ℚ) * 10 ^
        scale := by
  have grid : 0 < divisor * tenPower scale.toNat :=
    Nat.mul_pos proper (show 0 < 10 ^ scale.toNat by positivity)
  have below :=
    Nat.div_mul_le_self (value * tenPower (-scale).toNat) (divisor * tenPower scale.toNat)
  have above := Nat.lt_mul_div_succ (value * tenPower (-scale).toNat) grid
  generalize value * tenPower (-scale).toNat /
    (divisor * tenPower scale.toNat) = floor at below above ⊢
  have divisor' : (0 : ℚ) < divisor := by exact_mod_cast proper
  simp only [tenPower, Nat.pow_eq] at below above
  have below' : (floor : ℚ) * (divisor * 10 ^ scale.toNat) ≤ value * 10 ^ (-scale).toNat := by
    exact_mod_cast below
  have above' : (value : ℚ) * 10 ^ (-scale).toNat < divisor * 10 ^ scale.toNat * (floor + 1) := by
    exact_mod_cast above
  rw [zpow_eq_div 10 scale, ← mul_div_assoc, ← mul_div_assoc, div_le_div_iff₀
    (by positivity) divisor', div_lt_div_iff₀ divisor' (by positivity)]
  push_cast
  constructor <;> linarith

theorem lower_end_lt (significand : Nat) (exponent : Int) :
    lowerEnd significand exponent < significand * 2 ^ exponent := by
  have unit := two_zpow_pos (exponent - 2)
  have gap : (1 : ℚ) ≤ lowGap significand exponent := by
    rcases low_gap_cases significand exponent with ⟨known, _⟩ | known <;> rw [known] <;> norm_num
  unfold lowerEnd
  rw [two_zpow_eq exponent]
  nlinarith

theorem lt_upper_end (significand : Nat) (exponent : Int) :
    significand * 2 ^ exponent < upperEnd significand exponent := by
  have unit := two_zpow_pos (exponent - 2)
  unfold upperEnd
  rw [two_zpow_eq exponent]
  nlinarith

/-- A real at or below the number that it does not own is at or below its lower end, and likewise
above. -/
theorem outside_of_not_owns {significand : Nat} {exponent : Int} {real : ℚ}
    (missed : ¬Owns significand exponent real) :
    (real ≤ significand * 2 ^ exponent → real ≤ lowerEnd significand exponent) ∧
      (significand * 2 ^ exponent ≤ real → upperEnd significand exponent ≤ real) := by
  have low := lower_end_lt significand exponent
  have high := lt_upper_end significand exponent
  constructor
  · intro below
    by_contra inside
    apply missed
    unfold Owns
    split
    · exact ⟨(not_le.mp inside).le, (below.trans_lt high).le⟩
    · exact ⟨not_le.mp inside, below.trans_lt high⟩
  · intro above
    by_contra inside
    apply missed
    unfold Owns
    split
    · exact ⟨(low.trans_le above).le, (not_le.mp inside).le⟩
    · exact ⟨low.trans_le above, not_le.mp inside⟩

/-- The grid of seventeen digits is finer than what a number owns. -/
theorem grid_lt_width {significand : Nat} {exponent : Int}
    (double : IsDouble significand exponent) :
    (significand : ℚ) * 2 ^ exponent / 10 ^ 16 < upperEnd significand exponent -
    lowerEnd significand exponent := by
  have unit := two_zpow_pos (exponent - 2)
  have small : (significand : ℚ) < 2 ^ 53 := by exact_mod_cast double.small
  have enough : (2 : ℚ) ^ 53 < 10 ^ 16 := by norm_num
  have wide : (4 * significand : ℚ) < 10 ^ 16 * (2 + lowGap significand exponent) := by
    rcases low_gap_cases significand exponent with ⟨known, special⟩ | known
    · rw [known, special]
      norm_num
    · rw [known]
      push_cast
      linarith
  unfold upperEnd lowerEnd
  rw [two_zpow_eq exponent, div_lt_iff₀ (by positivity)]
  nlinarith

theorem pick_seventeen {significand : Nat} {exponent : Int} (positive : 0 < significand)
    (double : IsDouble significand exponent) :
    (Target.ofSignificand significand exponent).pick 17 ≠ none := by
  have proper : 0 < (Target.ofSignificand significand exponent).denominator :=
    show 0 < 2 ^ (-(exponent - 2)).toNat by positivity
  have present : 0 < (Target.ofSignificand significand exponent).value :=
    show 0 < 4 * significand * 2 ^ (exponent - 2).toNat by positivity
  have leading := ten_power_leading_le present proper
  rw [value_of_significand] at leading
  intro missed
  unfold Target.pick at missed
  dsimp only at missed
  generalize scaleIs : (Target.ofSignificand significand exponent).leading -
    Int.ofNat 17 + 1 = scale at missed
  have encloses := floor_encloses (Target.ofSignificand significand exponent).value proper scale
  rw [value_of_significand] at encloses
  generalize (Target.ofSignificand significand exponent).value * tenPower (-scale).toNat /
    ((Target.ofSignificand significand exponent).denominator * tenPower scale.toNat) =
    floor at missed encloses
  split at missed
  · rename_i belowMissed aboveMissed
    have below := accepts_iff_owns positive exponent { digits := floor, scale := scale }
    have above := accepts_iff_owns positive exponent { digits := floor + 1, scale := scale }
    rw [belowMissed] at below
    rw [aboveMissed] at above
    have low := (outside_of_not_owns (fun owned => Bool.false_ne_true (below.mpr owned))).1
        encloses.1
    have high := (outside_of_not_owns (fun owned => Bool.false_ne_true (above.mpr owned))).2
        encloses.2.le
    simp only [Digits.toRat] at low high
    push_cast at high
    have fine := grid_lt_width double
    have step : (10 : ℚ) ^ scale = 10 ^ (Target.ofSignificand significand exponent).leading / 10 ^
        16 := by
      rw [← scaleIs, show (Target.ofSignificand significand exponent).leading - Int.ofNat 17 + 1
        = (Target.ofSignificand significand exponent).leading - (16 : Nat) by
          simp only [Int.ofNat_eq_natCast]; push_cast; ring, zpow_sub₀ (by norm_num), zpow_natCast]
    have coarse : (10 : ℚ) ^ scale ≤ significand * 2 ^ exponent / 10 ^ 16 := by
      rw [step]
      exact div_le_div_of_nonneg_right leading (by norm_num)
    linarith
  · cases missed
  · cases missed
  · split at missed
    · cases missed
    · split at missed
      · cases missed
      · split at missed <;> cases missed

theorem trim_to_rat (fuel : Nat) (result : Digits) : (result.trim fuel).toRat = result.toRat := by
  induction fuel generalizing result with
  | zero => rfl
  | succ fuel ih =>
      unfold Digits.trim
      split
      · rename_i divisible
        rw [ih]
        have whole : (result.digits / 10 * 10 : Nat) = result.digits := Nat.div_mul_cancel
          (Nat.dvd_of_mod_eq_zero divisible.2)
        have whole' : ((result.digits / 10 : Nat) : ℚ) * 10 = result.digits :=
          by exact_mod_cast whole
        simp only [Digits.toRat]
        rw [zpow_add_one₀ (by norm_num), ← whole']
        ring
      · rfl

theorem owns_shortest {significand : Nat} {exponent : Int} (positive : 0 < significand)
    (double : IsDouble significand exponent) :
    Owns significand exponent (shortest significand exponent).toRat := by
  unfold shortest
  dsimp only
  rw [trim_to_rat]
  cases found : (List.range 17).findSome? fun index =>
      (Target.ofSignificand significand exponent).pick (index + 1) with
  | none =>
      rw [List.findSome?_eq_none_iff] at found
      exact absurd (found 16 (by decide)) (pick_seventeen positive double)
  | some candidate =>
      obtain ⟨index, _, picked⟩ := List.exists_of_findSome?_eq_some found
      exact (accepts_iff_owns positive exponent candidate).mp (accepted_of_pick picked)

end Decimal
end Interplay
