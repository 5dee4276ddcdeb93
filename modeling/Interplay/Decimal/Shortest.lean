import Interplay.Decimal.Binary

/-!
The fewest decimal digits that read back as the same number.

For one digit, two digits, and so on, the two decimals next to the number are tested against the
interval of reals that round to it; the first count with a hit wins, and of two hits the nearer one,
a tie going to the even digit.  Seventeen digits always suffice.
-/

namespace Interplay
namespace Decimal

structure Digits where
  digits : Nat
  scale : Int
  deriving DecidableEq

/-- A positive number and the interval that rounds to it, as fractions over one denominator. -/
structure Target where
  value : Nat
  low : Nat
  high : Nat
  denominator : Nat
  inclusive : Bool

def digitCount (number : Nat) : Nat :=
  (Nat.toDigits 10 number).length

/-- The halfway points to the neighbours, in quarters of the last binary place. -/
def Target.ofSignificand (significand : Nat) (exponent : Int) : Target :=
  let lowGap := if significand = binadeStart ∧ -1074 < exponent then 1 else 2
  let power := exponent - 2
  let scaleUp := twoPower power.toNat
  { value := 4 * significand * scaleUp
    low := (4 * significand - lowGap) * scaleUp
    high := (4 * significand + 2) * scaleUp
    denominator := twoPower (-power).toNat
    inclusive := significand % 2 == 0 }

def Target.leading (target : Target) : Int :=
  if target.denominator ≤ target.value then
    Int.ofNat (digitCount (target.value / target.denominator)) - 1
  else
    let reciprocal := (target.denominator + target.value - 1) / target.value
    Int.negOfNat (digitCount (reciprocal - 1))

/-- `digits * 10 ^ scale` against `bound / denominator`, both made whole. -/
def Target.scaled (target : Target) (candidate : Digits) (bound : Nat) : Nat × Nat :=
  (candidate.digits * tenPower candidate.scale.toNat * target.denominator,
   bound * tenPower (-candidate.scale).toNat)

def Target.accepts (target : Target) (candidate : Digits) : Bool :=
  let lower := target.scaled candidate target.low
  let upper := target.scaled candidate target.high
  if target.inclusive then
    decide (lower.2 ≤ lower.1) && decide (upper.1 ≤ upper.2)
  else
    decide (lower.2 < lower.1) && decide (upper.1 < upper.2)

def Target.distance (target : Target) (candidate : Digits) : Nat :=
  let pair := target.scaled candidate target.value
  max pair.1 pair.2 - min pair.1 pair.2

/-- The better of the two neighbours of the number on the grid with `count` digits, if one reads
back. -/
def Target.pick (target : Target) (count : Nat) : Option Digits :=
  let scale := target.leading - Int.ofNat count + 1
  let floor := target.value * tenPower (-scale).toNat / (target.denominator * tenPower scale.toNat)
  let below : Digits := { digits := floor, scale := scale }
  let above : Digits := { digits := floor + 1, scale := scale }
  match target.accepts below, target.accepts above with
  | false, false => none
  | true, false => some below
  | false, true => some above
  | true, true =>
    if target.distance below < target.distance above then some below
    else if target.distance above < target.distance below then some above
    else if floor % 2 = 0 then some below else some above

/-- Drops trailing zeros; the fuel bounds the number of digits. -/
def Digits.trim : Nat → Digits → Digits
  | 0, result => result
  | fuel + 1, result =>
    if result.digits ≠ 0 ∧ result.digits % 10 = 0 then
      Digits.trim fuel { digits := result.digits / 10, scale := result.scale + 1 }
    else
      result

def shortest (significand : Nat) (exponent : Int) : Digits :=
  let target := Target.ofSignificand significand exponent
  let found := (List.range 17).findSome? fun index => target.pick (index + 1)
  let result := found.getD { digits := target.value / target.denominator, scale := 0 }
  result.trim (digitCount result.digits)

/-- Where positional writing ends and how an exponent is written. -/
structure Layout where
  /-- The least exponent of the leading digit that is written positionally. -/
  leastPositional : Int
  /-- The first exponent that is written with an exponent mark again. -/
  endPositional : Int
  exponentWidth : Nat

def layout : Layout :=
  { leastPositional := -4, endPositional := 16, exponentWidth := 2 }

def zeros (count : Nat) : String :=
  String.ofList (List.replicate count '0')

def Layout.exponentText (form : Layout) (exponent : Int) : String :=
  let digits := toString exponent.natAbs
  let padded := zeros (form.exponentWidth - digits.length) ++ digits
  "e" ++ (if exponent < 0 then "-" else "+") ++ padded

def Layout.write (form : Layout) (result : Digits) : String :=
  let characters := Nat.toDigits 10 result.digits
  let count := Int.ofNat characters.length
  let exponent := result.scale + count - 1
  if form.leastPositional ≤ exponent ∧ exponent < form.endPositional then
    if exponent < 0 then
      "0." ++ zeros (-exponent - 1).toNat ++ String.ofList characters
    else if count ≤ exponent + 1 then
      String.ofList characters ++ zeros (exponent + 1 - count).toNat ++ ".0"
    else
      let whole := (exponent + 1).toNat
      String.ofList (characters.take whole) ++ "." ++ String.ofList (characters.drop whole)
  else
    let tail := characters.drop 1
    String.ofList (characters.take 1) ++ (if tail.isEmpty then "" else "." ++ String.ofList tail)
      ++ form.exponentText exponent

/-- The text of a floating-point number; a number without a fraction keeps its `.0`. -/
def text (number : Float) : String :=
  match read number with
  | .undefined => "nan"
  | .infinite negative => if negative then "-inf" else "inf"
  | .finite negative significand exponent =>
    (if negative then "-" else "") ++
      (if significand = 0 then "0.0" else layout.write (shortest significand exponent))

end Decimal
end Interplay
