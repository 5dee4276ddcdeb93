/-!
Exact readings of 64-bit floating-point numbers.

A finite number is a whole significand times a power of two.  Everything that must be exact
(comparing with whole numbers, printing) works on this reading instead of on the machine operations.

With a fixed number of decimal places the exact value is rounded to the nearest multiple of the last
place, and a half goes to the even one.
-/

namespace Interplay
namespace Decimal

/-- What the bits of a floating-point number say. -/
inductive Reading where
  | finite (negative : Bool) (significand : Nat) (exponent : Int)
  | infinite (negative : Bool)
  | undefined
  deriving DecidableEq

def twoPower (exponent : Nat) : Nat := Nat.pow 2 exponent

def tenPower (exponent : Nat) : Nat := Nat.pow 10 exponent

/-- The significand of the smallest number of a binade; below it the spacing halves. -/
def binadeStart : Nat := twoPower 52

def readBits (bits : Nat) : Reading :=
  let negative := bits / twoPower 63 % 2 == 1
  let exponentField := bits / twoPower 52 % twoPower 11
  let fraction := bits % twoPower 52
  if exponentField = twoPower 11 - 1 then
    if fraction = 0 then .infinite negative else .undefined
  else if exponentField = 0 then
    .finite negative fraction (-1074)
  else
    .finite negative (fraction + binadeStart) (Int.ofNat exponentField - 1075)

def read (number : Float) : Reading :=
  readBits number.toBits.toNat

namespace Reading

def isUndefined : Reading → Bool
  | undefined => true
  | _ => false

def signed (negative : Bool) (significand : Nat) : Int :=
  if negative then -(Int.ofNat significand) else Int.ofNat significand

/-- Both numbers scaled to whole numbers by one common power of two. -/
def aligned (leftMantissa leftExponent rightMantissa rightExponent : Int) : Int × Int :=
  let base := min leftExponent rightExponent
  (leftMantissa * Int.ofNat (twoPower (leftExponent - base).toNat),
   rightMantissa * Int.ofNat (twoPower (rightExponent - base).toNat))

/-- Strictly below, as real numbers; an undefined number is below nothing. -/
def below : Reading → Reading → Bool
  | undefined, _ => false
  | _, undefined => false
  | infinite leftNegative, infinite rightNegative => leftNegative && !rightNegative
  | infinite leftNegative, finite .. => leftNegative
  | finite .., infinite rightNegative => !rightNegative
  | finite leftNegative leftSignificand leftExponent,
      finite rightNegative rightSignificand rightExponent =>
    let pair := aligned (signed leftNegative leftSignificand) leftExponent
      (signed rightNegative rightSignificand) rightExponent
    decide (pair.1 < pair.2)

/-- Equal as real numbers; an undefined number equals nothing, and both zeros are one number. -/
def same : Reading → Reading → Bool
  | undefined, _ => false
  | _, undefined => false
  | infinite leftNegative, infinite rightNegative => leftNegative == rightNegative
  | infinite _, finite .. => false
  | finite .., infinite _ => false
  | finite leftNegative leftSignificand leftExponent,
      finite rightNegative rightSignificand rightExponent =>
    let pair := aligned (signed leftNegative leftSignificand) leftExponent
      (signed rightNegative rightSignificand) rightExponent
    pair.1 == pair.2

end Reading

/-- The quotient rounded to the nearest whole number, a half going to the even neighbour. -/
def roundDiv (numerator denominator : Nat) : Nat :=
  let floor := numerator / denominator
  let twice := 2 * (numerator % denominator)
  if twice < denominator then floor
  else if denominator < twice then floor + 1
  else if floor % 2 = 0 then floor else floor + 1

def fixedUnits (places significand : Nat) (exponent : Int) : Nat :=
  roundDiv (significand * tenPower places * twoPower exponent.toNat) (twoPower (-exponent).toNat)

/-- Units of `10 ^ -places` written with a point; there is at least one digit before it. -/
def writeFixed (places units : Nat) : String :=
  let fraction := toString (units % tenPower places)
  let padding := String.ofList (List.replicate (places - fraction.length) '0')
  if places = 0 then toString units
  else toString (units / tenPower places) ++ "." ++ padding ++ fraction

def fixed (places : Nat) (number : Float) : String :=
  match read number with
  | .undefined => "nan"
  | .infinite negative => if negative then "-inf" else "inf"
  | .finite negative significand exponent =>
    (if negative then "-" else "") ++ writeFixed places (fixedUnits places significand exponent)

end Decimal
end Interplay
