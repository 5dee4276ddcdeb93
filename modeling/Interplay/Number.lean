import Interplay.Decimal.Shortest

/-!
Numbers that are whole or floating-point.

A whole number and a floating-point number compare by their exact values, never by converting one
into the other's type; their texts differ even where the values agree.
-/

namespace Interplay

inductive Number where
  | int (number : Int)
  | float (number : Float)
  deriving DecidableEq

namespace Number

/-- The most digits that a whole number is written with or read from. -/
def digitLimit : Nat := 4300

def reading : Number → Decimal.Reading
  | int number => .finite (decide (number < 0)) number.natAbs 0
  | float number => Decimal.read number

def below (left right : Number) : Bool :=
  left.reading.below right.reading

def same (left right : Number) : Bool :=
  left.reading.same right.reading

/-- Equal or below; false as soon as one side is undefined. -/
def atMost (left right : Number) : Bool :=
  left.below right || left.same right

/-- The nearest floating-point number, unless a whole number is beyond all of them. -/
def toFloat? : Number → Option Float
  | int number =>
    let nearest := Float.ofInt number
    match Decimal.read nearest with
    | .infinite _ => none
    | _ => some nearest
  | float number => some number

def isZero (number : Number) : Bool :=
  number.same (int 0)

end Number

end Interplay
