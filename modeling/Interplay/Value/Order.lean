import Interplay.Fault
import Interplay.Value.Entries

/-!
Comparison and sums of values, where types that do not fit are a failure.

Numbers and truth values compare by exact value, texts by code points, and lists by their first
difference.  Nothing else has an order.
-/

namespace Interplay

inductive Comparison where
  | below
  | atMost
  | above
  | atLeast
  deriving DecidableEq

namespace Comparison

def symbol : Comparison → String
  | below => "<"
  | atMost => "<="
  | above => ">"
  | atLeast => ">="

def swapped : Comparison → Comparison
  | below => above
  | atMost => atLeast
  | above => below
  | atLeast => atMost

def ofNumbers (comparison : Comparison) (left right : Number) : Bool :=
  match comparison with
  | below => left.below right
  | atMost => left.atMost right
  | above => right.below left
  | atLeast => right.atMost left

def ofTexts (comparison : Comparison) (left right : String) : Bool :=
  match comparison with
  | below => decide (left < right)
  | atMost => !decide (right < left)
  | above => decide (right < left)
  | atLeast => !decide (left < right)

def ofLengths (comparison : Comparison) (left right : Nat) : Bool :=
  match comparison with
  | below => decide (left < right)
  | atMost => decide (left ≤ right)
  | above => decide (right < left)
  | atLeast => decide (right ≤ left)

end Comparison

namespace Scalar

def compare (comparison : Comparison) (left right : Scalar) : Except Failure Bool :=
  match left, right with
  | text leftContent, text rightContent => .ok (comparison.ofTexts leftContent rightContent)
  | _, _ =>
    match left.number?, right.number? with
    | some leftNumber, some rightNumber => .ok (comparison.ofNumbers leftNumber rightNumber)
    | _, _ => .error (.mishap (.notComparable comparison.symbol left.typeName right.typeName))

end Scalar

namespace Value

mutual

def compare (comparison : Comparison) : Value → Value → Except Failure Bool
  | scalar left, scalar right => left.compare comparison right
  | list left, list right => compareItems comparison left right
  | left, right => .error (.mishap (.notComparable comparison.symbol left.typeName right.typeName))

def compareItems (comparison : Comparison) : List Value → List Value → Except Failure Bool
  | left :: leftRest, right :: rightRest =>
    if left.same right then compareItems comparison leftRest rightRest
    else compare comparison left right
  | left, right => .ok (comparison.ofLengths left.length right.length)

end

/-- One more than a number. -/
def successor : Value → Except Failure Value
  | int number => .ok (int (number + 1))
  | bool flag => .ok (int (if flag then 2 else 1))
  | float number => .ok (float (number + 1.0))
  | scalar (.nan occurrence) => .ok (scalar (.nan occurrence))
  | text _ => .error (.mishap (.notAppendable "str" "int"))
  | list _ => .error (.mishap (.notAppendable "list" "int"))
  | other => .error (.mishap (.notSummable "+" other.typeName "int"))

def addTo (total : Float) : Value → Except Failure Float
  | scalar content =>
    match content.number? with
    | none => .error (.mishap (.notSummable "+=" "float" content.typeName))
    | some number =>
      match number.toFloat? with
      | some addend => .ok (total + addend)
      | none => .error (.mishap .tooLarge)
  | other => .error (.mishap (.notSummable "+=" "float" other.typeName))

/-- Whether a text is part of a value: of a text, of a list or among the keys of a mapping. -/
def holds (part : String) : Value → Except Failure Bool
  | text content => .ok (Fault.occursIn part.toList content.toList)
  | list items => .ok (items.any fun item => item.same (text part))
  | mapping entries => .ok (Keyed.contains (.text part) entries)
  | other => .error (.mishap (.notSearchable other.typeName))

@[simp] theorem successor_int (number : Int) : successor (int number) = .ok (int (number + 1)) :=
  rfl

end Value
end Interplay
