import Interplay.Keyed
import Interplay.Number

/-!
Dynamic values: what formulas compute, what signals hold and what persisted documents consist of.

A scalar may also be the key of a mapping.  Mappings keep their entries in insertion order.
-/

namespace Interplay

/-- Each occurrence of a not-a-number has its own identity: it equals itself and no other
occurrence. -/
inductive Scalar where
  | null
  | bool (flag : Bool)
  | int (number : Int)
  | float (number : Float)
  | nan (occurrence : Nat)
  | text (content : String)
  /-- A formula closure, named by its place in the table of the run that made it. -/
  | closure (handle : Nat) (tag : String)

inductive Value where
  | scalar (content : Scalar)
  | list (items : List Value)
  | mapping (entries : List (Scalar × Value))

/-- The entries of a mapping, in insertion order. -/
abbrev Entries := Keyed Scalar Value

namespace Scalar

def number? : Scalar → Option Number
  | bool flag => some (.int (if flag then 1 else 0))
  | int number => some (.int number)
  | float number => some (.float number)
  | nan _ => some (.float (0.0 / 0.0))
  | _ => none

/-- Whether an optional field of this content counts as given. -/
def isFilled : Scalar → Bool
  | null => false
  | bool flag => flag
  | int number => number != 0
  | float number => !(Number.float number).isZero
  | nan _ => true
  | text content => !content.isEmpty
  | closure .. => true

/-- Equality of keys and of values: numbers and truth values by exact value, texts by content, a
not-a-number by occurrence and a closure by its place. -/
def same : Scalar → Scalar → Bool
  | null, null => true
  | text left, text right => left == right
  | nan left, nan right => left == right
  | closure left _, closure right _ => left == right
  | left, right =>
    match left.number?, right.number? with
    | some leftNumber, some rightNumber => leftNumber.same rightNumber
    | _, _ => false

def isText : Scalar → Bool
  | text _ => true
  | _ => false

def typeName : Scalar → String
  | null => "NoneType"
  | bool _ => "bool"
  | int _ => "int"
  | float _ => "float"
  | nan _ => "float"
  | text _ => "str"
  | closure .. => "FormulaClosure"

end Scalar

instance : BEq Scalar := ⟨Scalar.same⟩

namespace Value

@[match_pattern] abbrev null : Value := .scalar .null
@[match_pattern] abbrev bool (flag : Bool) : Value := .scalar (.bool flag)
@[match_pattern] abbrev int (number : Int) : Value := .scalar (.int number)
@[match_pattern] abbrev float (number : Float) : Value := .scalar (.float number)
@[match_pattern] abbrev text (content : String) : Value := .scalar (.text content)
@[match_pattern] abbrev closure (handle : Nat) (tag : String) : Value :=
  .scalar (.closure handle tag)

instance : Inhabited Value := ⟨null⟩

def ofNat (number : Nat) : Value := .int (Int.ofNat number)

/-- A computed floating-point number; one that is undefined gets the given occurrence. -/
def ofFloat (occurrence : Nat) (number : Float) : Value :=
  if (Decimal.read number).isUndefined then .scalar (.nan occurrence) else .float number

/-- The result of a computation: a not-a-number gets the given occurrence, whatever it was computed
from. -/
def renew (occurrence : Nat) : Value → Value
  | scalar (.nan _) => scalar (.nan occurrence)
  | other => other

/-- Whether an optional field counts as given: null, false, zero and everything empty do not. -/
def isFilled : Value → Bool
  | scalar content => content.isFilled
  | list items => !items.isEmpty
  | mapping entries => !entries.isEmpty

/-- Formula truth: as `isFilled`, but a not-a-number is false. -/
def isTrue : Value → Bool
  | scalar (.nan _) => false
  | value => value.isFilled

def orElse (first second : Value) : Value :=
  if first.isFilled then first else second

def filled (value : Value) : Value :=
  value.orElse null

def isNull : Value → Bool
  | null => true
  | _ => false

def typeName : Value → String
  | scalar content => content.typeName
  | list _ => "list"
  | mapping _ => "dict"

end Value

end Interplay
