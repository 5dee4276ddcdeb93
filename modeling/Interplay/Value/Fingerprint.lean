import Interplay.Sorting
import Interplay.Value.Display

/-!
Fingerprints: one text per argument mapping, whatever the order of its keys.

Keys are sorted at every level, texts are escaped to ASCII and nothing is padded.  Keys that cannot
be ordered (a text beside a number) have no fingerprint, and neither have closures as keys and
numbers that are too long to be written.
-/

namespace Interplay

namespace Scalar

def comparable : Scalar → Scalar → Bool
  | text _, text _ => true
  | left, right => left.number?.isSome && right.number?.isSome

def keyBelow : Scalar → Scalar → Bool
  | text left, text right => decide (left < right)
  | left, right =>
    match left.number?, right.number? with
    | some leftNumber, some rightNumber => leftNumber.below rightNumber
    | _, _ => false

def keyText : Scalar → String
  | null => "null"
  | bool flag => if flag then "true" else "false"
  | int number => toString number
  | float number =>
    match Decimal.read number with
    | .undefined => "NaN"
    | .infinite negative => if negative then "-Infinity" else "Infinity"
    | .finite .. => Decimal.text number
  | nan _ => "NaN"
  | text content => content
  | closure handle tag => closureText handle tag

def fingerprint : Scalar → String
  | text content => Text.asciiQuoted content
  | closure handle tag => Text.asciiQuoted (closureText handle tag)
  | other => other.keyText

def isClosure : Scalar → Bool
  | closure .. => true
  | _ => false

end Scalar

namespace Fingerprint

/-- Texts have an order; among numbers there may be undefined ones, which have none. -/
def sortFields (fields : List (Scalar × String)) : List (Scalar × String) :=
  if fields.all fun field => field.1.isText then
    fields.mergeSort fun left right => !right.1.keyBelow left.1
  else
    Sorting.ascending (fun left right => left.1.keyBelow right.1) fields

def areOrderable : List (Scalar × String) → Bool
  | [] => true
  | [field] => !field.1.isClosure
  | first :: rest => rest.all fun field => first.1.comparable field.1

/-- Sorted fields joined by commas; none if some pair of keys cannot be ordered. -/
def joinFields (fields : List (Scalar × String)) : Option String :=
  if areOrderable fields then
    let texts := (sortFields fields).map fun field => Text.asciiQuoted field.1.keyText ++ ":" ++
        field.2
    some ("\x7b" ++ String.intercalate "," texts ++ "\x7d")
  else
    none

mutual

def ofValue : Value → Option String
  | .scalar content => some content.fingerprint
  | .list items => do
    let texts ← ofItems items
    return "[" ++ String.intercalate "," texts ++ "]"
  | .mapping entries => do
    let fields ← ofFields entries
    joinFields fields

def ofItems : List Value → Option (List String)
  | [] => some []
  | item :: rest => do
    let first ← ofValue item
    let others ← ofItems rest
    return first :: others

def ofFields : List (Scalar × Value) → Option (List (Scalar × String))
  | [] => some []
  | (key, value) :: rest => do
    let first ← ofValue value
    let others ← ofFields rest
    return (key, first) :: others

end

end Fingerprint

/-- The fingerprint of an argument mapping. -/
def Entries.fingerprint (entries : Entries) : Option String :=
  if Value.entriesWritable entries then Fingerprint.ofValue (.mapping entries) else none

end Interplay
