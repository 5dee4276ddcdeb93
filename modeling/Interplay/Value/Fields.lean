import Interplay.Value.Key

/-!
Documents as values: objects built from named fields, and fields read leniently.
-/

namespace Interplay
namespace Value

def object (fields : List (String × Value)) : Value :=
  mapping (fields.map fun field => (.text field.1, field.2))

def texts (contents : List String) : Value :=
  list (contents.map text)

def ofOption : Option String → Value
  | some content => text content
  | none => null

def fieldText (name : String) (source : Value) : String :=
  match source.field name with
  | null => ""
  | other => other.display

def fieldItems (name : String) (source : Value) : Except Failure (List Value) :=
  (source.field name).elements

def fieldEntries (name : String) (source : Value) : Except Failure Entries :=
  match (source.field name).orElse (mapping []) with
  | mapping entries => .ok entries
  | other => .error (.mishap (.noAttribute other.typeName "items"))

def fieldOr (source : Value) (name : String) (standard : Value) : Value :=
  (source.field? name).getD standard

def need (name : String) : Value → Except Failure Value
  | mapping entries =>
    match Keyed.find? (.text name) entries with
    | some content => .ok content
    | none => .error (.mishap (.missingKey (text name)))
  | list _ => .error (.mishap (.notPosition "str"))
  | text _ => .error (.mishap .notTextPosition)
  | other => .error (.mishap (.notSubscriptable other.typeName))

def needItems (name : String) (source : Value) : Except Failure (List Value) := do
  (← source.need name).iterate

/-- The count that a note holds; anything but a whole number counts as zero. -/
def toNat : Value → Nat
  | int number => number.toNat
  | _ => 0

end Value
end Interplay
