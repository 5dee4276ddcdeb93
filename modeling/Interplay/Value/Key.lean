import Interplay.Fault
import Interplay.Value.Entries

/-!
Values as keys and as sequences, where a value of the wrong type is a failure.
-/

namespace Interplay

class Key (κ : Type) where
  toValue : κ → Value

instance : Key String where
  toValue := Value.text

instance : Key Scalar where
  toValue := Value.scalar

namespace Value

/-- The text of a value, which has to have one. -/
def written (value : Value) : Except Failure String :=
  if value.isWritable then .ok value.display else .error (.mishap .notWritable)

def toKey : Value → Except Failure Scalar
  | scalar content => .ok content
  | other => .error (.mishap (.unhashable other.typeName))

/-- The key to take out of a table, if there is anything to take; an empty table does not even look
at it. -/
def removalKey {α : Type} (table : List α) (value : Value) : Except Failure (Option Scalar) :=
  if table.isEmpty then .ok none else value.toKey.map some

/-- What iterating over a value gives, in order: the characters of a text and the keys of a
mapping. -/
def iterate : Value → Except Failure (List Value)
  | list items => .ok items
  | mapping entries => .ok (Entries.keys entries)
  | text content => .ok (content.toList.map fun character => text (String.singleton character))
  | other => .error (.mishap (.notIterable other.typeName))

def elements (value : Value) : Except Failure (List Value) :=
  if value.isFilled then value.iterate else .ok []

def unpack (value : Value) : Except Failure (Value × Value) :=
  match value.iterate with
  | .ok [first, second] => .ok (first, second)
  | .ok parts => .error (.mishap (.notTwo parts.length))
  | .error _ => .error (.mishap (.notUnpackable value.typeName))

/-- A mapping from pairs of a key and a value; a later pair replaces an earlier one. -/
def ofPairs (pairs : List Value) : Except Failure Entries :=
  pairs.foldlM (fun entries pair => do
    let (key, content) ← pair.unpack
    return Keyed.insert (← key.toKey) content entries) []

def spread : Value → Except Failure Entries
  | mapping entries => .ok entries
  | other => .error (.mishap (.notMapping other.typeName))

def spreadFilled (value : Value) : Except Failure Entries :=
  if value.isFilled then value.spread else .ok []

/-- One argument from an element of a list: a list or a text of exactly two parts. -/
def toPair (index : Nat) : Value → Except Failure (Value × Value)
  | list [first, second] => .ok (first, second)
  | list items => .error (.mishap (.unevenPair index items.length))
  | text content =>
    match content.toList with
    | [first, second] => .ok (text (String.singleton first), text (String.singleton second))
    | characters => .error (.mishap (.unevenPair index characters.length))
  | mapping entries =>
    match entries with
    | [first, second] => .ok (scalar first.1, scalar second.1)
    | others => .error (.mishap (.unevenPair index others.length))
  | _ => .error (.mishap (.notPair index))

def pairsFrom : Nat → List Value → Entries → Except Failure Entries
  | _, [], entries => .ok entries
  | index, item :: rest, entries =>
    match toPair index item with
    | .error failure => .error failure
    | .ok (first, second) =>
      match first.toKey with
      | .error failure => .error failure
      | .ok key => pairsFrom (index + 1) rest (Keyed.insert key second entries)

def toArguments (value : Value) : Except Failure Entries :=
  match value with
  | mapping entries => .ok entries
  | other =>
    match other.elements with
    | .error failure => .error failure
    | .ok items => pairsFrom 0 items []

/-- The item at a position of a list; a negative position counts from the end. -/
def item (items : List Value) (position : Value) : Except Failure Value :=
  let found := fun (index : Int) =>
    let place := if index < 0 then index + items.length else index
    match if place < 0 then none else items[place.toNat]? with
    | some content => Except.ok content
    | none => .error (.mishap .missingItem)
  match position with
  | int index => found index
  | bool flag => found (if flag then 1 else 0)
  | other => .error (.mishap (.notPosition other.typeName))

end Value
end Interplay
