import Interplay.Value

/-!
The entries of mappings, the fields of values that are mappings, and structural equality of values,
as signals use it to tell a change from a repetition.

Lists compare position by position, and mappings key by key whatever their order.
-/

namespace Interplay
namespace Entries

/-- Later entries win; keys keep the place where they first stood. -/
def merge (base extra : Entries) : Entries :=
  extra.foldl (fun entries entry => Keyed.insert entry.1 entry.2 entries) base

def keys (entries : Entries) : List Value :=
  entries.map fun entry => .scalar entry.1

end Entries

namespace Value

/-- The value of a named field; null if there is none or this is not a mapping. -/
def field (name : String) : Value → Value
  | mapping entries => (Keyed.find? (.text name) entries).getD null
  | _ => null

def field? (name : String) : Value → Option Value
  | mapping entries => Keyed.find? (.text name) entries
  | _ => none

/-- The entries of an object; anything else has none. -/
def sections : Value → Entries
  | mapping entries => entries
  | _ => []

mutual

def same : Value → Value → Bool
  | scalar left, scalar right => left.same right
  | list left, list right => sameItems left right
  | mapping left, mapping right => left.length == right.length && sameEntries left right
  | _, _ => false

def sameItems : List Value → List Value → Bool
  | [], [] => true
  | left :: leftRest, right :: rightRest => same left right && sameItems leftRest rightRest
  | _, _ => false

def sameEntries : List (Scalar × Value) → List (Scalar × Value) → Bool
  | [], _ => true
  | (key, left) :: rest, entries =>
    (match Keyed.find? key entries with
    | some right => same left right
    | none => false) && sameEntries rest entries

end

instance : BEq Value := ⟨same⟩

end Value
end Interplay
