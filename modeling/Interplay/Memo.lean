import Interplay.Keyed
import Interplay.Value

/-!
The last result of each memoized formula, kept with the fingerprint of the arguments it was computed
for.
-/

namespace Interplay

structure Memo (Name Print : Type) where
  entries : Keyed Name (Print × Value)

namespace Memo

variable {Name Print : Type} [BEq Name] [BEq Print]

def empty : Memo Name Print := { entries := [] }

def lookup (name : Name) (fingerprint : Print) (memo : Memo Name Print) : Option Value :=
  match Keyed.find? name memo.entries with
  | some (stored, value) => if stored == fingerprint then some value else none
  | none => none

def store (name : Name) (fingerprint : Print) (value : Value) (memo : Memo Name Print) :
    Memo Name Print :=
  { entries := Keyed.insert name (fingerprint, value) memo.entries }

def erase (name : Name) (memo : Memo Name Print) : Memo Name Print :=
  { entries := Keyed.erase name memo.entries }

def contains (name : Name) (memo : Memo Name Print) : Bool :=
  Keyed.contains name memo.entries

def size (memo : Memo Name Print) : Nat :=
  memo.entries.length

end Memo
end Interplay
