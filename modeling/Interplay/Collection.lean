import Interplay.Value.Key

/-!
Collections that no JSON value spells.

A document describes one by an object with a single entry, whose name is the kind of the collection
and whose content says what is in it.  Nothing is asked of a collection but whether it is empty.
-/

namespace Interplay

inductive Collection where
  | sequence
  | set
  | bytes

namespace Collection

def ofName? : String → Option Collection
  | "$tuple" => some .sequence
  | "$set" => some .set
  | "$frozenset" => some .set
  | "$bytes" => some .bytes
  | _ => none

def sizeBound : Int := 9223372036854775808

def checkByte : Value → Except Failure Unit
  | .bool _ => .ok ()
  | .int number => if 0 ≤ number ∧ number < 256 then .ok () else .error (.mishap .notByte)
  | other => .error (.mishap (.notWhole other.typeName))

def hasZeros (count : Int) : Except Failure Bool :=
  if count < -sizeBound ∨ sizeBound ≤ count then .error (.mishap .notSize)
  else if count < 0 then .error (.mishap .negativeSize)
  else .ok (0 < count)

/-- Whether a byte sequence has any bytes; a number is a count of zeros. -/
def hasBytes : Value → Except Failure Bool
  | .bool flag => hasZeros (if flag then 1 else 0)
  | .int count => hasZeros count
  | .text _ => .error (.mishap .noEncoding)
  | .scalar other => .error (.mishap (.notBytes other.typeName))
  | content => do
    let items ← content.iterate
    items.forM checkByte
    return !items.isEmpty

/-- Whether a collection with the described content holds anything. -/
def isInhabited (content : Value) : Collection → Except Failure Bool
  | sequence => return !(← content.iterate).isEmpty
  | set => return !(← (← content.iterate).mapM Value.toKey).isEmpty
  | bytes => hasBytes content

end Collection

def Value.describedTruth : Value → Except Failure Bool
  | .mapping [(.text name, content)] =>
    match Collection.ofName? name with
    | some collection => collection.isInhabited content
    | none => .ok true
  | other => .ok other.isTrue

end Interplay
