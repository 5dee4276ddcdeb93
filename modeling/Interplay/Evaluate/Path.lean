import Interplay.Fault

/-!
Paths into data.

A walk that meets null, a missing key or index, or a scalar ends with null.  Reserved segments are
never followed, whatever the data holds.  Only an index of too many digits is a failure.
-/

namespace Interplay
namespace Path

def startsAndEnds (mark : List Char) (characters : List Char) : Bool :=
  mark.isPrefixOf characters && mark.isSuffixOf characters

/-- Three names, and everything that starts and ends with two underscores. -/
def isReserved (segment : String) : Bool :=
  ["__proto__", "constructor", "prototype"].contains segment
    || startsAndEnds "__".toList segment.toList

def index? (segment : String) : Option Nat :=
  let characters := segment.toList
  if characters.isEmpty || !characters.all Char.isDigit then none
  else some (characters.foldl (fun number digit => 10 * number + (digit.toNat - 48)) 0)

def item (segment : String) (items : List Value) : Except Failure Value :=
  match index? segment with
  | none => .ok .null
  | some index =>
    if Number.digitLimit < segment.length then .error (.mishap (.notReadable segment.length))
    else .ok ((items[index]?).getD .null)

/-- One segment down from a value; null if there is nothing. -/
def step (segment : String) (current : Value) : Except Failure Value :=
  if isReserved segment then .ok .null
  else match current with
    | .list items => item segment items
    | .mapping entries => .ok ((Keyed.find? (.text segment) entries).getD .null)
    | _ => .ok .null

def walk : List String → Value → Except Failure Value
  | [], current => .ok current
  | segment :: rest, current => (step segment current).bind (walk rest)

end Path
end Interplay
