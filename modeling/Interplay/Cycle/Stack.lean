import Interplay.Limits

/-!
The stack of keys being evaluated, built or loaded.

Entering a key that is active is a cycle.  Leaving a key cuts the path back to where it was last
entered, but takes only that key out of the active set.
-/

namespace Interplay
namespace Cycle

inductive Domain where
  | formula
  | component
  | package
  deriving DecidableEq

namespace Domain

def label : Domain → String
  | formula => "formula"
  | component => "component"
  | package => "package"

def keyStem : Domain → String
  | formula => "formula:"
  | component => ""
  | package => ""

end Domain

structure Stack where
  domain : Domain
  active : List String
  path : List String

namespace Stack

def empty (domain : Domain) : Stack :=
  { domain := domain, active := [], path := [] }

def fullKey (key : String) (stack : Stack) : String :=
  stack.domain.keyStem ++ key

def isActive (key : String) (stack : Stack) : Bool :=
  stack.active.contains (stack.fullKey key)

def depth (stack : Stack) : Nat :=
  stack.active.length

/-- The path up to, and without, the last occurrence of a key; unchanged if the key does not
occur. -/
def cutAt (key : String) (path : List String) : List String :=
  if path.contains key then ((path.reverse.dropWhile fun entry => entry != key).drop 1).reverse
  else path

def enter (limits : Limits) (key : String) (stack : Stack) : Except Failure Stack :=
  if stack.isActive key then
    .error (.cycle (.text stack.domain.label) (stack.path.map Value.text)
      (.text (stack.fullKey key)))
  else
    match limits.check stack.domain.label "max_depth" (.ofNat stack.depth) with
    | .error failure => .error failure
    | .ok () =>
      .ok { stack with
        active := stack.active ++ [stack.fullKey key]
        path := stack.path ++ [stack.fullKey key] }

def leave (key : String) (stack : Stack) : Stack :=
  { stack with
    active := stack.active.filter fun entry => entry != stack.fullKey key
    path := cutAt (stack.fullKey key) stack.path }

end Stack
end Cycle
end Interplay
