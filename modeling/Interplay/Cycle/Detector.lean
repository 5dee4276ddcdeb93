import Interplay.Cycle.Stack
import Interplay.Run
import Interplay.Value.Key
import Interplay.Value.Order

/-!
Running workflows, counted per key, and detectors of either kind: a stack of keys, or a count of
running workflows.

A workflow may run as many times at once as the recursion ceiling says; one more entry is a cycle.
-/

namespace Interplay
namespace Cycle

structure Workflow (κ : Type) where
  maxRecursion : Value
  active : Keyed κ Nat
  path : List κ

namespace Workflow

variable {κ : Type} [BEq κ] [Key κ]

def empty (maxRecursion : Value) : Workflow κ :=
  { maxRecursion := maxRecursion, active := [], path := [] }

def depthOf (key : κ) (running : Workflow κ) : Nat :=
  (Keyed.find? key running.active).getD 0

def canEnter (key : κ) (running : Workflow κ) : Except Failure Bool :=
  (Value.ofNat (running.depthOf key)).compare .below running.maxRecursion

def hasActive (running : Workflow κ) : Bool :=
  !running.active.isEmpty

def eraseLast (key : κ) (path : List κ) : List κ :=
  (path.reverse.erase key).reverse

def enter (key : κ) (running : Workflow κ) : Except Failure (Workflow κ) :=
  match (Value.ofNat (running.depthOf key)).compare .atLeast running.maxRecursion with
  | .error failure => .error failure
  | .ok true => .error (.cycle (.text "workflow") (running.path.map Key.toValue) (Key.toValue key))
  | .ok false =>
    .ok { running with
      active := Keyed.insert key (running.depthOf key + 1) running.active
      path := running.path ++ [key] }

def leave (key : κ) (running : Workflow κ) : Workflow κ :=
  { running with
    active :=
      if running.depthOf key ≤ 1 then Keyed.erase key running.active
      else Keyed.insert key (running.depthOf key - 1) running.active
    path := eraseLast key running.path }

end Workflow

inductive Detector where
  | keys (stack : Stack)
  | workflows (running : Workflow Scalar)

def Stack.readKey : Value → Except Failure String
  | .text key => .ok key
  | other => .error (.mishap (.notAppendable "str" other.typeName))

namespace Detector

def enter (limits : Limits) (key : Value) : Detector → Except Failure Detector
  | keys stack => do return keys (← stack.enter limits (← Stack.readKey key))
  | workflows running => do return workflows (← running.enter (← key.toKey))

def leave (key : Value) : Detector → Except Failure Detector
  | keys stack => do return keys (stack.leave (← Stack.readKey key))
  | workflows running => do return workflows (running.leave (← key.toKey))

def path : Detector → List Value
  | keys stack => stack.path.map Value.text
  | workflows running => running.path.map Value.scalar

end Detector

/-- Holds a key for the length of a body: it is entered before the body and left after it, however
the body ends.  If it cannot be entered, neither follows. -/
def guarded {σ α : Type} (enter leave : Run σ Unit) (body : Run σ α) : Run σ α := do
  enter
  Run.followedBy leave body

end Cycle
end Interplay
