import Interplay.Limits
import Interplay.Value.Fields

/-!
Limits as documents: an object of categories, each an object of ceilings.
-/

namespace Interplay

namespace LimitChanges

def readGroup (source : Value) : Except Failure (Table Value) :=
  match source with
  | .mapping entries => .ok (entries.map fun ceiling => (ceiling.1.display, ceiling.2))
  | other => .error (.mishap (.notArguments "dataclasses.replace" other.typeName))

/-- The changes that `callee` is asked for; they have to be an object. -/
def read (callee : String) (source : Value) : Except Failure LimitChanges :=
  match source with
  | .mapping entries => .ok (entries.map fun group => (group.1.display, readGroup group.2))
  | other => .error (.mishap (.notArguments callee other.typeName))

end LimitChanges

namespace Limits

def toValue (limits : Limits) : Value :=
  .object (limits.groups.map fun group => (group.1, .object group.2.ceilings))

def set (callee : String) (source : Value) (limits : Limits) : Except Failure Limits := do
  limits.update (← LimitChanges.read callee source)

/-- The standard table with the changes that a document asks for, if it asks for any. -/
def read (callee : String) (source : Value) : Except Failure Limits :=
  if source.isFilled then standard.set callee source else .ok standard

def orCeiling (category name : String) (given : Value) (limits : Limits) : Value :=
  if given.isNull then limits.ceiling category name else given

end Limits
end Interplay
