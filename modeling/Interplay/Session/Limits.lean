import Interplay.Session
import Interplay.Session.Members

/-!
Sessions on a limits table.
-/

namespace Interplay
namespace Session

/-- The answers of a block.  A failure inside ends the block and is its last answer. -/
def limitsBlock (desk : Desk Limits) (step : Value) : Run Limits Document := do
  let (answers, raised) ← desk.inner step
  let ending :=
    if raised then [answer desk.around (.ok .null), answer desk.around (.error boom)] else []
  pure (.list (answers ++ ending))

def overrideLimits (desk : Desk Limits) (step : Value) : Run Limits Document := do
  let changes ← Run.ofExcept
      (LimitChanges.read (desk.around.operationName "override_limits") (step.field "values"))
  Limits.overriding changes (limitsBlock desk step)

def limitsStep (around : Surroundings) : Nat → Value → Run Limits Document
  | 0, _ => Run.exhaust
  | fuel + 1, step => do
    let category := step.field "category"
    let name := step.field "name"
    let value := step.field "value"
    let limits ← Run.get
    match ← Run.ofExcept (action step) with
    | "set" => quiet (Run.update (Limits.set (limitSetter around) (step.field "values")))
    | "reset" => change fun _ => Limits.standard
    | "get" => pure limits.toValue
    | "ceiling" => showing (Run.ofExcept (limits.ceilingFor around.limitsHome category name))
    | "check" => quiet (Run.ofExcept (limits.checkFor around.limitsHome category name value))
    | "within" =>
      return Value.bool (← Run.ofExcept (limits.isWithinFor around.limitsHome category name value))
    | "override" => overrideLimits ⟨around, limitsStep around fuel, silent⟩ step
    | _ => pure .null

def limitsDesk (around : Surroundings) (fuel : Nat) : Desk Limits :=
  ⟨around, limitsStep around fuel, silent⟩

end Session
end Interplay
