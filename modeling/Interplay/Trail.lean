import Interplay.Fault

/-!
The trail: the stack of steps being evaluated or executed, outermost first.
-/

namespace Interplay

structure Trail where
  steps : List TrailStep

namespace Trail

def empty : Trail := { steps := [] }

def push (step : TrailStep) (trail : Trail) : Trail :=
  { steps := trail.steps ++ [step] }

def pop (trail : Trail) : Trail :=
  { steps := trail.steps.dropLast }

def top? (trail : Trail) : Option TrailStep :=
  trail.steps.getLast?

def depth (trail : Trail) : Nat :=
  trail.steps.length

def pushNamed (kind name : String) (trail : Trail) : Trail :=
  trail.push (.plain (.text kind) (.text name))

@[simp] theorem pop_push (step : TrailStep) (trail : Trail) : (trail.push step).pop = trail := by
  simp [push, pop]

end Trail
end Interplay
