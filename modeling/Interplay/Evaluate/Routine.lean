import Interplay.Component
import Interplay.Fault
import Interplay.Limits
import Interplay.Registry

/-!
Host code behind registered formulas.

A routine says step by step what the code does and goes on with the answer it gets, so a statement
about all handlers is a statement about all routines.  A routine may catch a failure or pass it on.
-/

namespace Interplay

/-- Arguments by name, or in order for fallback handlers. -/
inductive Arguments where
  | named (entries : Entries)
  | positional (items : List Value)

/-- What a handler sees of the context it is called in. -/
structure View where
  data : Value
  package : Value
  /-- The name of the component; null without one. -/
  component : Value
  trail : List TrailStep
  cycles : List String

inductive Routine where
  | answer (value : Value)
  | fail (failure : Failure)
  /-- Calls a closure. -/
  | invoke (closure : Nat) (arguments : Value) (next : Except Failure Value → Routine)
  /-- Evaluates a persisted formula in the same context. -/
  | evaluate (source depth : Value) (next : Except Failure Value → Routine)
  /-- Looks at the limits table. -/
  | limits (next : Limits → Routine)
  | record (entry : Value) (next : Routine)
  | advance (seconds : Value) (next : Except Failure Unit → Routine)
  /-- A number for a computed not-a-number. -/
  | occurrence (next : Nat → Routine)

abbrev FormulaHandler := Arguments → View → Routine

abbrev FormulaCatalog := Catalog (FormulaEntry FormulaHandler) FormulaHandler

end Interplay
