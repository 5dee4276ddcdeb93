import Interplay.Value

/-!
The formula language: expressions that are evaluated against a data root.

An absent formula is `none`: it evaluates to null and is no node.
-/

namespace Interplay

mutual

inductive Formula where
  | value (content : Value)
  | path (segments : List String)
  | function (name : String) (arguments : List Argument) (package : Value)
  /-- Calls a formula of the enclosing component. -/
  | apply (name : String) (arguments : List Argument)
  | object (arguments : List Argument)
  /-- An older spelling of `object`. -/
  | record (arguments : List Argument)
  | array (arguments : List Argument)
  | or (arguments : List Argument)
  | and (arguments : List Argument)
  | switch (cases : List FormulaCase) (fallback : Option Formula)

/-- A slot for a formula; a higher-order one is passed on as a closure instead of being
evaluated. -/
inductive Argument where
  | mk (formula : Option Formula) (name : Value) (isFunction : Bool)

inductive FormulaCase where
  | mk (condition result : Option Formula)

end

namespace Argument

def formula : Argument → Option Formula
  | mk formula _ _ => formula

/-- An unnamed argument has an unfilled name. -/
def name : Argument → Value
  | mk _ name _ => name

def isFunction : Argument → Bool
  | mk _ _ isFunction => isFunction

end Argument

namespace FormulaCase

def condition : FormulaCase → Option Formula
  | mk condition _ => condition

def result : FormulaCase → Option Formula
  | mk _ result => result

end FormulaCase

namespace Formula

def tag : Formula → String
  | value _ => "value"
  | path _ => "path"
  | function .. => "function"
  | apply .. => "apply"
  | object _ => "object"
  | record _ => "record"
  | array _ => "array"
  | or _ => "or"
  | and _ => "and"
  | switch .. => "switch"

def name? : Formula → Option String
  | function name _ _ => some name
  | apply name _ => some name
  | _ => none

def arguments : Formula → List Argument
  | function _ arguments _ => arguments
  | apply _ arguments => arguments
  | object arguments => arguments
  | record arguments => arguments
  | array arguments => arguments
  | or arguments => arguments
  | and arguments => arguments
  | _ => []

end Formula

def closureTag : Option Formula → String
  | some formula => formula.tag
  | none => "none"

end Interplay
