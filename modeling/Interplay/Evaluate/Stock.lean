import Interplay.Evaluate.Routine
import Interplay.Limits.Reader
import Interplay.Value.Fields
import Interplay.Value.Order

/-!
Stock handlers for formulas: small host routines to register under any name.
-/

namespace Interplay

namespace Arguments

def toValue : Arguments → Value
  | named entries => .mapping entries
  | positional items => .list items

def get (name : String) : Arguments → Value
  | named entries => (Keyed.find? (.text name) entries).getD .null
  | positional _ => .null

def need (name : String) : Arguments → Except Failure Value
  | named entries =>
    match Keyed.find? (.text name) entries with
    | some content => .ok content
    | none => .error (.mishap (.missingKey (.text name)))
  | positional _ => .error (.mishap (.notPosition "str"))

/-- The closure to call: the named argument `fn`, or the first one. -/
def function : Arguments → Except Failure Value
  | positional (first :: _) => .ok first
  | positional [] => .error (.mishap .missingItem)
  | other => other.need "fn"

end Arguments

namespace Stock

def conclude : Except Failure Value → Routine
  | .ok content => .answer content
  | .error failure => .fail failure

def all : FormulaHandler := fun arguments _ => .answer arguments.toValue

def constant (content : Value) : FormulaHandler := fun _ _ => .answer content

def first : FormulaHandler := fun arguments _ =>
  match arguments with
  | .named ((_, content) :: _) => .answer content
  | .positional (content :: _) => .answer content
  | _ => .answer .null

def named (name : String) : FormulaHandler := fun arguments _ => .answer (arguments.get name)

def keys : FormulaHandler := fun arguments _ =>
  match arguments with
  | .named entries => .answer (.list (Entries.keys entries))
  | .positional items => .answer (.list items)

def keysOf (name : String) : FormulaHandler := fun arguments _ =>
  conclude ((arguments.need name).bind fun content => content.iterate.map Value.list)

/-- One more than a number; an unfilled argument counts as zero. -/
def increment (name : String) : FormulaHandler := fun arguments _ =>
  .occurrence fun occurrence =>
    conclude (((arguments.get name).orElse (.int 0)).successor.map (Value.renew occurrence))

def failing (failure : Failure) : FormulaHandler := fun _ _ => .fail failure

def callValue (function arguments : Value) (next : Except Failure Value → Routine) : Routine :=
  match function with
  | .closure handle _ => .invoke handle arguments next
  | other => next (.error (.mishap (.notCallable other.typeName)))

def call : FormulaHandler := fun arguments _ =>
  match arguments.function with
  | .error failure => .fail failure
  | .ok function => callValue function (arguments.get "with") conclude

/-- Calls a closure for every item; the results come last first. -/
def mapItems (arguments : Arguments) : Nat → List Value → List Value → Routine
  | _, [], results => .answer (.list results.reverse)
  | index, item :: rest, results =>
    match arguments.function with
    | .error failure => .fail failure
    | .ok function =>
      callValue function (.object [("item", item), ("index", .ofNat index)]) fun outcome =>
        match outcome with
        | .ok content => mapItems arguments (index + 1) rest (content :: results)
        | .error failure => .fail failure

def map : FormulaHandler := fun arguments _ =>
  match (arguments.need "list").bind Value.iterate with
  | .error failure => .fail failure
  | .ok items => mapItems arguments 0 items []

def package : FormulaHandler := fun _ view => .answer view.package

def component : FormulaHandler := fun _ view => .answer view.component

def dataKeys : FormulaHandler := fun _ view => conclude (view.data.iterate.map Value.list)

/-- Where evaluation stands: the trail and the keys on the cycle stack. -/
def place : FormulaHandler := fun _ view =>
  .answer (.object
    [("trail", .texts (view.trail.map TrailStep.display)), ("cycles", .texts view.cycles)])

/-- Evaluates a formula that comes as an argument. -/
def evaluate : FormulaHandler := fun arguments _ =>
  .evaluate (arguments.get "formula") ((arguments.get "depth").orElse (.int 0)) conclude

def sleep : FormulaHandler := fun arguments _ =>
  match arguments.need "s" with
  | .error failure => .fail failure
  | .ok seconds => .advance seconds fun outcome => conclude (outcome.map fun _ => .null)

def traced (name : Value) (handler : FormulaHandler) : FormulaHandler := fun arguments view =>
  .record (.list [.text "formula", name, arguments.toValue]) (handler arguments view)

/-- The handler that an entry names; `other` decides about names that are not known here. -/
def find (other : String → FormulaHandler) (entry : Value) : FormulaHandler :=
  match entry.fieldText "handler" with
  | "args" => all
  | "const" => constant (entry.field "value")
  | "first" => first
  | "value" => named "value"
  | "keys" => keys
  | "keys_of" => keysOf "value"
  | "inc" => increment "n"
  | "fail" =>
    failing (.mishap (.rejected (entry.fieldOr "message" (.text "formula failed")).display))
  | "call" => call
  | "map" => map
  | "package" => package
  | "component" => component
  | "data_keys" => dataKeys
  | "where" => place
  | "eval" => evaluate
  | "sleep" => sleep
  | name => other name

/-- As `find`, traced if the entry asks for it. -/
def handler (other : String → FormulaHandler) (entry : Value) : FormulaHandler :=
  if (entry.field "traced").isFilled then traced (entry.field "name") (find other entry)
  else find other entry

end Stock
end Interplay
