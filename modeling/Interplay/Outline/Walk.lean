import Interplay.Component.Reader
import Interplay.Outline.Component
import Interplay.Traversal.Actions

/-!
Documents by kind: reading one and outlining what was read, or what a walk over it visits.

What a walk visits is shown as its location with a short label of the node.
-/

namespace Interplay
namespace Outline

def segment : Segment → Value
  | .key name => .text name
  | .index position => .ofNat position

/-- A location below the place where a walk starts, which may be named by any values. -/
def location (origin : List Value) (path : Location) : Value :=
  .list (origin ++ path.map segment)

/-- A literal shows its content, a path its segments, and any other formula its name if it has
one. -/
def formulaLabel : Formula → Value
  | .value content => .list [.text "value", content]
  | .path segments => .list [.text "path", .texts segments]
  | other => .list [.text other.tag, .ofOption other.name?]

def formulaVisits (origin : List Value) (visits : List FormulaVisit) : Value :=
  .list (visits.map fun visit =>
    .list [location origin visit.location, formulaLabel visit.formula, visit.package])

def actionVisits (origin : List Value) (visits : List ActionVisit) : Value :=
  .list (visits.map fun visit =>
    .list [location origin visit.location,
      .list [.text visit.action.kind, .ofOption visit.action.name?]])

def orNull {α : Type} (content : α → Value) (found : Option α) : Value :=
  (found.map content).getD .null

/-- The outline of a document of the given kind. -/
def read (kind : String) (name source : Value) : Except Failure Value :=
  match kind with
  | "formula" => (Formula.read source).map optional
  | "arguments" => (Formula.readArguments source).map arguments
  | "action" => (Action.read source).map (orNull action)
  | "actions" => (Action.readList source).map actions
  | "named" => (NamedFormula.readAll source).map named
  | "component" => (Component.read source).map (orNull component)
  | "api" => (ComponentApi.read name source).map (orNull api)
  | _ => (Node.read source).map (orNull treeNode)

def readActions : Value → Except Failure (Option Action ⊕ List Action)
  | .list items => (Action.readList (.list items)).map .inr
  | other => (Action.read other).map .inl

/-- What a walk starts from besides its document: the place that its locations extend, if one is
given, and the package whose names apply. -/
structure Start where
  origin : Option Value
  package : Option Value
  identifier : Value
  name : Value

namespace Start

def place (standard : List Value) (start : Start) : Except Failure (List Value) :=
  match start.origin with
  | none => .ok standard
  | some path => path.iterate

def names (start : Start) : Value :=
  start.package.getD .null

def refuseOrigin (walk : String) (start : Start) : Except Failure Unit :=
  if start.origin.isSome then .error (.mishap (.unexpectedArgument walk "path")) else .ok ()

def refusePackage (walk : String) (start : Start) : Except Failure Unit :=
  if start.package.isSome then .error (.mishap (.unexpectedArgument walk "package")) else .ok ()

end Start

def walkFormula (start : Start) (source : Value) : Except Failure Value := do
  let formula ← Formula.read source
  return formulaVisits (← start.place []) (Formula.visitsOf [] start.names formula)

def walkActionFormulas (start : Start) (source : Value) : Except Failure Value := do
  let found ← readActions source
  let origin ← start.place []
  match found with
  | .inl none => return .list []
  | .inl (some action) => return formulaVisits origin (action.formulaVisits [] start.names)
  | .inr actions => return formulaVisits origin (Action.formulaVisitsOf [] start.names 0 actions)

def walkActions (start : Start) (source : Value) : Except Failure Value := do
  let found ← readActions source
  let origin ← start.place []
  start.refusePackage "actions_in_action"
  match found with
  | .inl none => return .list []
  | .inl (some action) => return actionVisits origin (action.visits [])
  | .inr actions => return actionVisits origin (Action.visitsOf [] 0 actions)

def walkFound {α : Type} (found : Option α) (walk : α → Except Failure Value) :
    Except Failure Value :=
  match found with
  | none => .ok .null
  | some content => walk content

def walkNodeFormulas (start : Start) (node : Node) : Except Failure Value := do
  start.refuseOrigin "formulas_in_node"
  return formulaVisits [.text "nodes", start.identifier] (node.formulaVisits [] start.names)

def walkNodeActions (start : Start) (node : Node) : Except Failure Value := do
  let origin ← start.place [.text "nodes", start.identifier]
  start.refusePackage "actions_in_node"
  return actionVisits origin (node.actionVisits [])

def walkApi (start : Start) (api : ComponentApi) : Except Failure Value := do
  return formulaVisits (← start.place [.text "api"]) (api.formulaVisits [] start.names)

def walkComponentFormulas (start : Start) (component : Component) : Except Failure Value := do
  start.refuseOrigin "formulas_in_component"
  return formulaVisits [] (component.formulaVisits start.names)

def walkComponentActions (start : Start) (component : Component) : Except Failure Value := do
  let origin ← start.place []
  start.refusePackage "actions_in_component"
  return actionVisits origin (component.actionVisits [])

def walk (kind : String) (start : Start) (source : Value) : Except Failure Value :=
  match kind with
  | "formulas_in_formula" => walkFormula start source
  | "formulas_in_action" => walkActionFormulas start source
  | "actions_in_action" => walkActions start source
  | "formulas_in_node" => do walkFound (← Node.read source) (walkNodeFormulas start)
  | "actions_in_node" => do walkFound (← Node.read source) (walkNodeActions start)
  | "formulas_in_api" => do walkFound (← ComponentApi.read start.name source) (walkApi start)
  | "formulas_in_component" => do walkFound (← Component.read source) (walkComponentFormulas start)
  | _ => do walkFound (← Component.read source) (walkComponentActions start)

end Outline
end Interplay
