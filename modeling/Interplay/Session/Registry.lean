import Interplay.Outline.Component
import Interplay.Registry.Reader
import Interplay.Session

/-!
Sessions on a registry whose handlers are only labels.
-/

namespace Interplay
namespace Session

abbrev LabelRegistry := Registry Value Value

def entryLabel (entry : Value) : Value :=
  entry.fieldOr "label" (entry.field "handler")

def showLabel (label : Value) : Document :=
  .object [("handler", .bare label)]

/-- What is shown of a formula; a value that is neither a handler nor a definition has no label. -/
def showFormula : FormulaEntry Value → Except Failure Document
  | .handler label => .ok (showLabel label)
  | .definition definition => .ok (Outline.definition definition)
  | .value content => .error (.mishap (.noAttribute content.typeName "label"))

def showFound {α : Type} (content : α → Except Failure Document) :
    Option α → Except Failure Document
  | none => .ok .null
  | some found => content found

def registeredEntry (step : Value) : Value :=
  (step.field "entry").orElse step

def lookUp (doing : String) (step : Value) (registry : LabelRegistry) :
    Except Failure Document := do
  let name := step.field "name"
  let package := step.field "package"
  match doing with
  | "packages" => return .bare (.list (registry.packages.map Value.scalar))
  | "get_formula" =>
    showFound (fun found => showFormula found.1) (← registry.formulas.find? name package)
  | "get_action" =>
    showFound (fun found => .ok (showLabel found.1)) (← registry.actions.find? name package)
  | "get_legacy_formula" =>
    showFound (fun label => .ok (showLabel label)) (← registry.formulas.legacy? name)
  | "get_legacy_action" =>
    showFound (fun label => .ok (showLabel label)) (← registry.actions.legacy? name)
  | "resolve_formula" =>
    match ← registry.formulas.resolve name package with
    | none => return .null
    | some (.versioned entry place) =>
      return .list [.text "versioned", ← showFormula entry, .bare place]
    | some (.legacy label place) => return .list [.text "legacy", showLabel label, .bare place]
  | "resolve_action" =>
    match ← registry.actions.resolve name package with
    | none => return .null
    | some (.versioned label _) => return showLabel label
    | some (.legacy label _) => return showLabel label
  | _ => return .null

def registryStep (step : Value) : Run LabelRegistry Document := do
  let registry ← Run.get
  match ← Run.ofExcept (action step) with
  | "register" => quiet (Registry.readEntry entryLabel entryLabel (registeredEntry step))
  | doing => Run.ofExcept (lookUp doing step registry)

def registryDesk (around : Surroundings) : Desk LabelRegistry :=
  ⟨around, registryStep, silent⟩

end Session
end Interplay
