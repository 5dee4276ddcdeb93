import Interplay.Component
import Interplay.Outline.Action
import Interplay.Registry

/-!
Outlines of components, their parts, and formula definitions.
-/

namespace Interplay
namespace Outline

def table {α : Type} (content : α → Value) (entries : Table α) : Value :=
  .list (entries.map fun entry => .list [.text entry.1, content entry.2])

def toggled (source : ToggledFormula) : Value :=
  node "ToggledFormula" [("formula", optional source.formula), ("enabled", optional source.enabled)]

def api (source : ComponentApi) : Value :=
  node "ComponentAPI"
    [("name", field source.name), ("url", optional source.url), ("method", optional source.method),
     ("body", optional source.body), ("auto_fetch", optional source.autoFetch),
     ("headers", table toggled source.headers), ("query_params", table toggled source.queryParams),
     ("on_completed", optionalActions source.onCompleted),
     ("on_failed", optionalActions source.onFailed),
     ("on_message", optionalActions source.onMessage)]

def flow (source : NodeFlow) : List (String × Value) :=
  [("condition", optional source.condition), ("repeat", optional source.repeated),
   ("repeat_key", optional source.repeatKey)]

def variant (source : StyleVariant) : Value :=
  node "StyleVariant"
    [("name", .text source.name), ("custom_properties", table optional source.customProperties)]

def treeNode (source : Node) : Value :=
  match source.body with
  | .element tag attributes events classes customProperties variants children =>
    node "ElementNode"
      ([("tag", .text tag), ("attrs", table optional attributes), ("events", table actions events),
        ("classes", table optional classes), ("custom_properties", table optional customProperties),
        ("variants", .list (variants.map variant)), ("children", .texts children)] ++
        flow source.flow)
  | .text content => node "TextNode" (("value", optional content) :: flow source.flow)
  | .component name package attributes events customProperties children =>
    node "ComponentNode"
      ([("name", .text name), ("package", field package), ("attrs", table optional attributes),
        ("events", table actions events), ("custom_properties", table optional customProperties),
        ("children", .texts children)] ++ flow source.flow)
  | .slot name children =>
    node "SlotNode" ([("name", field name), ("children", .texts children)] ++ flow source.flow)

def componentFormula (source : ComponentFormula) : Value :=
  node "ComponentFormula"
    [("name", field source.name), ("formula", optional source.formula),
      ("arguments", .texts source.arguments),
     ("memoize", .bool source.memoize), ("expose_in_context", .bool source.isExposed)]

def workflow (source : Workflow) : Value :=
  node "Workflow"
    [("name", field source.name), ("actions", actions source.actions),
      ("parameters", .texts source.parameters),
     ("callbacks", .texts source.callbacks), ("expose_in_context", .bool source.isExposed)]

def route : Option RouteInfo → Value
  | none => .null
  | some source =>
    node "RouteInfo"
      [("title", optional source.title), ("description", optional source.description)]

def component (source : Component) : Value :=
  node "Component"
    [("name", .text source.name), ("formulas", table componentFormula source.formulas),
     ("workflows", table workflow source.workflows),
     ("variables", table optional source.initialValues),
     ("apis", table api source.apis), ("nodes", table treeNode source.nodes),
     ("on_load", optionalActions source.onLoad),
     ("on_attribute_change", optionalActions source.onAttributeChange),
     ("route", route source.route), ("package", field source.package)]

def definition (source : FormulaDefinition) : Value :=
  node "FormulaDefinition"
    [("name", field source.name), ("formula", optional source.formula),
     ("arguments", .list (source.arguments.map field))]

end Outline
end Interplay
