import Interplay.Action
import Interplay.Value.Fields

/-!
Outlines: read documents as plain values, for inspection.

A node is an object with the name of its variant and one field for each part; mappings become lists
of pairs, so that their order can be seen, and an absent part is null.
-/

namespace Interplay
namespace Outline

def node (variant : String) (fields : List (String × Value)) : Value :=
  .object (("node", .text variant) :: fields)

mutual

/-- A field that may hold any value; mappings become lists of pairs here too, but not inside of
lists. -/
def field : Value → Value
  | .mapping entries => .list (fieldEntries entries)
  | other => other

def fieldEntries : List (Scalar × Value) → List Value
  | [] => []
  | (key, content) :: rest => .list [.scalar key, field content] :: fieldEntries rest

end

mutual

def formula : Formula → Value
  | .value content => node "Value" [("value", content)]
  | .path segments => node "Path" [("path", .texts segments)]
  | .function name arguments package =>
    node "Function"
      [("name", .text name), ("arguments", .list (argumentItems arguments)),
        ("package", field package)]
  | .apply name arguments =>
    node "Apply" [("name", .text name), ("arguments", .list (argumentItems arguments))]
  | .object arguments => node "Object" [("arguments", .list (argumentItems arguments))]
  | .record arguments => node "Record" [("arguments", .list (argumentItems arguments))]
  | .array arguments => node "Array" [("arguments", .list (argumentItems arguments))]
  | .or arguments => node "Or" [("arguments", .list (argumentItems arguments))]
  | .and arguments => node "And" [("arguments", .list (argumentItems arguments))]
  | .switch cases fallback =>
    node "Switch" [("cases", .list (caseItems cases)), ("default", optional fallback)]

def optional : Option Formula → Value
  | none => .null
  | some found => formula found

def argumentItems : List Argument → List Value
  | [] => []
  | .mk content name isFunction :: rest =>
    node "FunctionArgument"
        [("formula", optional content), ("name", field name), ("is_function", .bool isFunction)]
      :: argumentItems rest

def caseItems : List FormulaCase → List Value
  | [] => []
  | .mk condition result :: rest =>
    node "SwitchCase" [("condition", optional condition), ("formula", optional result)] ::
      caseItems rest

end

def arguments (items : List Argument) : Value :=
  .list (argumentItems items)

def named (formulas : List NamedFormula) : Value :=
  .list (formulas.map fun entry =>
    node "NamedFormula" [("name", .text entry.name), ("formula", optional entry.formula)])

mutual

def action : Action → Value
  | .setVariable name data => node "SetVariable" [("name", .text name), ("data", optional data)]
  | .triggerEvent name data => node "TriggerEvent" [("name", .text name), ("data", optional data)]
  | .switch cases fallback data =>
    node "Switch"
      [("cases", .list (actionCases cases)), ("default", optionalActions fallback),
        ("data", optional data)]
  | .fetch name inputs onSuccess onError onMessage =>
    node "Fetch"
      [("name", .text name), ("inputs", named inputs),
        ("on_success", .list (actionItems onSuccess)),
       ("on_error", .list (actionItems onError)), ("on_message", .list (actionItems onMessage))]
  | .abortFetch name => node "AbortFetch" [("name", .text name)]
  | .custom name package arguments events =>
    node "Custom"
      [("name", .text name), ("package", field package), ("arguments", named arguments),
       ("events", .list (bodies events))]
  | .setUrlParameter name data historyMode =>
    node "SetURLParameter"
      [("name", .text name), ("data", optional data), ("history_mode", field historyMode)]
  | .setUrlParameters parameters historyMode =>
    node "SetURLParameters" [("parameters", named parameters), ("history_mode", field historyMode)]
  | .triggerWorkflow name parameters callbacks provider package =>
    node "TriggerWorkflow"
      [("name", .text name), ("parameters", named parameters),
        ("callbacks", .list (bodies callbacks)),
       ("context_provider", field provider), ("package", field package)]
  | .triggerWorkflowCallback name data =>
    node "TriggerWorkflowCallback" [("name", .text name), ("data", optional data)]

def actionItems : List Action → List Value
  | [] => []
  | item :: rest => action item :: actionItems rest

def optionalActions : Option (List Action) → Value
  | none => .null
  | some items => .list (actionItems items)

def actionCases : List ActionCase → List Value
  | [] => []
  | .mk condition items :: rest =>
    node "SwitchCase" [("condition", optional condition), ("actions", .list (actionItems items))]
      :: actionCases rest

def bodies : List ActionBody → List Value
  | [] => []
  | .mk name items :: rest => .list [.text name, .list (actionItems items)] :: bodies rest

end

def actions (items : List Action) : Value :=
  .list (actionItems items)

end Outline
end Interplay
