import Interplay.Action
import Interplay.Formula.Reader

/-!
Actions from persisted documents.

An object without a type is a custom action.  Entries of an action list that are no actions are
dropped, and named formulas come as a list of named entries or as a mapping from names.
-/

namespace Interplay

def readFilledName (entries : Entries) : Except Failure String :=
  ((Value.field "name" (.mapping entries)).orElse (.text "")).written

namespace NamedFormula

def readEntries : Entries → Except Failure (List NamedFormula)
  | [] => .ok []
  | (key, value) :: rest => do
    let name ← (Value.scalar key).written
    let formula ← match value with
      | .mapping entries => Formula.readField "formula" entries
      | _ => .ok none
    let others ← readEntries rest
    return { name := name, formula := formula } :: others

def readItems : List Value → Except Failure (List NamedFormula)
  | [] => .ok []
  | .mapping entries :: rest => do
    let name ← readFilledName entries
    let formula ← Formula.readField "formula" entries
    let others ← readItems rest
    return { name := name, formula := formula } :: others
  | _ :: rest => readItems rest

def readAll : Value → Except Failure (List NamedFormula)
  | .mapping entries => readEntries entries
  | .list items => readItems items
  | other => Formula.noItems other

end NamedFormula

namespace Action

mutual

def read : Value → Except Failure (Option Action)
  | .mapping entries => do
    let name ← readFilledName entries
    let field := fun (label : String) => Value.field label (.mapping entries)
    match field "type" with
    | .text "SetVariable" => do
      let data ← Formula.readField "data" entries
      return some (.setVariable name data)
    | .text "TriggerEvent" => do
      let data ← Formula.readField "data" entries
      return some (.triggerEvent name data)
    | .text "Switch" => do
      let cases ← readCasesField entries
      let fallback ← readFallbackField entries
      let data ← Formula.readField "data" entries
      return some (.switch cases fallback data)
    | .text "Fetch" => do
      let inputs ← NamedFormula.readAll (field "inputs")
      let onSuccess ← readBodyField "onSuccess" entries
      let onError ← readBodyField "onError" entries
      let onMessage ← readBodyField "onMessage" entries
      return some (.fetch name inputs onSuccess onError onMessage)
    | .text "AbortFetch" => .ok (some (.abortFetch name))
    | .text "Custom" => do
      let arguments ← NamedFormula.readAll (field "arguments")
      let events ← readBodiesField "events" entries
      return some (.custom name (field "package").filled arguments events)
    | .null => do
      let arguments ← NamedFormula.readAll (field "arguments")
      let events ← readBodiesField "events" entries
      return some (.custom name (field "package").filled arguments events)
    | .text "SetURLParameter" => do
      let data ← Formula.readField "data" entries
      return some (.setUrlParameter name data (field "historyMode"))
    | .text "SetURLParameters" => do
      let parameters ← NamedFormula.readAll (field "parameters")
      return some (.setUrlParameters parameters (field "historyMode"))
    | .text "TriggerWorkflow" => do
      let parameters ← NamedFormula.readAll (field "parameters")
      let callbacks ← readBodiesField "callbacks" entries
      let provider := ((field "contextProvider").orElse (field "componentName")).filled
      return some (.triggerWorkflow name parameters callbacks provider (field "package").filled)
    | .text "TriggerWorkflowCallback" => do
      let data ← Formula.readField "data" entries
      return some (.triggerWorkflowCallback name data)
    | _ => .ok none
  | _ => .ok none

def readItems : List Value → Except Failure (List Action)
  | [] => .ok []
  | item :: rest => do
    let first ← read item
    let others ← readItems rest
    return first.toList ++ others

def readList : Value → Except Failure (List Action)
  | .list items => readItems items
  | other => Formula.noItems other

def readActionsField : List (Scalar × Value) → Except Failure (List Action)
  | [] => .ok []
  | (key, value) :: rest =>
    if key.same (.text "actions") then readList value else readActionsField rest

def readBody : Value → Except Failure (List Action)
  | .mapping entries => readActionsField entries
  | _ => .ok []

def readBodyField (name : String) : List (Scalar × Value) → Except Failure (List Action)
  | [] => .ok []
  | (key, value) :: rest =>
    if key.same (.text name) then readBody value else readBodyField name rest

def readBodies : List (Scalar × Value) → Except Failure (List ActionBody)
  | [] => .ok []
  | (key, value) :: rest => do
    let name ← (Value.scalar key).written
    let actions ← readBody value
    let others ← readBodies rest
    return .mk name actions :: others

def readBodyMap : Value → Except Failure (List ActionBody)
  | .mapping entries => readBodies entries
  | _ => .ok []

def readBodiesField (name : String) : List (Scalar × Value) → Except Failure (List ActionBody)
  | [] => .ok []
  | (key, value) :: rest =>
    if key.same (.text name) then readBodyMap value else readBodiesField name rest

def readFallback : Value → Except Failure (Option (List Action))
  | .mapping entries => do
    let actions ← readActionsField entries
    return some actions
  | _ => .ok none

def readFallbackField : List (Scalar × Value) → Except Failure (Option (List Action))
  | [] => .ok none
  | (key, value) :: rest =>
    if key.same (.text "default") then readFallback value else readFallbackField rest

def readCasesField : List (Scalar × Value) → Except Failure (List ActionCase)
  | [] => .ok []
  | (key, value) :: rest =>
    if key.same (.text "cases") then readCases value else readCasesField rest

def readCases : Value → Except Failure (List ActionCase)
  | .list items => readCaseItems items
  | other => Formula.noItems other

def readCaseItems : List Value → Except Failure (List ActionCase)
  | [] => .ok []
  | .mapping entries :: rest => do
    let condition ← Formula.readField "condition" entries
    let actions ← readActionsField entries
    let others ← readCaseItems rest
    return .mk condition actions :: others
  | _ :: rest => readCaseItems rest

end

end Action
end Interplay
