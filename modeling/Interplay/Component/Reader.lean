import Interplay.Action.Reader
import Interplay.Component

/-!
Components from persisted documents.

A section that is no object is empty.  Fields are read in a fixed order, so that of several
malformed fields the first one decides the failure.
-/

namespace Interplay

/-- Reads every entry of a section; entries without a result are dropped. -/
def readTable {α : Type} (reader : String → Value → Except Failure (Option α)) :
    Entries → Except Failure (Table α)
  | [] => .ok []
  | (key, content) :: rest => do
    let first ← reader key.display content
    let others ← readTable reader rest
    match first with
    | some result => return (key.display, result) :: others
    | none => return others

def readParameterName : Value → Except Failure (Option String)
  | .mapping entries =>
    let name := Value.field "name" (.mapping entries)
    if name.isFilled then name.written.map some else .ok none
  | .text content => .ok (some content)
  | _ => .ok none

def readParameterNames (source : Value) : Except Failure (List String) := do
  let items ← source.elements
  return (← items.mapM readParameterName).filterMap id

def readEvent : Value → Except Failure (Option (List Action))
  | .mapping entries => do
    let actions ← Action.readActionsField entries
    return some actions
  | _ => .ok none

def readEvents (source : Value) : Except Failure (Table (List Action)) :=
  readTable (fun _ content => do return some ((← readEvent content).getD [])) source.sections

def readFormulaTable (source : Value) : Except Failure (Table (Option Formula)) :=
  readTable (fun _ content => do return some (← Formula.read content)) source.sections

def readInnerFormulas (name : String) (source : Value) : Except Failure (Table (Option Formula)) :=
  readTable (fun _ content => do return some (← Formula.read (content.field name))) source.sections

def readToggled (source : Value) : Except Failure (Table ToggledFormula) :=
  readTable (fun _ content =>
    match content with
    | .mapping entries => do
      let formula ← Formula.readField "formula" entries
      let enabled ← Formula.readField "enabled" entries
      return some { formula := formula, enabled := enabled }
    | _ => .ok none) source.sections

namespace ComponentFormula

def read (name : String) : Value → Except Failure (Option ComponentFormula)
  | .mapping entries => do
    let source : Value := .mapping entries
    let formula ← Formula.readField "formula" entries
    let arguments ← readParameterNames (source.field "arguments")
    return some {
      name := (source.field "name").orElse (.text name)
      formula := formula
      arguments := arguments
      memoize := (source.field "memoize").isFilled
      isExposed := (source.field "exposeInContext").isFilled }
  | _ => .ok none

end ComponentFormula

namespace Workflow

def read (name : String) : Value → Except Failure (Option Workflow)
  | .mapping entries => do
    let source : Value := .mapping entries
    let actions ← Action.readActionsField entries
    let parameters ← readParameterNames (source.field "parameters")
    let callbacks ← readParameterNames (source.field "callbacks")
    return some {
      name := (source.field "name").orElse (.text name)
      actions := actions
      parameters := parameters
      callbacks := callbacks
      isExposed := (source.field "exposeInContext").isFilled }
  | _ => .ok none

end Workflow

namespace ComponentApi

/-- Without a name of its own, an API has the given one. -/
def read (name : Value) : Value → Except Failure (Option ComponentApi)
  | .mapping entries => do
    let source : Value := .mapping entries
    let client := source.field "client"
    let url ← Formula.readField "url" entries
    let method ← Formula.readField "method" entries
    let body ← Formula.readField "body" entries
    let autoFetch ← Formula.readField "autoFetch" entries
    let headers ← readToggled (source.field "headers")
    let queryParams ← readToggled (source.field "queryParams")
    let onCompleted ← readEvent (client.field "onCompleted")
    let onFailed ← readEvent (client.field "onFailed")
    let onMessage ← readEvent (client.field "onMessage")
    return some {
      name := (source.field "name").orElse name
      url := url
      method := method
      body := body
      autoFetch := autoFetch
      headers := headers
      queryParams := queryParams
      onCompleted := onCompleted
      onFailed := onFailed
      onMessage := onMessage }
  | _ => .ok none

end ComponentApi

namespace Node

def readVariants : List Value → Except Failure (List StyleVariant)
  | [] => .ok []
  | .mapping entries :: rest => do
    let name ← readFilledName entries
    let properties ← readInnerFormulas "formula" (Value.field "customProperties" (.mapping entries))
    let others ← readVariants rest
    return { name := name, customProperties := properties } :: others
  | _ :: rest => readVariants rest

def readBody (entries : Entries) (children : List String) : Except Failure (Option NodeBody) :=
  let field := fun (label : String) => Value.field label (.mapping entries)
  match field "type" with
  | .text "element" => do
    let tag ← ((field "tag").orElse (.text "div")).written
    let attributes ← readFormulaTable (field "attrs")
    let events ← readEvents (field "events")
    let classes ← readInnerFormulas "formula" (field "classes")
    let customProperties ← readInnerFormulas "formula" (field "customProperties")
    let variants ← readVariants (← (field "variants").elements)
    return some (.element tag attributes events classes customProperties variants children)
  | .text "text" => do
    let content ← Formula.readField "value" entries
    return some (.text content)
  | .text "component" => do
    let name ← readFilledName entries
    let attributes ← readFormulaTable (field "attrs")
    let events ← readEvents (field "events")
    let customProperties ← readInnerFormulas "formula" (field "customProperties")
    return some (.component name (field "package").filled attributes events
      customProperties children)
  | .text "slot" => .ok (some (.slot (field "name") children))
  | _ => .ok none

def read : Value → Except Failure (Option Node)
  | .mapping entries => do
    let condition ← Formula.readField "condition" entries
    let repeated ← Formula.readField "repeat" entries
    let repeatKey ← Formula.readField "repeatKey" entries
    let children ← (Value.field "children" (.mapping entries)).elements
    let body ← readBody entries (← children.mapM Value.written)
    return body.map fun found =>
      { flow := { condition := condition, repeated := repeated, repeatKey := repeatKey },
        body := found }
  | _ => .ok none

end Node

namespace RouteInfo

/-- Route information, if there is any. -/
def read (info : Value) : Except Failure (Option RouteInfo) :=
  if info.sections.isEmpty then .ok none
  else do
    let title ← Formula.read ((info.field "title").field "formula")
    let description ← Formula.read ((info.field "description").field "formula")
    return some { title := title, description := description }

end RouteInfo

namespace Component

def read : Value → Except Failure (Option Component)
  | .mapping entries => do
    let source : Value := .mapping entries
    let formulas ← readTable ComponentFormula.read (source.field "formulas").sections
    let workflows ← readTable Workflow.read (source.field "workflows").sections
    let initialValues ← readInnerFormulas "initialValue" (source.field "variables")
    let apis ← readTable (fun name content => ComponentApi.read (.text name) content)
        (source.field "apis").sections
    let nodes ← readTable (fun _ content => Node.read content) (source.field "nodes").sections
    let route ← RouteInfo.read ((source.field "route").field "info")
    let name ← readFilledName entries
    let onLoad ← readEvent (source.field "onLoad")
    let onAttributeChange ← readEvent (source.field "onAttributeChange")
    return some {
      name := name
      formulas := formulas
      workflows := workflows
      initialValues := initialValues
      apis := apis
      nodes := nodes
      onLoad := onLoad
      onAttributeChange := onAttributeChange
      route := route
      package := (source.field "package").filled }
  | _ => .ok none

end Component
end Interplay
