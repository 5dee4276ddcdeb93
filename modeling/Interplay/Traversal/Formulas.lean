import Interplay.Component

/-!
Structural walks that list the formulas of a tree.

Nothing is evaluated.  Each visit carries the location of the node, spelled with the keys of
persisted documents, and the package whose names apply there: the arguments of a function that names
a package inherit it.  Every walk is in pre-order.
-/

namespace Interplay

inductive Segment where
  | key (name : String)
  | index (position : Nat)
  deriving DecidableEq

abbrev Location := List Segment

structure FormulaVisit where
  location : Location
  formula : Formula
  package : Value

namespace Formula

mutual

def visits (location : Location) (package : Value) : Formula → List FormulaVisit
  | value content => [⟨location, value content, package⟩]
  | path segments => [⟨location, path segments, package⟩]
  | function name arguments own =>
    ⟨location, function name arguments own, package⟩
      :: argumentVisits location (own.orElse package) 0 arguments
  | apply name arguments =>
    ⟨location, apply name arguments, package⟩ :: argumentVisits location package 0 arguments
  | object arguments =>
    ⟨location, object arguments, package⟩ :: argumentVisits location package 0 arguments
  | record arguments =>
    ⟨location, record arguments, package⟩ :: argumentVisits location package 0 arguments
  | array arguments =>
    ⟨location, array arguments, package⟩ :: argumentVisits location package 0 arguments
  | or arguments => ⟨location, or arguments, package⟩ :: argumentVisits location package 0 arguments
  | and arguments =>
    ⟨location, and arguments, package⟩ :: argumentVisits location package 0 arguments
  | switch cases fallback =>
    ⟨location, switch cases fallback, package⟩
      :: caseVisits location package 0 cases ++ visitsOf
        (location ++ [.key "default"]) package fallback

/-- An absent formula has no visits. -/
def visitsOf (location : Location) (package : Value) : Option Formula → List FormulaVisit
  | none => []
  | some formula => visits location package formula

def argumentVisits (location : Location) (package : Value) : Nat → List Argument → List FormulaVisit
  | _, [] => []
  | position, .mk formula _ _ :: rest =>
    visitsOf (location ++ [.key "arguments", .index position, .key "formula"]) package formula
      ++ argumentVisits location package (position + 1) rest

def caseVisits (location : Location) (package : Value) : Nat → List FormulaCase → List FormulaVisit
  | _, [] => []
  | position, .mk condition result :: rest =>
    visitsOf (location ++ [.key "cases", .index position, .key "condition"]) package condition
      ++ visitsOf (location ++ [.key "cases", .index position, .key "formula"]) package result
      ++ caseVisits location package (position + 1) rest

end

end Formula

namespace NamedFormula

/-- Named formulas are addressed by position. -/
def visits (location : Location) (package : Value) : Nat → List NamedFormula → List FormulaVisit
  | _, [] => []
  | position, named :: rest =>
    Formula.visitsOf (location ++ [.index position, .key "formula"]) package named.formula
      ++ visits location package (position + 1) rest

end NamedFormula

namespace Action

mutual

/-- Every formula that an action holds. -/
def formulaVisits (location : Location) (package : Value) : Action → List FormulaVisit
  | setVariable _ data => Formula.visitsOf (location ++ [.key "data"]) package data
  | triggerEvent _ data => Formula.visitsOf (location ++ [.key "data"]) package data
  | triggerWorkflowCallback _ data => Formula.visitsOf (location ++ [.key "data"]) package data
  | setUrlParameter _ data _ => Formula.visitsOf (location ++ [.key "data"]) package data
  | fetch _ inputs onSuccess onError onMessage =>
    NamedFormula.visits (location ++ [.key "inputs"]) package 0 inputs
      ++ formulaVisitsOf (location ++ [.key "onSuccess", .key "actions"]) package 0 onSuccess
      ++ formulaVisitsOf (location ++ [.key "onError", .key "actions"]) package 0 onError
      ++ formulaVisitsOf (location ++ [.key "onMessage", .key "actions"]) package 0 onMessage
  | setUrlParameters parameters _ =>
    NamedFormula.visits (location ++ [.key "parameters"]) package 0 parameters
  | triggerWorkflow _ parameters callbacks _ _ =>
    NamedFormula.visits (location ++ [.key "parameters"]) package 0 parameters
      ++ bodyFormulaVisits (location ++ [.key "callbacks"]) package callbacks
  | switch cases fallback data =>
    Formula.visitsOf (location ++ [.key "data"]) package data
      ++ caseFormulaVisits location package 0 cases
      ++ fallbackFormulaVisits (location ++ [.key "default", .key "actions"]) package fallback
  | custom _ _ arguments events =>
    NamedFormula.visits (location ++ [.key "arguments"]) package 0 arguments
      ++ bodyFormulaVisits (location ++ [.key "events"]) package events
  | abortFetch _ => []

def formulaVisitsOf (location : Location) (package : Value) : Nat → List Action → List FormulaVisit
  | _, [] => []
  | position, action :: rest =>
    formulaVisits (location ++ [.index position]) package action
      ++ formulaVisitsOf location package (position + 1) rest

def bodyFormulaVisits (location : Location) (package : Value) : List ActionBody → List FormulaVisit
  | [] => []
  | .mk name actions :: rest =>
    formulaVisitsOf (location ++ [.key name, .key "actions"]) package 0 actions
      ++ bodyFormulaVisits location package rest

def caseFormulaVisits (location : Location) (package : Value) : Nat →
    List ActionCase → List FormulaVisit
  | _, [] => []
  | position, .mk condition actions :: rest =>
    Formula.visitsOf
      (location ++ [.key "cases", .index position, .key "condition"]) package condition
      ++ formulaVisitsOf
        (location ++ [.key "cases", .index position, .key "actions"]) package 0 actions
      ++ caseFormulaVisits location package (position + 1) rest

def fallbackFormulaVisits (location : Location) (package : Value) :
    Option (List Action) → List FormulaVisit
  | none => []
  | some actions => formulaVisitsOf location package 0 actions

end

end Action

def Formula.tableVisits (location tail : Location) (package : Value)
    (formulas : Table (Option Formula)) :
    List FormulaVisit :=
  formulas.flatMap fun entry => visitsOf (location ++ .key entry.1 :: tail) package entry.2

def Action.eventFormulaVisits (location : Location) (package : Value)
    (events : Table (List Action)) :
    List FormulaVisit :=
  events.flatMap fun entry => formulaVisitsOf
    (location ++ [.key entry.1, .key "actions"]) package 0 entry.2

def StyleVariant.visits (location : Location) (package : Value) : Nat →
    List StyleVariant → List FormulaVisit
  | _, [] => []
  | position, variant :: rest =>
    Formula.tableVisits (location ++ [.index position, .key "customProperties"])
        [.key "formula"] package variant.customProperties
      ++ visits location package (position + 1) rest

namespace Node

/-- Attributes, events and properties of a node that shows a component belong to the package of that
component. -/
def bodyVisits (location : Location) (package : Value) : NodeBody → List FormulaVisit
  | .text content => Formula.visitsOf (location ++ [.key "value"]) package content
  | .element _ attributes events classes customProperties variants _ =>
    Formula.tableVisits (location ++ [.key "attrs"]) [] package attributes
      ++ Action.eventFormulaVisits (location ++ [.key "events"]) package events
      ++ Formula.tableVisits (location ++ [.key "classes"]) [.key "formula"] package classes
      ++ Formula.tableVisits (location ++ [.key "customProperties"])
        [.key "formula"] package customProperties
      ++ StyleVariant.visits (location ++ [.key "variants"]) package 0 variants
  | .component _ own attributes events customProperties _ =>
    let inner := own.orElse package
    Formula.tableVisits (location ++ [.key "attrs"]) [] inner attributes
      ++ Action.eventFormulaVisits (location ++ [.key "events"]) inner events
      ++ Formula.tableVisits (location ++ [.key "customProperties"])
        [.key "formula"] inner customProperties
  | .slot .. => []

def formulaVisits (node : Node) (location : Location) (package : Value) : List FormulaVisit :=
  Formula.visitsOf (location ++ [.key "condition"]) package node.flow.condition
    ++ Formula.visitsOf (location ++ [.key "repeat"]) package node.flow.repeated
    ++ Formula.visitsOf (location ++ [.key "repeatKey"]) package node.flow.repeatKey
    ++ bodyVisits location package node.body

end Node

namespace ToggledFormula

def visits (location : Location) (package : Value) (entries : Table ToggledFormula) :
    List FormulaVisit :=
  entries.flatMap fun entry =>
    Formula.visitsOf (location ++ [.key entry.1, .key "formula"]) package entry.2.formula
      ++ Formula.visitsOf (location ++ [.key entry.1, .key "enabled"]) package entry.2.enabled

end ToggledFormula

namespace ComponentApi

def formulaVisits (api : ComponentApi) (location : Location) (package : Value) :
    List FormulaVisit :=
  Formula.visitsOf (location ++ [.key "autoFetch"]) package api.autoFetch
    ++ Formula.visitsOf (location ++ [.key "url"]) package api.url
    ++ Formula.visitsOf (location ++ [.key "method"]) package api.method
    ++ Formula.visitsOf (location ++ [.key "body"]) package api.body
    ++ ToggledFormula.visits (location ++ [.key "headers"]) package api.headers
    ++ ToggledFormula.visits (location ++ [.key "queryParams"]) package api.queryParams
    ++ Action.fallbackFormulaVisits
      (location ++ [.key "client", .key "onCompleted", .key "actions"]) package
        api.onCompleted
    ++ Action.fallbackFormulaVisits
        (location ++ [.key "client", .key "onFailed", .key "actions"]) package api.onFailed
    ++ Action.fallbackFormulaVisits
        (location ++ [.key "client", .key "onMessage", .key "actions"]) package api.onMessage

end ComponentApi

namespace RouteInfo

def formulaVisits (package : Value) : Option RouteInfo → List FormulaVisit
  | none => []
  | some route =>
    Formula.visitsOf [.key "route", .key "info", .key "title", .key "formula"] package route.title
      ++ Formula.visitsOf [.key "route", .key "info", .key "description", .key "formula"] package
          route.description

end RouteInfo

namespace Component

/-- Every formula of a component, section by section. -/
def formulaVisits (component : Component) (package : Value) : List FormulaVisit :=
  RouteInfo.formulaVisits package component.route
    ++ (component.formulas.flatMap fun entry =>
        Formula.visitsOf [.key "formulas", .key entry.1, .key "formula"] package entry.2.formula)
    ++ Formula.tableVisits [.key "variables"] [.key "initialValue"] package component.initialValues
    ++ (component.workflows.flatMap fun entry =>
        Action.formulaVisitsOf [.key "workflows", .key entry.1, .key "actions"]
          package 0 entry.2.actions)
    ++ (component.apis.flatMap fun entry => entry.2.formulaVisits
      [.key "apis", .key entry.1] package)
    ++ Action.fallbackFormulaVisits [.key "onLoad", .key "actions"] package component.onLoad
    ++ Action.fallbackFormulaVisits [.key "onAttributeChange", .key "actions"] package
        component.onAttributeChange
    ++ (component.nodes.flatMap fun entry => entry.2.formulaVisits
      [.key "nodes", .key entry.1] package)

end Component

end Interplay
