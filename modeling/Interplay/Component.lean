import Interplay.Action
import Interplay.Keyed

/-!
Components: the containers that own formulas, workflows, variables, APIs and a tree of nodes.
-/

namespace Interplay

structure ComponentFormula where
  name : Value
  formula : Option Formula
  arguments : List String
  memoize : Bool
  isExposed : Bool

structure Workflow where
  name : Value
  actions : List Action
  parameters : List String
  callbacks : List String
  isExposed : Bool

/-- A header or query parameter: its formula and an optional switch. -/
structure ToggledFormula where
  formula : Option Formula
  enabled : Option Formula

structure ComponentApi where
  name : Value
  url : Option Formula
  method : Option Formula
  body : Option Formula
  autoFetch : Option Formula
  headers : Table ToggledFormula
  queryParams : Table ToggledFormula
  onCompleted : Option (List Action)
  onFailed : Option (List Action)
  onMessage : Option (List Action)

structure StyleVariant where
  name : String
  customProperties : Table (Option Formula)

/-- What makes a node of the tree appear, and how often. -/
structure NodeFlow where
  condition : Option Formula
  repeated : Option Formula
  repeatKey : Option Formula

inductive NodeBody where
  | element (tag : String) (attributes : Table (Option Formula)) (events : Table (List Action))
      (classes : Table (Option Formula)) (customProperties : Table (Option Formula))
      (variants : List StyleVariant) (children : List String)
  | text (content : Option Formula)
  | component (name : String) (package : Value) (attributes : Table (Option Formula))
      (events : Table (List Action)) (customProperties : Table (Option Formula))
      (children : List String)
  | slot (name : Value) (children : List String)

structure Node where
  flow : NodeFlow
  body : NodeBody

structure RouteInfo where
  title : Option Formula
  description : Option Formula

structure Component where
  name : String
  formulas : Table ComponentFormula
  workflows : Table Workflow
  initialValues : Table (Option Formula)
  apis : Table ComponentApi
  nodes : Table Node
  onLoad : Option (List Action)
  onAttributeChange : Option (List Action)
  route : Option RouteInfo
  package : Value

namespace Component

def exposedFormulas (component : Component) : List String :=
  (component.formulas.filter fun entry => entry.2.isExposed).map Prod.fst

def exposedWorkflows (component : Component) : List String :=
  (component.workflows.filter fun entry => entry.2.isExposed).map Prod.fst

def isProvider (component : Component) : Bool :=
  !component.exposedFormulas.isEmpty || !component.exposedWorkflows.isEmpty

end Component

end Interplay
