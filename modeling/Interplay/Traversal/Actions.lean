import Interplay.Traversal.Formulas

/-!
Structural walks that list the actions of a tree, in pre-order and with the bodies nested in them.
-/

namespace Interplay

structure ActionVisit where
  location : Location
  action : Action

namespace Action

mutual

def visits (location : Location) : Action → List ActionVisit
  | fetch name inputs onSuccess onError onMessage =>
    ⟨location, fetch name inputs onSuccess onError onMessage⟩
      :: visitsOf (location ++ [.key "onSuccess", .key "actions"]) 0 onSuccess
      ++ visitsOf (location ++ [.key "onError", .key "actions"]) 0 onError
      ++ visitsOf (location ++ [.key "onMessage", .key "actions"]) 0 onMessage
  | custom name package arguments events =>
    ⟨location, custom name package arguments events⟩ :: bodyVisits
      (location ++ [.key "events"]) events
  | triggerWorkflow name parameters callbacks provider package =>
    ⟨location, triggerWorkflow name parameters callbacks provider package⟩
      :: bodyVisits (location ++ [.key "callbacks"]) callbacks
  | switch cases fallback data =>
    ⟨location, switch cases fallback data⟩
      :: caseVisits location 0 cases
      ++ fallbackVisits (location ++ [.key "default", .key "actions"]) fallback
  | setVariable name data => [⟨location, setVariable name data⟩]
  | triggerEvent name data => [⟨location, triggerEvent name data⟩]
  | abortFetch name => [⟨location, abortFetch name⟩]
  | setUrlParameter name data historyMode => [⟨location, setUrlParameter name data historyMode⟩]
  | setUrlParameters parameters historyMode => [⟨location, setUrlParameters parameters historyMode⟩]
  | triggerWorkflowCallback name data => [⟨location, triggerWorkflowCallback name data⟩]

def visitsOf (location : Location) : Nat → List Action → List ActionVisit
  | _, [] => []
  | position, action :: rest =>
    visits (location ++ [.index position]) action ++ visitsOf location (position + 1) rest

def bodyVisits (location : Location) : List ActionBody → List ActionVisit
  | [] => []
  | .mk name actions :: rest =>
    visitsOf (location ++ [.key name, .key "actions"]) 0 actions ++ bodyVisits location rest

def caseVisits (location : Location) : Nat → List ActionCase → List ActionVisit
  | _, [] => []
  | position, .mk _ actions :: rest =>
    visitsOf (location ++ [.key "cases", .index position, .key "actions"]) 0 actions
      ++ caseVisits location (position + 1) rest

def fallbackVisits (location : Location) : Option (List Action) → List ActionVisit
  | none => []
  | some actions => visitsOf location 0 actions

end

end Action

namespace Node

/-- The actions of the events of a node. -/
def actionVisits (node : Node) (location : Location) : List ActionVisit :=
  match node.body with
  | .element _ _ events .. => eventVisits events
  | .component _ _ _ events .. => eventVisits events
  | _ => []
where
  eventVisits (events : Table (List Action)) : List ActionVisit :=
    events.flatMap fun entry =>
      Action.visitsOf (location ++ [.key "events", .key entry.1, .key "actions"]) 0 entry.2

end Node

namespace Component

/-- The actions of a component, section by section; what its APIs do on a message is not listed. -/
def actionVisits (component : Component) (location : Location) : List ActionVisit :=
  (component.workflows.flatMap fun entry =>
      Action.visitsOf
        (location ++ [.key "workflows", .key entry.1, .key "actions"]) 0 entry.2.actions)
    ++ (component.apis.flatMap fun entry =>
        Action.fallbackVisits
            (location ++ [.key "apis", .key entry.1, .key "client",
              .key "onCompleted", .key "actions"])
            entry.2.onCompleted
          ++ Action.fallbackVisits
            (location ++ [.key "apis", .key entry.1, .key "client",
              .key "onFailed", .key "actions"])
            entry.2.onFailed)
    ++ Action.fallbackVisits (location ++ [.key "onLoad", .key "actions"]) component.onLoad
    ++ Action.fallbackVisits (location ++ [.key "onAttributeChange", .key "actions"])
        component.onAttributeChange
    ++ (component.nodes.flatMap fun entry =>
        entry.2.actionVisits (location ++ [.key "nodes", .key entry.1]))

end Component
end Interplay
