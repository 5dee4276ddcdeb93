import Interplay.Formula

/-!
The action language: effects on an instance and on its surroundings.
-/

namespace Interplay

structure NamedFormula where
  name : String
  formula : Option Formula

mutual

inductive Action where
  | setVariable (name : String) (data : Option Formula)
  | triggerEvent (name : String) (data : Option Formula)
  | switch (cases : List ActionCase) (fallback : Option (List Action)) (data : Option Formula)
  | fetch (name : String) (inputs : List NamedFormula) (onSuccess onError onMessage : List Action)
  | abortFetch (name : String)
  /-- An action of a package, with bodies for the events it may emit. -/
  | custom (name : String) (package : Value) (arguments : List NamedFormula)
      (events : List ActionBody)
  | setUrlParameter (name : String) (data : Option Formula) (historyMode : Value)
  | setUrlParameters (parameters : List NamedFormula) (historyMode : Value)
  | triggerWorkflow (name : String) (parameters : List NamedFormula) (callbacks : List ActionBody)
      (contextProvider package : Value)
  | triggerWorkflowCallback (name : String) (data : Option Formula)

inductive ActionCase where
  | mk (condition : Option Formula) (actions : List Action)

inductive ActionBody where
  | mk (name : String) (actions : List Action)

end

namespace ActionCase

def condition : ActionCase → Option Formula
  | mk condition _ => condition

def actions : ActionCase → List Action
  | mk _ actions => actions

end ActionCase

namespace ActionBody

def name : ActionBody → String
  | mk name _ => name

def actions : ActionBody → List Action
  | mk _ actions => actions

def find? (name : String) : List ActionBody → Option (List Action)
  | [] => none
  | mk found actions :: rest => if found = name then some actions else find? name rest

end ActionBody

namespace Action

/-- The name of the variant, as trails, metrics and faults show it. -/
def kind : Action → String
  | setVariable .. => "SetVariable"
  | triggerEvent .. => "TriggerEvent"
  | switch .. => "Switch"
  | fetch .. => "Fetch"
  | abortFetch _ => "AbortFetch"
  | custom .. => "Custom"
  | setUrlParameter .. => "SetURLParameter"
  | setUrlParameters .. => "SetURLParameters"
  | triggerWorkflow .. => "TriggerWorkflow"
  | triggerWorkflowCallback .. => "TriggerWorkflowCallback"

def name? : Action → Option String
  | setVariable name _ => some name
  | triggerEvent name _ => some name
  | fetch name .. => some name
  | abortFetch name => some name
  | custom name .. => some name
  | setUrlParameter name .. => some name
  | triggerWorkflow name .. => some name
  | triggerWorkflowCallback name _ => some name
  | switch .. => none
  | setUrlParameters .. => none

end Action
end Interplay
