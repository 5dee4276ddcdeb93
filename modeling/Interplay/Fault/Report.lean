import Interplay.Fault
import Interplay.Value.Fields

/-!
Faults as plain values, for export.
-/

namespace Interplay

namespace FaultSource

def fields : FaultSource → List (String × Value)
  | general => []
  | formula name type => [("formula_name", name), ("formula_type", type)]
  | action type index => [("action_type", type), ("index", index)]
  | limit category name value ceiling =>
    [("category", category), ("limit", name), ("value", value), ("ceiling", ceiling)]
  | cycle domain path repeated =>
    [("domain", domain), ("cycle_path", .list path), ("repeated", repeated)]

end FaultSource

namespace Fault

def fields (fault : Fault) : List (String × Value) :=
  [("kind", fault.kind),
   ("message", fault.message),
   ("text", .text fault.text),
   ("path", .texts (fault.path.map TrailStep.display)),
   ("path_string", .text (TrailStep.displayPath fault.path)),
   ("component", fault.component),
   ("suggested_fix", fault.suggestedFix),
   ("cause", .ofOption (fault.cause.map Mishap.message))] ++ fault.source.fields

end Fault
end Interplay
