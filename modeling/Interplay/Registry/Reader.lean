import Interplay.Registry
import Interplay.Value.Fields

/-!
Registries from documents.

An entry has to say its kind and its name, and may say a package.  A formula may come with a
definition; every other entry is host code, which the given functions find for it.
-/

namespace Interplay
namespace Registry

variable {FormulaHandler ActionHandler : Type}

def readSource (handler : Value → FormulaHandler) (entry : Value) : FormulaSource FormulaHandler :=
  match entry.field? "definition" with
  | none => .entry (some (.handler (handler entry)))
  | some .null => .entry none
  | some (.mapping fields) => .document fields
  | some other => .entry (some (.value other))

def readEntry (formula : Value → FormulaHandler) (action : Value → ActionHandler) (entry : Value) :
    Run (Registry FormulaHandler ActionHandler) Unit := do
  let kind ← Run.ofExcept (entry.need "kind")
  let name ← Run.ofExcept (entry.need "name")
  let package := entry.field "package"
  match kind.display with
  | "formula" => registerFormula name (readSource formula entry) package
  | "legacy_formula" => registerLegacyFormula name (formula entry)
  | "action" => registerAction name (action entry) package
  | _ => registerLegacyAction name (action entry)

/-- Registers all entries, in order.  Registering uses no fuel, so it never runs out of it. -/
def readAll (formula : Value → FormulaHandler) (action : Value → ActionHandler)
    (entries : List Value) :
    Except Failure (Registry FormulaHandler ActionHandler) :=
  match Run.forEach (readEntry formula action) entries empty with
  | .done () registry => .ok registry
  | .raised failure _ => .error failure
  | .exhausted => .ok empty

end Registry
end Interplay
