import Interplay.Component.Reader
import Interplay.References
import Interplay.Value.Fields

/-!
Libraries from documents, and what a component refers to as a document.
-/

namespace Interplay
namespace Library

def readEntry (library : Library) (entry : Value) : Except Failure Library := do
  let found ← Component.read (entry.field "component")
  let name ← (entry.field "name").toKey
  let package ← (entry.field "package").toKey
  return Keyed.insert (name, package) found library

/-- Later entries replace earlier ones of the same name and package. -/
def read (entries : List Value) : Except Failure Library :=
  entries.foldlM readEntry []

end Library

namespace Component

/-- What a component shows to others; without a component there is nothing to show. -/
def exposure (found : Option Component) : Value :=
  .object [
    ("formulas", .texts (found.elim [] exposedFormulas)),
    ("workflows", .texts (found.elim [] exposedWorkflows)),
    ("provider", .bool (found.elim false isProvider))]

def referenceReport (library : Library) (package : Value) (visited : List Scalar)
    (component : Component) :
    Except Failure Value := do
  let references ← component.subComponents library package visited
  return .object [
    ("formulas", .texts component.formulaReferences),
    ("actions", .texts component.actionReferences),
    ("sub_components", .texts (references.map ComponentReference.key)),
    ("asked", .list
      (references.map fun reference => .list [.text reference.name, reference.package]))]

end Component
end Interplay
