import Interplay.Traversal.Actions
import Interplay.Value.Key

/-!
What a component refers to: functions, custom actions and other components.

Names of functions also appear qualified by the package that applies where they stand.
Sub-components are followed through a library, each reference once, in depth-first order.
-/

namespace Interplay

namespace FormulaVisit

/-- The names under which the function of a visit may be looked up. -/
def references (visit : FormulaVisit) : List String :=
  match visit.formula with
  | .function name _ _ =>
    if visit.package.isFilled then [name, visit.package.qualify name] else [name]
  | _ => []

end FormulaVisit

namespace ActionVisit

def references (visit : ActionVisit) : List String :=
  match visit.action with
  | .custom name .. => if name.isEmpty then [] else [name]
  | _ => []

end ActionVisit

def sortedNames (names : List String) : List String :=
  names.eraseDups.mergeSort (fun left right => decide (left ≤ right))

namespace Component

def formulaReferences (component : Component) : List String :=
  sortedNames ((component.formulaVisits .null).flatMap FormulaVisit.references)

def actionReferences (component : Component) : List String :=
  sortedNames ((component.actionVisits []).flatMap ActionVisit.references)

end Component

/-- A reference to a component, as its name and the package it is looked up in. -/
structure ComponentReference where
  name : String
  package : Value

namespace ComponentReference

def key (reference : ComponentReference) : String :=
  reference.package.qualify reference.name

end ComponentReference

/-- The component that a node shows; its package is its own, else that of the enclosing
component. -/
def Node.reference? (package : Value) (node : Node) : Option ComponentReference :=
  match node.body with
  | .component name own .. => some { name := name, package := own.orElse package }
  | _ => none

/-- Components by name and package; a name may stand for no component. -/
abbrev Library := Keyed (Scalar × Scalar) (Option Component)

namespace Library

/-- The component of a reference, whose package has to be a key. -/
def find? (library : Library) (reference : ComponentReference) :
    Except Failure (Option Component) := do
  return (Keyed.find? (.text reference.name, ← reference.package.toKey) library).join

/-- References that a component and a library make, counted with repetition. -/
def referenceCount (library : Library) (component : Component) : Nat :=
  (component.nodes ++ library.flatMap fun entry => entry.2.elim [] Component.nodes).countP
    fun entry => (entry.2.reference? .null).isSome

end Library

namespace Component

/-- The references reached from a list of nodes, and the keys that have been seen. -/
def subComponentsFrom (library : Library) :
    Nat → Value → List Node → List Scalar → Except Failure (List ComponentReference × List Scalar)
  | _, _, [], visited => .ok ([], visited)
  | fuel, package, node :: rest, visited =>
    match node.reference? package with
    | none => subComponentsFrom library fuel package rest visited
    | some reference =>
      if visited.contains (.text reference.key) then
        subComponentsFrom library fuel package rest visited
      else do
        let met := .text reference.key :: visited
        let found ← library.find? reference
        let inner ←
          match fuel, found with
          | fuel + 1, some component =>
            subComponentsFrom library fuel reference.package (component.nodes.map Prod.snd) met
          | _, _ => .ok ([], met)
        let others ← subComponentsFrom library fuel package rest inner.2
        return (reference :: inner.1 ++ others.1, others.2)
termination_by fuel _ nodes _ => (fuel, nodes.length)

/-- The components that this one refers to, directly or through others, in order of first reference.
There are at most as many keys as pairs of a reference and a package, so the search never runs out
of fuel. -/
def subComponents (component : Component) (library : Library) (package : Value)
    (visited : List Scalar) :
    Except Failure (List ComponentReference) := do
  let count := library.referenceCount component
  let found ← subComponentsFrom library (count * (count + 1) + 1) package
      (component.nodes.map Prod.snd) visited
  return found.1

end Component
end Interplay
