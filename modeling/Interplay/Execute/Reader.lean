import Interplay.Component.Reader
import Interplay.Evaluate.Reader
import Interplay.Execute.Stock
import Interplay.Registry.Reader

/-!
Ensembles from documents: instances of components with their signals, scopes and providers, ready to
run.
-/

namespace Interplay
namespace Execute

/-- Instances and scopes by name, and the world they live in. -/
structure Ensemble where
  setting : Setting
  world : World
  names : Keyed Scalar Nat
  scopes : Keyed Scalar Nat

structure HostCode where
  formula : Value → FormulaHandler
  action : Value → ActionHandler

def Instance.blank : Instance :=
  { signal := 0, registry := Registry.empty, component := none, package := .null,
    apis := [], scope := none, triggerEvent := none, setUrlParameters := none, root := .null,
    overlay := .mapping [], logErrors := false }

def numberOf (names : Keyed Scalar Nat) (name : Value) : Except Failure Nat := do
  match Keyed.find? (← name.toKey) names with
  | some number => return number
  | none => .error (.mishap (.missingKey name))

def numberOf? (names : Keyed Scalar Nat) (name : Value) : Except Failure (Option Nat) :=
  if name.isFilled then (numberOf names name).map some else .ok none

/-- Numbers things by their names; of several with one name the last counts. -/
def numbering (names : List Value) : Except Failure (Keyed Scalar Nat) :=
  names.zipIdx.foldlM (fun known entry => do return Keyed.insert (← entry.1.toKey) entry.2 known) []

/-- An instance with a registry of its own, or with the shared one. -/
def Instance.read (code : HostCode) (shared : Registry FormulaHandler ActionHandler)
    (scopes : Keyed Scalar Nat) (source : Value) (number : Nat) : Except Failure Instance := do
  let registry ← match source.field? "registry" with
    | some entries => Registry.readAll code.formula code.action (← entries.elements)
    | none => .ok shared
  let component ← Component.read (source.field "component")
  return {
    signal := number
    registry := registry
    component := component
    package := source.field "package"
    apis := (← source.fieldEntries "apis").map fun entry =>
      (entry.1.display, Stock.api number entry.1.display entry.2)
    scope := ← numberOf? scopes (source.field "scope")
    triggerEvent := Stock.recorder? (source.field "trigger_event") "event" .text
    setUrlParameters := Stock.recorder? (source.field "url") "url" .mapping
    root := source.field "root"
    overlay := (source.field "overlay").orElse (.mapping [])
    logErrors := (source.field "log_errors").isFilled }

/-- What a provider document provides: an instance, the signal of one, or a plain value. -/
def Provision.read (names : Keyed Scalar Nat) (source : Value) : Except Failure Provision :=
  match source.field? "instance", source.field? "signal_of" with
  | some name, _ => (numberOf names name).map .host
  | none, some name => (numberOf names name).map .signal
  | none, none => .ok (.value (source.field "value"))

def provideFrom (names numbers : Keyed Scalar Nat) (scopes : Scopes Provision) (source : Value) :
    Except Failure (Scopes Provision) := do
  let scope ← numberOf numbers (source.field "scope")
  scopes.provideAt scope (source.field "key") (← Provision.read names source)

def initialContent (source : Value) : Value :=
  source.fieldOr "data" (.object [("Variables", .mapping [])])

def runningFrom (limits : Limits) (source : Value) : Cycle.Workflow String :=
  Cycle.Workflow.empty
    (limits.orCeiling "action" "max_workflow_recursion" (source.field "max_recursion"))

def readScopes (sources : List Value) : Except Failure (Keyed Scalar Nat × Scopes Provision) :=
  sources.foldlM (fun (known : Keyed Scalar Nat × Scopes Provision) source => do
    let parent ← numberOf? known.1 (source.field "parent")
    let key ← (source.field "name").toKey
    return (Keyed.insert key known.2.length known.1, known.2.create parent)) ([], [])

namespace Ensemble

def nameOf : Value → Except Failure Value
  | .mapping entries => .ok ((Value.mapping entries).fieldOr "name" (.text "main"))
  | other => .error (.mishap (.noAttribute other.typeName "get"))

/-- The number of each instance, which is also that of its signal. -/
def numbers (source : Value) : Except Failure (Keyed Scalar Nat) := do
  numbering (← (← source.needItems "instances").mapM nameOf)

def read (code : HostCode) (formulaFuel : Nat) (machine : Machine) (source : Value) :
    Except Failure Ensemble := do
  let sources ← source.needItems "instances"
  let shared ← Registry.readAll code.formula code.action (← source.fieldItems "registry")
  let scopes ← readScopes (← source.fieldItems "scopes")
  let instances ← sources.zipIdx.mapM fun item => Instance.read code shared scopes.1 item.1 item.2
  let names ← numbers source
  let provided ← (← source.fieldItems "provides").foldlM (provideFrom names scopes.1) scopes.2
  return {
    setting :=
      { instances := fun number => (instances[number]?).getD Instance.blank,
        formulaFuel := formulaFuel }
    world := {
      cells := (sources.map fun item => Signal.Cell.fresh (initialContent item) none).toArray
      nextSubscription := 0
      host := {
        machine := { machine with hosts := (sources.map machine.readHost).toArray }
        workflows := (sources.map (runningFrom machine.limits)).toArray
        continuations := #[]
        promises := #[]
        queue := []
        hasLoop := (source.field "loop").isFilled
        scopes := provided } }
    names := names
    scopes := scopes.1 }

end Ensemble
end Execute
end Interplay
