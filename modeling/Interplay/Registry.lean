import Interplay.Formula.Reader
import Interplay.Run

/-!
Registries: formulas and actions by package and name, with a fallback by name alone.

A lookup that names a package asks that package only.  A lookup without one asks the root first and
then the packages in the order of their first registration, of which the first that knows the name
decides.  What is not found may still be in the fallback.
-/

namespace Interplay

/-- Entries by package and name, and fallback entries by name.  A name may be registered without an
entry. -/
structure Catalog (Entry Legacy : Type) where
  packages : Keyed Scalar (Keyed Scalar (Option Entry))
  legacy : Keyed Scalar Legacy

inductive Resolution (Entry Legacy : Type) where
  | versioned (entry : Entry) (package : Value)
  | legacy (entry : Legacy) (package : Value)

namespace Catalog

variable {Entry Legacy : Type}

def root : Scalar := .text ""

def empty : Catalog Entry Legacy := { packages := [], legacy := [] }

def names (key : Scalar) (catalog : Catalog Entry Legacy) : Keyed Scalar (Option Entry) :=
  (Keyed.find? key catalog.packages).getD []

def setNames (key : Scalar) (names : Keyed Scalar (Option Entry)) (catalog : Catalog Entry Legacy) :
    Catalog Entry Legacy :=
  { catalog with packages := Keyed.insert key names catalog.packages }

/-- Registers a name.  The package is there from then on, even if the name cannot be a key. -/
def register (name : Value) (entry : Option Entry) (package : Value) :
    Run (Catalog Entry Legacy) Unit := do
  let key ← Run.ofExcept (package.orElse (.text "")).toKey
  Run.modify fun catalog => catalog.setNames key (catalog.names key)
  let nameKey ← Run.ofExcept name.toKey
  Run.modify fun catalog => catalog.setNames key (Keyed.insert nameKey entry (catalog.names key))

def registerLegacy (name : Value) (entry : Legacy) : Run (Catalog Entry Legacy) Unit := do
  let key ← Run.ofExcept name.toKey
  Run.modify fun catalog => { catalog with legacy := Keyed.insert key entry catalog.legacy }

/-- The first package that knows the name, the root left out. -/
def firstHolder (name : Scalar) :
    Keyed Scalar (Keyed Scalar (Option Entry)) → Option (Option Entry × Value)
  | [] => none
  | (key, table) :: rest =>
    if key == root then firstHolder name rest
    else match Keyed.find? name table with
      | some entry => some (entry, .scalar key)
      | none => firstHolder name rest

/-- The entry of a name that belongs to no package, or to the first package that knows it. -/
def findAnywhere (name : Scalar) (catalog : Catalog Entry Legacy) : Option (Entry × Value) :=
  match Keyed.find? name (catalog.names root) with
  | some (some entry) => some (entry, .null)
  | _ =>
    match firstHolder name catalog.packages with
    | some (some entry, package) => some (entry, package)
    | _ => none

/-- The entry of a name with the package it was found in. -/
def find? (name package : Value) (catalog : Catalog Entry Legacy) :
    Except Failure (Option (Entry × Value)) :=
  if package.isFilled then do
    let key ← package.toKey
    let nameKey ← name.toKey
    match Keyed.find? nameKey (catalog.names key) with
    | some (some entry) => return some (entry, package)
    | _ => return none
  else do
    let nameKey ← name.toKey
    return catalog.findAnywhere nameKey

def legacy? (name : Value) (catalog : Catalog Entry Legacy) : Except Failure (Option Legacy) := do
  return Keyed.find? (← name.toKey) catalog.legacy

def resolve (name package : Value) (catalog : Catalog Entry Legacy) :
    Except Failure (Option (Resolution Entry Legacy)) := do
  match ← catalog.find? name package with
  | some (entry, found) => return some (.versioned entry found)
  | none => return (← catalog.legacy? name).map fun entry => .legacy entry package

def packageKeys (catalog : Catalog Entry Legacy) : List Scalar :=
  catalog.packages.map Prod.fst

end Catalog

structure FormulaDefinition where
  name : Value
  formula : Option Formula
  arguments : List Value

namespace FormulaDefinition

/-- The filled names of declared arguments; every declaration must be an object. -/
def readArguments : List Value → Except Failure (List Value)
  | [] => .ok []
  | .mapping entries :: rest => do
    let name := Value.field "name" (.mapping entries)
    let others ← readArguments rest
    return if name.isFilled then name :: others else others
  | other :: _ => .error (.mishap (.noAttribute other.typeName "get"))

def read (name source : Value) : Except Failure FormulaDefinition := do
  let formula ← Formula.read (source.field "formula")
  let declared ← (source.field "arguments").elements
  let arguments ← readArguments declared
  return { name := (source.field "name").orElse name, formula := formula, arguments := arguments }

end FormulaDefinition

/-- A registered formula: host code, a definition, or a value that cannot be called. -/
inductive FormulaEntry (Handler : Type) where
  | handler (handler : Handler)
  | definition (definition : FormulaDefinition)
  | value (content : Value)

/-- What a formula is registered with: an entry, or an object to read its definition from. -/
inductive FormulaSource (Handler : Type) where
  | entry (entry : Option (FormulaEntry Handler))
  | document (fields : Entries)

def FormulaSource.read {Handler : Type} (name : Value) :
    FormulaSource Handler → Except Failure (Option (FormulaEntry Handler))
  | entry found => .ok found
  | document fields => do
    return some (.definition (← FormulaDefinition.read name (.mapping fields)))

structure Registry (FormulaHandler ActionHandler : Type) where
  formulas : Catalog (FormulaEntry FormulaHandler) FormulaHandler
  actions : Catalog ActionHandler ActionHandler

namespace Registry

variable {FormulaHandler ActionHandler : Type}

def empty : Registry FormulaHandler ActionHandler :=
  { formulas := .empty, actions := .empty }

def onFormulas {α : Type} (body : Run (Catalog (FormulaEntry FormulaHandler) FormulaHandler) α) :
    Run (Registry FormulaHandler ActionHandler) α :=
  Run.zoom formulas (fun formulas registry => { registry with formulas := formulas }) body

def onActions {α : Type} (body : Run (Catalog ActionHandler ActionHandler) α) :
    Run (Registry FormulaHandler ActionHandler) α :=
  Run.zoom actions (fun actions registry => { registry with actions := actions }) body

def registerFormula (name : Value) (source : FormulaSource FormulaHandler) (package : Value) :
    Run (Registry FormulaHandler ActionHandler) Unit := do
  let entry ← Run.ofExcept (source.read name)
  onFormulas (Catalog.register name entry package)

def registerAction (name : Value) (handler : ActionHandler) (package : Value) :
    Run (Registry FormulaHandler ActionHandler) Unit :=
  onActions (Catalog.register name (some handler) package)

def registerLegacyFormula (name : Value) (handler : FormulaHandler) :
    Run (Registry FormulaHandler ActionHandler) Unit :=
  onFormulas (Catalog.registerLegacy name handler)

def registerLegacyAction (name : Value) (handler : ActionHandler) :
    Run (Registry FormulaHandler ActionHandler) Unit :=
  onActions (Catalog.registerLegacy name handler)

/-- Every package but the root: those with formulas first, then those with actions only. -/
def packages (registry : Registry FormulaHandler ActionHandler) : List Scalar :=
  let formulaKeys := registry.formulas.packageKeys
  let actionKeys := registry.actions.packageKeys.filter fun key => !formulaKeys.contains key
  (formulaKeys ++ actionKeys).filter fun key => !(key == Catalog.root)

end Registry
end Interplay
