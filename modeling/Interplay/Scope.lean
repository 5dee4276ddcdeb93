import Interplay.Value.Key

/-!
Scopes of context providers.

A scope sees its own providers first and then those of the scopes it was made in, nearest first.
-/

namespace Interplay

structure Scope (α : Type) where
  providers : Keyed Scalar α
  /-- The scopes it was made in, nearest first. -/
  ancestors : List Nat

abbrev Scopes (α : Type) := List (Scope α)

namespace Scopes

variable {α : Type}

/-- A new scope goes to the end; its number is the number of scopes before it. -/
def create (parent : Option Nat) (scopes : Scopes α) : Scopes α :=
  let ancestors := match parent with
    | none => []
    | some number => number :: ((scopes[number]?).map Scope.ancestors).getD []
  scopes ++ [{ providers := [], ancestors := ancestors }]

def own (scopes : Scopes α) (number : Nat) : Keyed Scalar α :=
  ((scopes[number]?).map Scope.providers).getD []

def provide (number : Nat) (key : Scalar) (provided : α) (scopes : Scopes α) : Scopes α :=
  scopes.modify number fun scope =>
    { scope with providers := Keyed.insert key provided scope.providers }

def consume (number : Nat) (key : Scalar) (scopes : Scopes α) : Option α :=
  let line := number :: ((scopes[number]?).map Scope.ancestors).getD []
  line.findSome? fun ancestor => Keyed.find? key (scopes.own ancestor)

def has (number : Nat) (key : Scalar) (scopes : Scopes α) : Bool :=
  (scopes.consume number key).isSome

/-- Removes a scope's own provider, and says whether there was one. -/
def unprovide (number : Nat) (key : Scalar) (scopes : Scopes α) : Bool × Scopes α :=
  (Keyed.contains key (scopes.own number),
   scopes.modify number fun scope => { scope with providers := Keyed.erase key scope.providers })

def clear (number : Nat) (scopes : Scopes α) : Scopes α :=
  scopes.modify number fun scope => { scope with providers := [] }

/-- As `provide`, `consume` and `unprovide`, for a key that may be none. -/
def provideAt (number : Nat) (key : Value) (provided : α) (scopes : Scopes α) :
    Except Failure (Scopes α) := do
  return scopes.provide number (← key.toKey) provided

@[inherit_doc provideAt]
def consumeAt (number : Nat) (key : Value) (scopes : Scopes α) : Except Failure (Option α) := do
  return scopes.consume number (← key.toKey)

@[inherit_doc provideAt]
def unprovideAt (number : Nat) (key : Value) (scopes : Scopes α) :
    Except Failure (Bool × Scopes α) := do
  match ← key.removalKey (scopes.own number) with
  | none => return (false, scopes)
  | some found => return scopes.unprovide number found

end Scopes

def providerKey (name package : Value) : Value :=
  if package.isFilled then .text (package.display ++ "/" ++ name.display) else name

end Interplay
