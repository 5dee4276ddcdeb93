import Interplay.Memo
import Interplay.Scope
import Interplay.Session
import Interplay.Value.Entries

/-!
Sessions on a memo and on scopes of providers.
-/

namespace Interplay
namespace Session

abbrev AnyMemo := Memo Scalar Value

def clearMemo (name : Value) (memo : AnyMemo) : Except Failure AnyMemo :=
  if name.isNull then .ok .empty
  else do
    match ← name.removalKey memo.entries with
    | none => return memo
    | some key => return memo.erase key

def memoStep (step : Value) : Run AnyMemo Document := do
  let name := step.field "name"
  let print := step.field "fingerprint"
  let size := look fun (memo : AnyMemo) => .ofNat memo.size
  match ← Run.ofExcept (action step) with
  | "store" => do
    let key ← Run.ofExcept name.toKey
    Run.modify (Memo.store key print (step.field "value"))
    size
  | "clear" => do
    Run.update (clearMemo name)
    size
  | "lookup" => do
    let key ← Run.ofExcept name.toKey
    look fun memo =>
      match memo.lookup key print with
      | some content => .object [("hit", content)]
      | none => .object [("miss", .bool true)]
  | "has" => do
    let key ← Run.ofExcept name.toKey
    look fun memo => .bool (memo.contains key)
  | _ => pure .null

def memoDesk (around : Surroundings) : Desk AnyMemo :=
  ⟨around, memoStep, silent⟩

structure ScopeState where
  /-- A provided value, marked if it is a signal. -/
  scopes : Scopes (Bool × Value)
  names : Keyed Scalar Nat

def newScope (step : Value) : Run ScopeState Unit :=
  Run.update fun state => do
    let parentNumber ← (step.field? "parent").mapM (known state.names)
    let key ← (step.field "scope").toKey
    return {
      scopes := state.scopes.create parentNumber
      names := Keyed.insert key state.scopes.length state.names }

def scopeStep (step : Value) : Run ScopeState Document := do
  let state ← Run.get
  let key := step.field "key"
  let setScopes := fun (scopes : Scopes (Bool × Value)) (state : ScopeState) =>
    { state with scopes := scopes }
  let doing ← Run.ofExcept (action step)
  if doing == "new" then quiet (newScope step)
  else
    let number ← Run.ofExcept (known state.names (step.field "scope"))
    let found := state.scopes.consumeAt number key
    match doing with
    | "clear" => change (setScopes (state.scopes.clear number))
    | "provide" => do
      let provided := match step.field? "signal" with
        | some content => (true, content)
        | none => (false, step.field "value")
      change (setScopes (← Run.ofExcept (state.scopes.provideAt number key provided)))
    | "consume" => return ((← Run.ofExcept found).map Prod.snd).getD (step.field "default")
    | "consume_signal" =>
      match ← Run.ofExcept found with
      | some (true, content) => pure (.object [("$signal", .value content)])
      | _ => pure .null
    | "has" => return Value.bool (← Run.ofExcept found).isSome
    | "unprovide" => do
      let removed ← Run.ofExcept (state.scopes.unprovideAt number key)
      Run.modify (setScopes removed.2)
      pure (.value (.bool removed.1))
    | _ => pure .null

def scopeDesk (around : Surroundings) : Desk ScopeState :=
  ⟨around, scopeStep, silent⟩

end Session
end Interplay
