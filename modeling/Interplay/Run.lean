import Interplay.Fault

/-!
Runs: computations over a state that may finish, raise a failure or run out of fuel.

A raised failure keeps the state reached so far.  Running out of fuel is no outcome of the program:
it says only that the run was not followed to its end.
-/

namespace Interplay

inductive Result (σ α : Type) where
  | done (value : α) (state : σ)
  | raised (failure : Failure) (state : σ)
  | exhausted

/-- The same outcome, with its state seen as part of another one. -/
def Result.mapState {σ τ α : Type} (change : σ → τ) : Result σ α → Result τ α
  | done value state => .done value (change state)
  | raised failure state => .raised failure (change state)
  | exhausted => .exhausted

def Run (σ α : Type) : Type := σ → Result σ α

namespace Run

variable {σ τ α β : Type}

protected def pure (value : α) : Run σ α := fun state => .done value state

protected def bind (first : Run σ α) (next : α → Run σ β) : Run σ β := fun state =>
  match first state with
  | .done value after => next value after
  | .raised failure after => .raised failure after
  | .exhausted => .exhausted

instance : Monad (Run σ) where
  pure := Run.pure
  bind := Run.bind

def raise (failure : Failure) : Run σ α := fun state => .raised failure state

def exhaust : Run σ α := fun _ => .exhausted

def get : Run σ σ := fun state => .done state state

def modify (change : σ → σ) : Run σ Unit := fun state => .done () (change state)

def ofExcept : Except Failure α → Run σ α
  | .ok value => Run.pure value
  | .error failure => raise failure

/-- A change of the state that may fail, and then changes nothing. -/
def update (change : σ → Except Failure σ) : Run σ Unit := fun state =>
  match change state with
  | .ok changed => .done () changed
  | .error failure => .raised failure state

/-- The outcome of a run as a value; the state goes on from where the run stopped. -/
def attempt (body : Run σ α) : Run σ (Except Failure α) := fun state =>
  match body state with
  | .done value after => .done (.ok value) after
  | .raised failure after => .done (.error failure) after
  | .exhausted => .exhausted

/-- A change of the state that follows the body however it ends. -/
def ensuring (final : σ → σ) (body : Run σ α) : Run σ α := fun state =>
  (body state).mapState final

/-- A run that follows the body however it ends; if it fails itself, its failure is the one
raised. -/
def followedBy (final : Run σ Unit) (body : Run σ α) : Run σ α := fun state =>
  match body state with
  | .done value after => Run.bind final (fun _ => Run.pure value) after
  | .raised failure after => Run.bind final (fun _ => raise failure) after
  | .exhausted => .exhausted

def zoom (view : σ → τ) (update : τ → σ → σ) (body : Run τ α) : Run σ α := fun state =>
  (body (view state)).mapState fun part => update part state

def forEach (step : α → Run σ Unit) : List α → Run σ Unit
  | [] => Run.pure ()
  | item :: rest => Run.bind (step item) fun _ => forEach step rest

def forEachIndexed (step : Nat → α → Run σ Unit) : Nat → List α → Run σ Unit
  | _, [] => Run.pure ()
  | index, item :: rest => Run.bind (step index item) fun _ => forEachIndexed step (index + 1) rest

def collect (step : α → Run σ β) : List α → Run σ (List β)
  | [] => Run.pure []
  | item :: rest =>
    Run.bind (step item) fun first => Run.bind (collect step rest) fun others =>
      Run.pure (first :: others)

end Run
end Interplay
