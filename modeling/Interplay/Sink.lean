import Interplay.Value.Order

/-!
The bounded sink that keeps faults.

Once it holds as many as its capacity allows, further ones are only counted.  A capacity that no
number can be compared with makes every attempt to add a failure.
-/

namespace Interplay

structure Sink (α : Type) where
  capacity : Value
  kept : List α
  dropped : Nat

namespace Sink

variable {α : Type}

def ofCapacity (capacity : Value) : Sink α :=
  { capacity := capacity, kept := [], dropped := 0 }

def isFull (sink : Sink α) : Except Failure Bool :=
  (Value.ofNat sink.kept.length).compare .atLeast sink.capacity

def add (item : α) (sink : Sink α) : Except Failure (Sink α) :=
  match sink.isFull with
  | .error failure => .error failure
  | .ok true => .ok { sink with dropped := sink.dropped + 1 }
  | .ok false => .ok { sink with kept := sink.kept ++ [item] }

/-- What was added so far, kept or dropped. -/
def total (sink : Sink α) : Nat :=
  sink.kept.length + sink.dropped

def clear (sink : Sink α) : Sink α :=
  { sink with kept := [], dropped := 0 }

def display (sink : Sink α) : String :=
  "ErrorCollector(" ++ toString sink.kept.length ++ " errors, " ++
    toString sink.dropped ++ " dropped)"

theorem total_add {item : α} {sink after : Sink α} (added : sink.add item = .ok after) :
    after.total = sink.total + 1 := by
  unfold add at added
  split at added <;> simp_all only [Except.ok.injEq, reduceCtorEq] <;>
    subst added <;> simp [total] <;> omega

end Sink
end Interplay
