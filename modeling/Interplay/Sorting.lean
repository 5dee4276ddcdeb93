import Interplay.Sorting.Merge
import Interplay.Sorting.Runs

/-!
Sorting by a comparison that need not be an order.

The list is cut into sorted runs, which are merged with their neighbours.  If the comparison is a
total order, this is a stable sort; if it is none, as with undefined numbers, this says which
arrangement comes out.
-/

namespace Interplay
namespace Sorting

variable {α : Type}

/-- A run waiting to be merged, with where it starts and the level of its border to the next one. -/
structure Pending (α : Type) where
  start : Nat
  items : List α
  level : Nat

/-- Runs waiting, last first, and the patience of the next merge. -/
structure Pile (α : Type) where
  pending : List (Pending α)
  patience : Nat

/-- After how many halvings of a list two points of it, given by twice their places, are first
parted; with fuel for the number of halvings. -/
def partingLevel (length : Nat) : Nat → Nat → Nat → Nat
  | 0, _, _ => 0
  | fuel + 1, left, right =>
    if length ≤ left then partingLevel length fuel (2 * (left - length)) (2 * (right - length)) + 1
    else if length ≤ right then 1
    else partingLevel length fuel (2 * left) (2 * right) + 1

/-- The level of a border: where halving the list parts the middles of the runs on either side. -/
def borderLevel (length : Nat) (left : Pending α) (right : List α) : Nat :=
  let middle := 2 * left.start + left.items.length
  partingLevel length (length + 1) middle (middle + left.items.length + right.length)

namespace Pile

def empty : Pile α := { pending := [], patience := longStretch }

def join (below : α → α → Bool) (left right : Pending α) (patience : Nat) : Pending α × Nat :=
  let merged := mergeRuns below left.items right.items patience
  ({ left with items := merged.1 }, merged.2)

/-- Merges runs whose border is of a deeper level than the new one, with fuel for their number. -/
def settle (below : α → α → Bool) (level : Nat) : Nat → Pile α → Pile α
  | 0, pile => pile
  | fuel + 1, pile =>
    match pile.pending with
    | right :: left :: rest =>
      if level < left.level then
        let joined := join below left right pile.patience
        settle below level fuel { pending := joined.1 :: rest, patience := joined.2 }
      else
        pile
    | _ => pile

/-- Puts a run of a list of the given length on the pile. -/
def push (below : α → α → Bool) (length : Nat) (pile : Pile α) (items : List α) : Pile α :=
  match pile.pending with
  | [] => { pile with pending := [{ start := 0, items := items, level := 0 }] }
  | top :: _ =>
    let level := borderLevel length top items
    let added : Pending α := { start := top.start + top.items.length, items := items, level := 0 }
    let settled := settle below level pile.pending.length pile
    match settled.pending with
    | [] => { settled with pending := [added] }
    | last :: rest => { settled with pending := added :: { last with level := level } :: rest }

/-- Merges all runs, the last two first unless the last one is the longest of three; with fuel for
their number. -/
def collapse (below : α → α → Bool) : Nat → Pile α → List α
  | 0, pile => (pile.pending.reverse.map Pending.items).flatten
  | fuel + 1, pile =>
    match pile.pending with
    | [] => []
    | [only] => only.items
    | [right, left] =>
      let joined := join below left right pile.patience
      collapse below fuel { pending := [joined.1], patience := joined.2 }
    | right :: middle :: left :: rest =>
      if left.items.length < right.items.length then
        let joined := join below left middle pile.patience
        collapse below fuel { pending := right :: joined.1 :: rest, patience := joined.2 }
      else
        let joined := join below middle right pile.patience
        collapse below fuel { pending := joined.1 :: left :: rest, patience := joined.2 }

end Pile

def ascending (below : α → α → Bool) (items : List α) : List α :=
  let length := items.length
  let cut := runs below (leastRun length length 0) length items
  (cut.foldl (Pile.push below length) Pile.empty).collapse below cut.length

def descending (below : α → α → Bool) (items : List α) : List α :=
  (ascending below items.reverse).reverse

end Sorting
end Interplay
