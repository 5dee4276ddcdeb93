import Interplay.Sorting.Runs

/-!
Merging two sorted runs.

Items are taken one at a time, and equal ones from the left run first.  Once one run has won often
enough in a row, whole stretches are taken at once, each found by a search from where the merge
stands.  How often is enough is remembered from one merge to the next: it falls while stretches stay
long and rises when they do not.

The shorter run is held apart and the other one is filled in around it, from the front if the left
run is the shorter one and from the back if not.  Only the held run may still have an item when the
merge is over.
-/

namespace Interplay
namespace Sorting

variable {α : Type}

/-- From which side a merge works: from the front it holds the left run apart, from the back the
right one. -/
inductive Side where
  | front
  | back

/-- A merge under way, seen from its side: what is done is kept last first, and what is left next
first. -/
structure Merging (α : Type) where
  side : Side
  merged : List α
  left : List α
  right : List α
  /-- How many wins in a row are enough for taking stretches. -/
  patience : Nat

/-- How a merge goes on: one item at a time, with the wins in a row of either run, or by
stretches. -/
inductive Pace where
  | single (leftWins rightWins : Nat)
  | stretches

def longStretch : Nat := 7

namespace Merging

def takeLeft (count : Nat) (merging : Merging α) : Merging α :=
  { merging with
    merged := (merging.left.take count).reverse ++ merging.merged, left := merging.left.drop count }

def takeRight (count : Nat) (merging : Merging α) : Merging α :=
  { merging with
    merged := (merging.right.take count).reverse ++ merging.merged
    right := merging.right.drop count }

/-- Whether the held run has at most one item left or the other one has none. -/
def isOver (merging : Merging α) : Bool :=
  match merging.side with
  | .front => merging.right.isEmpty || merging.left.length ≤ 1
  | .back => merging.left.isEmpty || merging.right.length ≤ 1

/-- The merged list, with what is left at its place, and the patience for the next merge. -/
def finish (merging : Merging α) : List α × Nat :=
  match merging.side with
  | .front => (merging.merged.reverse ++ merging.right ++ merging.left, merging.patience)
  | .back => (merging.right.reverse ++ merging.left.reverse ++ merging.merged, merging.patience)

/-- How many items of a run, seen from the side, come next, where `passes` tells those that stay
before a key. -/
def stretch (passes : α → Bool) (items : List α) : Side → Nat
  | .front =>
    let places := items.toArray
    gallop (fun place => (places[place]?).any passes) items.length 0
  | .back =>
    let places := items.reverse.toArray
    items.length - gallop (fun place => (places[place]?).any passes) items.length (items.length - 1)

def rightIsNext (below : α → α → Bool) (left right : α) : Side → Bool
  | .front => below right left
  | .back => !below right left

def leftStretch (below : α → α → Bool) (merging : Merging α) : Nat :=
  match merging.right with
  | [] => 0
  | key :: _ => stretch (fun item => !below key item) merging.left merging.side

def rightStretch (below : α → α → Bool) (merging : Merging α) : Nat :=
  match merging.left with
  | [] => 0
  | key :: _ => stretch (fun item => below item key) merging.right merging.side

/-- Goes on until the merge is over, with fuel for the number of items. -/
def run (below : α → α → Bool) : Nat → Pace → Merging α → List α × Nat
  | 0, _, merging => merging.finish
  | fuel + 1, .single leftWins rightWins, merging =>
    match merging.left, merging.right with
    | left :: _, right :: _ =>
      if rightIsNext below left right merging.side then
        let after := merging.takeRight 1
        if after.isOver then after.finish
        else if after.patience ≤ rightWins + 1 then
          run below fuel .stretches { after with patience := after.patience + 1 }
        else run below fuel (.single 0 (rightWins + 1)) after
      else
        let after := merging.takeLeft 1
        if after.isOver then after.finish
        else if after.patience ≤ leftWins + 1 then
          run below fuel .stretches { after with patience := after.patience + 1 }
        else run below fuel (.single (leftWins + 1) 0) after
    | _, _ => merging.finish
  | fuel + 1, .stretches, merging =>
    let eased := { merging with patience := max 1 (merging.patience - 1) }
    let leftCount := eased.leftStretch below
    let first := eased.takeLeft leftCount
    if first.isOver then first.finish
    else
      let second := first.takeRight 1
      if second.isOver then second.finish
      else
        let rightCount := second.rightStretch below
        let third := second.takeRight rightCount
        if third.isOver then third.finish
        else
          let fourth := third.takeLeft 1
          if fourth.isOver then fourth.finish
          else if longStretch ≤ leftCount ∨
            longStretch ≤ rightCount then run below fuel .stretches fourth
          else run below fuel (.single 0 0) { fourth with patience := fourth.patience + 1 }

end Merging

/-- Merges two overlapping runs from one side.  The run that is not held gives the first item: it is
known to come before all of the other run, seen from the side. -/
def mergeFrom (below : α → α → Bool) (side : Side) (left right : List α) (patience : Nat) :
    List α × Nat :=
  let fuel := left.length + right.length
  let start : Merging α := match side with
    | .front => Merging.takeRight 1 ⟨side, [], left, right, patience⟩
    | .back => Merging.takeLeft 1 ⟨side, [], left.reverse, right.reverse, patience⟩
  if start.isOver then start.finish else start.run below fuel (.single 0 0)

/-- Merges neighbouring runs.  What of the left run comes before all of the right one stays where it
is, and so does what of the right run comes after all of the left one. -/
def mergeRuns (below : α → α → Bool) (left right : List α) (patience : Nat) : List α × Nat :=
  match right with
  | [] => (left, patience)
  | first :: _ =>
    let before := Merging.stretch (fun item => !below first item) left .front
    match left.drop before with
    | [] => (left ++ right, patience)
    | head :: rest =>
      let inner := head :: rest
      let last := rest.getLastD head
      let places := right.toArray
      let overlap :=
        gallop (fun place => (places[place]?).any fun item => below item last) right.length
        (right.length - 1)
      if overlap = 0 then (left ++ right, patience)
      else
        let side : Side := if inner.length ≤ overlap then .front else .back
        let merged := mergeFrom below side inner (right.take overlap) patience
        (left.take before ++ merged.1 ++ right.drop overlap, merged.2)

end Sorting
end Interplay
