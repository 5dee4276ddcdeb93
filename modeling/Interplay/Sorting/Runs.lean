/-!
Cutting a list into sorted runs.

The items at the front that already ascend are a run, and so are items that strictly descend, the
other way round.  A run that is too short is filled up from the items behind it, each put among the
sorted ones by halving, behind those it equals.

Searches look at few positions only.  If the positions that pass a test all come first, they give
their number; if not, as where undefined numbers are compared, they say which place comes out.
-/

namespace Interplay
namespace Sorting

/-- Searches between `low` and `high` by halving, with fuel for the number of halvings. -/
def halve (passes : Nat → Bool) : Nat → Nat → Nat → Nat
  | 0, low, _ => low
  | fuel + 1, low, high =>
    if low < high then
      let middle := low + (high - low) / 2
      if passes middle then halve passes fuel (middle + 1) high else halve passes fuel low middle
    else
      low

/-- Doubles a stride as long as it stays under a limit and the walk goes on; gives the last two
strides. -/
def strides (goesOn : Nat → Bool) (limit : Nat) : Nat → Nat → Nat → Nat × Nat
  | 0, last, next => (last, min next limit)
  | fuel + 1, last, next =>
    if next < limit ∧ goesOn next then strides goesOn limit fuel next (2 * next + 1)
    else (last, min next limit)

/-- Searches `count` positions from a hint on: away from it in doubled strides, and then by
halving. -/
def gallop (passes : Nat → Bool) (count hint : Nat) : Nat :=
  if passes hint then
    let reached := strides (fun stride => passes (hint + stride)) (count - hint) count 0 1
    halve passes count (hint + reached.1 + 1) (hint + reached.2)
  else
    let reached := strides (fun stride => !passes (hint - stride)) (hint + 1) count 0 1
    halve passes count (hint + 1 - reached.2) (hint - reached.1)

variable {α : Type}

/-- How many items follow on `last` without a break. -/
def followers (follows : α → α → Bool) : α → List α → Nat
  | _, [] => 0
  | last, item :: rest => if follows last item then followers follows item rest + 1 else 0

/-- The items at the front that are in order, put in ascending order, and the rest. -/
def leadingRun (below : α → α → Bool) : List α → List α × List α
  | [] => ([], [])
  | [item] => ([item], [])
  | first :: second :: rest =>
    let items := first :: second :: rest
    if below second first then
      let count := followers (fun last item => below item last) second rest + 2
      ((items.take count).reverse, items.drop count)
    else
      let count := followers (fun last item => !below item last) second rest + 2
      (items.take count, items.drop count)

def insert (below : α → α → Bool) (sorted : List α) (item : α) : List α :=
  let position :=
    halve (fun place => !(sorted[place]?).any (below item)) sorted.length 0 sorted.length
  sorted.take position ++ item :: sorted.drop position

/-- The least length of a run in a list: the length halved until it is under 64, and one more if
halving ever left something over.  `carry` says whether it did. -/
def leastRun : Nat → Nat → Nat → Nat
  | 0, length, carry => length + carry
  | fuel + 1, length, carry =>
    if length < 64 then length + carry else leastRun fuel (length / 2) (max carry (length % 2))

/-- A run of at least the given length, as far as there are items, and the rest. -/
def takeRun (below : α → α → Bool) (least : Nat) (items : List α) : List α × List α :=
  let found := leadingRun below items
  let missing := least - found.1.length
  ((found.2.take missing).foldl (insert below) found.1, found.2.drop missing)

def runs (below : α → α → Bool) (least : Nat) : Nat → List α → List (List α)
  | 0, _ => []
  | _, [] => []
  | fuel + 1, items =>
    let taken := takeRun below least items
    taken.1 :: runs below least fuel taken.2

end Sorting
end Interplay
