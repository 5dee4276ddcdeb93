import Interplay.Value.Key

/-!
Dependency graphs of packages: cycles and loading order.

Both come from depth-first scans in the order of the graph.  A name that is only a dependency has no
dependencies of its own.
-/

namespace Interplay
namespace Cycle

abbrev PackageGraph (κ : Type) := Keyed κ (List κ)

namespace PackageGraph

variable {κ : Type} [BEq κ] [Key κ]

def dependencies (graph : PackageGraph κ) (name : κ) : List κ :=
  (Keyed.find? name graph).getD []

/-- Every name in the graph, with repetitions; their number bounds the depth of a scan. -/
def names (graph : PackageGraph κ) : List κ :=
  graph.flatMap fun entry => entry.1 :: entry.2

/-- A scan under way: the names met, the names entered and not left, the path from its start and the
cycles closed so far. -/
structure Scan (κ : Type) where
  visited : List κ
  onStack : List κ
  path : List κ
  cycles : List (List κ)

def Scan.start : Scan κ :=
  { visited := [], onStack := [], path := [], cycles := [] }

def Scan.enter (name : κ) (scan : Scan κ) : Scan κ :=
  { scan with
    visited := scan.visited ++ [name]
    onStack := scan.onStack ++ [name]
    path := scan.path ++ [name] }

def Scan.leave (name : κ) (scan : Scan κ) : Scan κ :=
  { scan with
    onStack := scan.onStack.filter fun entry => !(entry == name)
    path := scan.path.dropLast }

/-- The cycle that an edge back to a name on the path closes. -/
def Scan.close (name : κ) (scan : Scan κ) : Scan κ :=
  { scan with cycles := scan.cycles ++
    [(scan.path.dropWhile fun entry => !(entry == name)) ++ [name]] }

def visit (graph : PackageGraph κ) : Nat → κ → Scan κ → Scan κ
  | 0, _, scan => scan
  | fuel + 1, name, scan =>
    let follow := fun (current : Scan κ) (dependency : κ) =>
      if current.visited.contains dependency then
        if current.onStack.contains dependency then current.close dependency else current
      else
        visit graph fuel dependency current
    ((graph.dependencies name).foldl follow (scan.enter name)).leave name

/-- Every cycle that the scan closes, each ending with its start. -/
def cycles (graph : PackageGraph κ) : List (List κ) :=
  let fuel := graph.names.length + 1
  let step := fun (scan : Scan κ) (entry : κ × List κ) =>
    if scan.visited.contains entry.1 then scan else visit graph fuel entry.1 scan
  (graph.foldl step Scan.start).cycles

/-- Fails on the first cycle. -/
def validate (graph : PackageGraph κ) : Except Failure Unit :=
  match graph.cycles with
  | [] => .ok ()
  | first :: _ =>
    let shown := first.map Key.toValue
    .error (.cycle (.text "package") shown.dropLast (shown.getLast?.getD .null))

structure Order (κ : Type) where
  seen : List κ
  ordered : List κ

def emit (graph : PackageGraph κ) : Nat → κ → Order κ → Order κ
  | 0, _, order => order
  | fuel + 1, name, order =>
    if order.seen.contains name then order
    else
      let entered := { order with seen := order.seen ++ [name] }
      let after := (graph.dependencies name).foldl
        (fun current dependency => emit graph fuel dependency current) entered
      { after with ordered := after.ordered ++ [name] }

/-- Packages with dependencies first. -/
def sort (graph : PackageGraph κ) : Except Failure (List κ) :=
  match graph.validate with
  | .error failure => .error failure
  | .ok () =>
    let fuel := graph.names.length + 1
    let start : Order κ := { seen := [], ordered := [] }
    .ok (graph.foldl (fun order entry => emit graph fuel entry.1 order) start).ordered

end PackageGraph
end Cycle
end Interplay
