import Interplay.Cycle.PackageGraph

/-!
Dependency graphs from documents.

The dependencies of a package are whatever iterating over its entry gives, and each has to be a key.
Of several malformed entries, the one that a scan meets first decides the failure.
-/

namespace Interplay
namespace Cycle
namespace PackageGraph

/-- Looks at everything that a scan from a name meets, with fuel for its depth; the names met are
kept. -/
def inspect (entries : Entries) : Nat → Scalar → List Scalar → Except Failure (List Scalar)
  | 0, _, met => .ok met
  | fuel + 1, name, met =>
    match Keyed.find? name entries with
    | none => .ok (name :: met)
    | some source => do
      let items ← source.iterate
      items.foldlM (fun found item => do
        let key ← item.toKey
        if found.contains key then return found else inspect entries fuel key found) (name :: met)

def readDependencies (source : Value) : Except Failure (List Scalar) := do
  (← source.iterate).mapM Value.toKey

def readEntries (entries : Entries) : Except Failure (PackageGraph Scalar) := do
  let _ ← entries.foldlM (fun met entry =>
    if met.contains entry.1 then .ok met else inspect entries (entries.length + 1) entry.1 met) []
  entries.mapM fun entry => do return (entry.1, ← readDependencies entry.2)

def read : Value → Except Failure (PackageGraph Scalar)
  | .mapping entries => readEntries entries
  | other => do
    match ← other.iterate with
    | [] => return []
    | first :: _ =>
      let _ ← first.toKey
      .error (.mishap (.noAttribute other.typeName "get"))

end PackageGraph
end Cycle
end Interplay
