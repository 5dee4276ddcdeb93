import Interplay.Proofs.Cycle.Dependency

/-!
Loading orders.

A package is marked as seen before its dependencies are written down, so a package that is met again
may not stand in the order yet.  Such a package is still pending: it leads to the one at hand.  In a
graph without cycles none of the pending packages is a dependency of another one on the way, so
whatever is met again stands in the order already.
-/

namespace Interplay
namespace Cycle
namespace PackageGraph

variable {κ : Type} [BEq κ]

/-- A package of the graph, or a dependency of one. -/
def IsListed (graph : PackageGraph κ) (name : κ) : Prop :=
  name ∈ graph.map Prod.fst ∨ ∃ key ∈ graph.map Prod.fst, graph.Edge key name

variable {graph : PackageGraph κ}

theorem names_of_listed {name : κ} (listed : graph.IsListed name) : name ∈ graph.names := by
  rcases listed with key | ⟨_, _, edge⟩
  · exact names_of_key key
  · exact names_of_edge edge

theorem IsNamed.listed_of_edge [Key κ] (named : graph.IsNamed) {name dependency : κ}
    (listed : graph.IsListed name)
    (edge : graph.Edge name dependency) : graph.IsListed dependency :=
  .inr ⟨name, named.key_of_edge (names_of_listed listed) edge, edge⟩

namespace Order

def enter (name : κ) (order : Order κ) : Order κ :=
  { order with seen := order.seen ++ [name] }

def write (name : κ) (order : Order κ) : Order κ :=
  { order with ordered := order.ordered ++ [name] }

/-- What holds of a loading order at every moment; packages that are pending wait for their
dependencies. -/
structure IsSound (graph : PackageGraph κ) (pending : List κ) (order : Order κ) : Prop where
  listed : ∀ name ∈ order.seen, graph.IsListed name
  seen : ∀ name, name ∈ order.seen ↔ name ∈ order.ordered ∨ name ∈ pending
  once : (order.ordered ++ pending).Nodup
  led : ∀ before name after, order.ordered = before ++ name :: after →
    graph.dependencies name ⊆ before

variable {order : Order κ} {pending : List κ} {name : κ}

theorem sound_start (graph : PackageGraph κ) : IsSound graph [] { seen := [], ordered := [] } where
  listed := nofun
  seen := by simp
  once := List.nodup_nil
  led := by simp

theorem IsSound.pending_known (sound : order.IsSound graph pending) : pending ⊆ graph.names := by
  intro name waiting
  exact names_of_listed (sound.listed name ((sound.seen name).mpr (.inr waiting)))

theorem IsSound.enter (sound : order.IsSound graph pending) (listed : graph.IsListed name)
    (fresh : name ∉ order.seen) : (order.enter name).IsSound graph (pending ++ [name]) where
  listed other member := by
    rcases List.mem_append.mp member with before | added
    · exact sound.listed other before
    · rw [List.mem_singleton.mp added]
      exact listed
  seen other := by
    simp only [Order.enter, List.mem_append, sound.seen other]
    exact or_assoc
  once := by
    have apart : name ∉ order.ordered ++ pending := by
      rw [List.mem_append, ← sound.seen name]
      exact fresh
    have extended :=
      List.Nodup.append sound.once (List.nodup_singleton name) (List.disjoint_singleton.mpr apart)
    rwa [List.append_assoc] at extended
  led := sound.led

/-- A package is written down behind its dependencies. -/
theorem IsSound.write (sound : order.IsSound graph (pending ++ [name]))
    (ready : graph.dependencies name ⊆ order.ordered) :
    (order.write name).IsSound graph pending where
  listed := sound.listed
  seen other := by
    simp only [Order.write, sound.seen other, List.mem_append]
    tauto
  once := by
    have turned : (order.ordered ++ [name] ++ pending).Perm
        (order.ordered ++ (pending ++ [name])) := by
      rw [List.append_assoc]
      exact List.perm_append_comm.append_left order.ordered
    exact turned.nodup_iff.mpr sound.once
  led before other after split := by
    rcases List.eq_nil_or_concat after with rfl | ⟨earlier, last, rfl⟩
    · obtain ⟨rfl, same⟩ := List.append_inj' split rfl
      obtain rfl : name = other := by simpa using same
      exact ready
    · have shape : order.ordered ++ [name] = before ++ other :: earlier ++ [last] := by
        simpa [Order.write] using split
      exact sound.led before other earlier (List.append_inj_left' shape rfl)

end Order

/-- What emitting a name does to a sound order. -/
structure Emitted (graph : PackageGraph κ) (pending : List κ) (name : κ) (before after : Order κ) :
    Prop where
  sound : after.IsSound graph pending
  kept : before.ordered ⊆ after.ordered
  written : name ∈ after.ordered

theorem emit_succ (graph : PackageGraph κ) (fuel : Nat) (name : κ) (order : Order κ) :
    emit graph (fuel + 1) name order =
      if order.seen.contains name then order
      else ((graph.dependencies name).foldl
        (fun current dependency => emit graph fuel dependency current)
        (order.enter name)).write name :=
  rfl

theorem emit_all (emits : κ → Order κ → Order κ) (names : List κ)
    {pending : List κ} {order : Order κ} (sound : order.IsSound graph pending)
    (emitted : ∀ name ∈ names, ∀ current : Order κ, current.IsSound graph pending →
      Emitted graph pending name current (emits name current)) :
    (names.foldl (fun current name => emits name current) order).IsSound graph pending ∧
      order.ordered ⊆ (names.foldl (fun current name => emits name current) order).ordered ∧
      names ⊆ (names.foldl (fun current name => emits name current) order).ordered := by
  induction names generalizing order with
  | nil => exact ⟨sound, List.Subset.refl _, List.nil_subset _⟩
  | cons name rest ih =>
      have first := emitted name List.mem_cons_self order sound
      obtain ⟨last, kept, written⟩ := ih first.sound fun other member =>
        emitted other (List.mem_cons_of_mem _ member)
      exact ⟨last, List.Subset.trans first.kept kept, List.cons_subset.mpr
        ⟨kept first.written, written⟩⟩

variable [Key κ] (named : graph.IsNamed) (acyclic : ¬graph.IsCyclic)

include named acyclic

/-- All pending packages lead to the name at hand, so in a graph without cycles it is none of
them. -/
theorem emit_writes {fuel : Nat} {pending : List κ} {name : κ} {order : Order κ}
    (sound : order.IsSound graph pending) (listed : graph.IsListed name)
    (leads : ∀ waiting ∈ pending, Relation.TransGen graph.Edge waiting name)
    (room : graph.names.length < fuel + pending.length) :
    Emitted graph pending name order (emit graph fuel name order) := by
  have seenKnown : order.seen ⊆ graph.names := fun other member => names_of_listed
      (sound.listed other member)
  induction fuel generalizing pending name order with
  | zero =>
      have simple := List.Nodup.of_append_right sound.once
      have short := (List.subperm_of_subset simple sound.pending_known).length_le
      omega
  | succ fuel ih =>
      rw [emit_succ]
      split
      · rename_i met
        have member := (named.contains_iff seenKnown (names_of_listed listed)).mp met
        rcases (sound.seen name).mp member with written | waiting
        · exact ⟨sound, List.Subset.refl _, written⟩
        · exact absurd ⟨name, leads name waiting⟩ acyclic
      · rename_i unmet
        have fresh : name ∉ order.seen := fun member =>
          unmet ((named.contains_iff seenKnown (names_of_listed listed)).mpr member)
        have entered := sound.enter listed fresh
        obtain ⟨after, kept, ready⟩ :=
          emit_all (emit graph fuel) (graph.dependencies name) entered (by
            intro dependency edge current currentSound
            apply ih currentSound (named.listed_of_edge listed edge)
            · intro waiting member
              rcases List.mem_append.mp member with earlier | mine
              · exact (leads waiting earlier).tail edge
              · rw [List.mem_singleton.mp mine]
                exact .single edge
            · simp only [List.length_append, List.length_singleton]
              omega
            · exact fun other member => names_of_listed (currentSound.listed other member))
        refine ⟨after.write ready, ?_, List.mem_append_right _ List.mem_cons_self⟩
        exact List.Subset.trans kept (List.subset_append_left _ _)

theorem sort_of_acyclic :
    ∃ order, graph.sort = .ok order ∧ order.Nodup ∧ (∀ name, name ∈ order ↔ graph.IsListed name) ∧
      ∀ before name after, order = before ++ name :: after → graph.dependencies name ⊆ before := by
  obtain ⟨sound, _, written⟩ := emit_all (emit graph (graph.names.length + 1)) (graph.map Prod.fst)
    (Order.sound_start graph) (by
      intro name key current currentSound
      apply emit_writes named acyclic currentSound (.inl key)
      · exact nofun
      · simp)
  rw [List.foldl_map] at sound written
  refine ⟨_, by
    simp [sort, validate_of_acyclic named acyclic], ?_,
      fun name => ⟨fun member => ?_, ?_⟩, sound.led⟩
  · simpa using sound.once
  · exact sound.listed name ((sound.seen name).mpr (.inl member))
  · rintro (key | ⟨key, isKey, edge⟩)
    · exact written key
    · -- The package stands in the order, so its dependencies stand before it.
      obtain ⟨before, after, split⟩ := List.append_of_mem (written isKey)
      exact split ▸ List.mem_append_left _ (sound.led before key after split edge)

omit acyclic

/-- A graph with a cycle has no loading order; any other one has an order in which every package and
every dependency stands once, behind its own dependencies. -/
theorem loading_order_is_exact :
    (graph.IsCyclic → ∃ failure, graph.sort = .error failure ∧ graph.Reports failure) ∧
      (¬graph.IsCyclic → ∃ order, graph.sort = .ok order ∧ order.Nodup ∧
        (∀ name, name ∈ order ↔ graph.IsListed name) ∧
        ∀ before name after, order = before ++ name :: after →
        graph.dependencies name ⊆ before) := by
  refine ⟨fun cyclic => ?_, sort_of_acyclic named⟩
  obtain ⟨failure, refused, reports⟩ := validate_of_cyclic named cyclic
  exact ⟨failure, by simp [sort, refused], reports⟩

omit named

/-- Two ways to the same package, one of them taken twice, and a package that is only a
dependency. -/
def layered : PackageGraph Scalar :=
  [(.text "forms", [.text "theme", .text "charts", .text "theme"]),
    (.text "charts", [.text "theme", .text "icons"]), (.text "theme", [.text "icons"])]

theorem layered_is_ordered :
    layered.IsNamed ∧ layered.cycles = [] ∧
      layered.sort = .ok [.text "icons", .text "theme", .text "charts", .text "forms"] ∧
      ∃ order, layered.sort = .ok order ∧ order.Nodup ∧
      (∀ name, name ∈ order ↔ layered.IsListed name) ∧
        ∀ before name after, order = before ++ name :: after →
        layered.dependencies name ⊆ before := by
  have named : layered.IsNamed := named_of_texts (by simp [layered, names, Scalar.isText])
  have acyclic : ¬layered.IsCyclic := (no_cycles_iff named).mp rfl
  exact ⟨named, rfl, rfl, (loading_order_is_exact named).2 acyclic⟩

end PackageGraph
end Cycle
end Interplay
