import Interplay.Proofs.References.Search
import Interplay.Proofs.Registry.Lookup
import Mathlib.Data.List.Basic

/-!
The components that a component refers to, directly or through others.

A package that applies at a node is one that some node gives or the one at the start, so there are
only as many keys as pairs of a reference and such a package, and the search ends.  Where no slash
occurs in names and packages, a key determines the reference that it is the key of, so that a
skipped key never hides another component.
-/

namespace Interplay

open ComponentReference

namespace Library

def nodesWith (library : Library) (component : Component) : List Node :=
  (component.nodes ++ library.flatMap fun entry => entry.2.elim [] Component.nodes).map Prod.snd

def ownReferences (library : Library) (component : Component) : List ComponentReference :=
  (library.nodesWith component).filterMap (Node.reference? .null)

theorem length_own_references (library : Library) (component : Component) :
    (library.ownReferences component).length = library.referenceCount component := by
  unfold ownReferences nodesWith referenceCount
  rw [List.length_filterMap_eq_countP, List.countP_map]
  rfl

end Library

def HasNoSlash (content : String) : Prop :=
  '/' ∉ content.toList

instance (content : String) : Decidable (HasNoSlash content) :=
  inferInstanceAs (Decidable ('/' ∉ content.toList))

def Value.IsPlainPackage (package : Value) : Prop :=
  package = .null ∨ ∃ content, package = .text content ∧ HasNoSlash content

namespace Library

/-- Names and packages, those that nodes give and the one at the start, have no slash. -/
structure IsPlain (library : Library) (component : Component) (package : Value) : Prop where
  start : package.IsPlainPackage
  own : ∀ reference ∈ library.ownReferences component,
    HasNoSlash reference.name ∧ reference.package.IsPlainPackage

end Library

theorem Value.or_else_or_else_null (own package : Value) : (own.orElse .null).orElse package =
    own.orElse package := by
  unfold orElse
  by_cases filled : own.isFilled = true
  · simp only [filled, if_true]
  · rw [if_neg filled, if_neg (by simp [isFilled, Scalar.isFilled]), if_neg filled]

theorem Node.reference_in_package {package : Value} {node : Node} {reference : ComponentReference}
    (shown : node.reference? package = some reference) :
    ∃ own, node.reference? .null = some own ∧
    reference = { own with package := own.package.orElse package } := by
  unfold reference? at shown ⊢
  split at shown
  · cases shown
    exact ⟨_, rfl, by rw [Value.or_else_or_else_null]⟩
  · cases shown

namespace ComponentReference

/-- A reference as following nodes from a start package makes it: its package is one that a node
gives or that very start package. -/
structure IsAnchored (package : Value) (reference : ComponentReference) : Prop where
  name : HasNoSlash reference.name
  scope : reference.package.IsPlainPackage
  anchored : reference.package.isFilled = true ∨ reference.package = package

theorem key_of_filled {reference : ComponentReference} (scope : reference.package.IsPlainPackage)
    (filled : reference.package.isFilled = true) :
    ∃ content, reference.package = .text content ∧ HasNoSlash content ∧
      reference.key.toList = content.toList ++ '/' :: reference.name.toList := by
  rcases scope with none | ⟨content, same, free⟩
  · rw [none] at filled
    cases filled
  · refine ⟨content, same, free, ?_⟩
    unfold key Value.qualify
    rw [if_pos filled, same, String.toList_append, String.toList_append, List.append_assoc]
    rfl

theorem key_of_unfilled {reference : ComponentReference}
    (unfilled : ¬reference.package.isFilled = true) :
    reference.key = reference.name := by
  unfold key Value.qualify
  rw [if_neg unfilled]

theorem ext {reference other : ComponentReference} (names : reference.name = other.name)
    (packages : reference.package = other.package) : reference = other := by
  cases reference
  cases other
  cases names
  cases packages
  rfl

theorem IsAnchored.eq_of_key {package : Value} {reference other : ComponentReference}
    (anchored : reference.IsAnchored package) (otherAnchored : other.IsAnchored package)
    (same : reference.key = other.key) : reference = other := by
  have apart {filledOne bareOne : ComponentReference} (free : HasNoSlash bareOne.name)
      (scope : filledOne.package.IsPlainPackage) (filled : filledOne.package.isFilled = true)
      (unfilled : ¬bareOne.package.isFilled = true) : filledOne.key ≠ bareOne.key := by
    intro equal
    obtain ⟨content, _, _, spelled⟩ := key_of_filled scope filled
    rw [equal, key_of_unfilled unfilled] at spelled
    exact free (spelled ▸ by simp)
  by_cases filled : reference.package.isFilled = true <;> by_cases otherFilled :
    other.package.isFilled = true
  · obtain ⟨content, package, free, spelled⟩ := key_of_filled anchored.scope filled
    obtain ⟨otherContent, otherPackage, _, otherSpelled⟩ :=
      key_of_filled otherAnchored.scope otherFilled
    rw [same, otherSpelled] at spelled
    obtain ⟨contents, _, names⟩ :=
      (List.append_cons_inj_of_notMem free anchored.name).mp spelled.symm
    exact ComponentReference.ext (String.toList_inj.mp names)
      (by rw [package, otherPackage, String.toList_inj.mp contents])
  · exact absurd same (apart otherAnchored.name anchored.scope filled otherFilled)
  · exact absurd same.symm (apart anchored.name otherAnchored.scope otherFilled filled)
  · rw [key_of_unfilled filled, key_of_unfilled otherFilled] at same
    have scope := anchored.anchored.resolve_left filled
    have otherScope := otherAnchored.anchored.resolve_left otherFilled
    exact ComponentReference.ext same (scope.trans otherScope.symm)

end ComponentReference

namespace Library

/-- The packages that can apply at a node: the one at the start and those that nodes give. -/
def packages (library : Library) (component : Component) (package : Value) : List Value :=
  package :: (library.ownReferences component).map ComponentReference.package

def candidates (library : Library) (component : Component) (package : Value) :
    List ComponentReference :=
  (library.ownReferences component).flatMap fun own =>
    (library.packages component package).map fun scope => { own with package := scope }

theorem length_candidates (library : Library) (component : Component) (package : Value) :
    (library.candidates component package).length
      = library.referenceCount component * (library.referenceCount component + 1) := by
  simp [candidates, packages, List.length_flatMap, length_own_references]

variable {library : Library} {component : Component} {package : Value}

theorem candidates_of_node {node : Node} {scope : Value} {reference : ComponentReference}
    (member : node ∈ library.nodesWith component)
    (applies : scope ∈ library.packages component package)
    (shown : node.reference? scope = some reference) : reference ∈
    library.candidates component package := by
  obtain ⟨own, made, rfl⟩ := Node.reference_in_package shown
  have listed : own ∈ library.ownReferences component := List.mem_filterMap.mpr ⟨node, member, made⟩
  have inside : own.package.orElse scope ∈ library.packages component package := by
    unfold Value.orElse
    split
    · exact List.mem_cons_of_mem _ (List.mem_map_of_mem listed)
    · exact applies
  exact List.mem_flatMap.mpr ⟨own, listed, List.mem_map_of_mem inside⟩

theorem nodes_of_start : component.nodes.map Prod.snd ⊆ library.nodesWith component :=
  List.map_subset _ (List.subset_append_left ..)

theorem nodes_of_found {reference : ComponentReference} {found : Component}
    (looked : library.find? reference = .ok (some found)) :
    found.nodes.map Prod.snd ⊆ library.nodesWith component := by
  unfold find? at looked
  cases scope : reference.package.toKey with
  | error failure =>
      rw [scope] at looked
      cases looked
  | ok key =>
      rw [scope] at looked
      have joined := Option.join_eq_some_iff.mp (Except.ok.inj looked)
      obtain ⟨spelled, member⟩ := Keyed.mem_of_find? joined
      apply List.map_subset
      intro node listed
      exact List.mem_append_right _ (List.mem_flatMap.mpr ⟨_, member, listed⟩)

theorem node_of_leads {reference next : ComponentReference} (leads : library.Leads reference next) :
    ∃ node ∈ library.nodesWith component, node.reference? reference.package = some next := by
  unfold Leads onward at leads
  split at leads
  · rename_i found looked
    obtain ⟨node, listed, shown⟩ := List.mem_filterMap.mp leads
    exact ⟨node, nodes_of_found looked listed, shown⟩
  · cases leads

namespace IsPlain

theorem package_of_packages (plain : library.IsPlain component package) {scope : Value}
    (applies : scope ∈ library.packages component package) : scope.IsPlainPackage := by
  rcases List.mem_cons.mp applies with rfl | given
  · exact plain.start
  · obtain ⟨own, listed, rfl⟩ := List.mem_map.mp given
    exact (plain.own own listed).2

theorem closed (plain : library.IsPlain component package) :
    library.IsClosed (library.candidates component package) where
  onward := by
    intro reference member next leads
    obtain ⟨own, _, inScope⟩ := List.mem_flatMap.mp member
    obtain ⟨scope, applies, rfl⟩ := List.mem_map.mp inScope
    obtain ⟨node, listed, shown⟩ := node_of_leads leads
    exact candidates_of_node listed applies shown
  told := by
    intro reference member
    obtain ⟨own, _, inScope⟩ := List.mem_flatMap.mp member
    obtain ⟨scope, applies, rfl⟩ := List.mem_map.mp inScope
    rcases plain.package_of_packages applies with rfl | ⟨content, rfl, _⟩ <;> exact ⟨_, rfl⟩

/-- A node passes on the package it stands in, unless it gives its own. -/
theorem anchored_of_node (plain : library.IsPlain component package) {node : Node} {scope : Value}
    {reference : ComponentReference} (member : node ∈ library.nodesWith component)
    (inScope : scope.IsPlainPackage)
    (anchored : scope.isFilled = true ∨ scope = package)
    (shown : node.reference? scope = some reference) :
    reference.IsAnchored package := by
  obtain ⟨own, made, rfl⟩ := Node.reference_in_package shown
  obtain ⟨name, ownPackage⟩ := plain.own own (List.mem_filterMap.mpr ⟨node, member, made⟩)
  have given : (own.package.orElse scope).IsPlainPackage ∧
      ((own.package.orElse scope).isFilled = true ∨ own.package.orElse scope = package) := by
    unfold Value.orElse
    split
    · rename_i filled
      exact ⟨ownPackage, .inl filled⟩
    · exact ⟨inScope, anchored⟩
  exact ⟨name, given.1, given.2⟩

theorem anchored_of_reaches (plain : library.IsPlain component package)
    {reference : ComponentReference}
    (reached : component.Reaches library package reference) : reference.IsAnchored package := by
  obtain ⟨first, offered, steps⟩ := reached
  induction steps with
  | refl =>
      obtain ⟨node, listed, shown⟩ := List.mem_filterMap.mp offered
      exact plain.anchored_of_node (nodes_of_start listed) plain.start (.inr rfl) shown
  | tail _ leads anchored =>
      obtain ⟨node, listed, shown⟩ := node_of_leads leads
      exact plain.anchored_of_node listed anchored.scope anchored.anchored shown

end IsPlain

theorem IsSearched.mem_iff_reaches (plain : library.IsPlain component package)
    {references : List ComponentReference}
    (searched : library.IsSearched (component.references package) [] references)
    (reference : ComponentReference) :
    reference ∈ references ↔ component.Reaches library package reference := by
  refine ⟨searched.reached reference, ?_⟩
  have settle {other : ComponentReference} (reached : component.Reaches library package other)
      (listed : other.key ∈ references.map key) : other ∈ references := by
    obtain ⟨found, member, same⟩ := List.mem_map.mp listed
    have anchored := plain.anchored_of_reaches (searched.reached found member)
    exact anchored.eq_of_key (plain.anchored_of_reaches reached) same ▸ member
  rintro ⟨first, offered, steps⟩
  induction steps with
  | refl => exact settle ⟨first, offered, .refl⟩ (searched.covered first offered)
  | tail before leads listed =>
      exact settle ⟨first, offered, before.tail leads⟩ (searched.closed _ listed _ leads)

end Library

namespace Component

/-- Whatever fuel from the bound on the search is given, it lists the same references, each key
once: exactly those that can be reached by following nodes, in the order of a depth-first search. -/
theorem sub_components_are_reached {component : Component} {library : Library} {package : Value}
    (plain : library.IsPlain component package) :
    ∃ references, component.subComponents library package [] = .ok references ∧
      (∀ fuel ≥ library.referenceCount component * (library.referenceCount component + 1),
        ∃ visited,
        subComponentsFrom library fuel package (component.nodes.map Prod.snd) [] = .ok
          (references, visited)) ∧
      (references.map ComponentReference.key).Nodup ∧
      (∀ reference, reference ∈ references ↔ component.Reaches library package reference) ∧
      library.IsDepthFirst (component.references package) references := by
  have run (fuel : Nat)
      (enough : library.referenceCount component * (library.referenceCount component + 1) ≤ fuel) :
      ∃ references, subComponentsFrom library fuel package (component.nodes.map Prod.snd) []
          = .ok (references, metKeys references) ∧
        library.IsSearched (component.references package) [] references := by
    apply sub_components_searched plain.closed fuel package _ []
    · intro reference member
      obtain ⟨node, listed, shown⟩ := List.mem_filterMap.mp member
      exact Library.candidates_of_node (Library.nodes_of_start listed) List.mem_cons_self shown
    · exact List.nodup_nil
    · calc unmet (library.candidates component package) []
          ≤ (library.candidates component package).length := List.countP_le_length
        _ ≤ fuel := by rwa [Library.length_candidates]
  obtain ⟨references, ended, searched⟩ := run _ (Nat.le_succ _)
  have ordered := searched.depth_first
  refine ⟨references, ?_, ?_, searched.apart, searched.mem_iff_reaches plain, ordered⟩
  · simp only [subComponents]
    rw [ended]
    rfl
  · intro fuel enough
    obtain ⟨others, also, found⟩ := run fuel enough
    rw [ordered.unique found.depth_first]
    exact ⟨_, also⟩

end Component

def Component.showing (name : String) (shown : List (String × Value)) : Component where
  name := name
  formulas := []
  workflows := []
  initialValues := []
  apis := []
  nodes := shown.map fun (other, package) =>
    (other, { flow := ⟨none, none, none⟩, body := .component other package [] [] [] [] })
  onLoad := none
  onAttributeChange := none
  route := none
  package := .null

/-- Cards and badges show each other, badges name their card by inheritance, and both show the
footer of another package, which shows cards again. -/
def Library.gallery : Library :=
  [((.text "Card", .text "ui"), some (.showing "Card" [("Badge", .null), ("Card", .text "ui"),
      ("Footer", .text "app")])),
    ((.text "Badge", .text "ui"),
      some (.showing "Badge" [("Footer", .text "app"), ("Card", .null)])),
    ((.text "Footer", .text "app"), some (.showing "Footer" [("Card", .text "ui")]))]

namespace Component

def exhibition : Component :=
  showing "Exhibition" [("Card", .text "ui"), ("Footer", .null), ("Footer", .text "app")]

theorem exhibition_is_plain : Library.gallery.IsPlain exhibition .null where
  start := .inl rfl
  own := by
    have plain : ∀ reference ∈ Library.gallery.ownReferences exhibition,
        (reference.name = "Card" ∨ reference.name = "Badge" ∨ reference.name = "Footer") ∧
          (reference.package = .null ∨ reference.package = .text "ui" ∨
            reference.package = .text "app") := by
      simp [Library.gallery, Library.ownReferences, Library.nodesWith, exhibition,
        showing, Node.reference?, Value.orElse, Value.isFilled, Scalar.isFilled]
    intro reference member
    obtain ⟨name, package⟩ := plain reference member
    refine ⟨?_, ?_⟩
    · rcases name with same | same | same <;> rw [same] <;> decide
    · rcases package with same | same | same
      · exact .inl same
      · exact .inr ⟨"ui", same, by decide⟩
      · exact .inr ⟨"app", same, by decide⟩

theorem exhibition_in_order : Library.gallery.IsDepthFirst (exhibition.references .null)
    [⟨"Card", .text "ui"⟩, ⟨"Badge", .text "ui"⟩, ⟨"Footer", .text "app"⟩, ⟨"Footer", .null⟩] := by
  intro before after same
  rcases before with _ | ⟨first, _ | ⟨second, _ | ⟨third, _ | ⟨fourth, _ | ⟨fifth, before⟩⟩⟩⟩⟩ <;>
    cases same <;> rfl

/-- The card is met again while it is being expanded, and the same footer is shown in a package and
without one. -/
theorem exhibition_is_searched : Library.gallery.IsPlain exhibition .null ∧
    ∃ references, exhibition.subComponents Library.gallery .null [] = .ok references ∧
      references.map ComponentReference.key = ["ui/Card", "ui/Badge", "app/Footer", "Footer"] ∧
      (∀ reference, reference ∈ references ↔
        exhibition.Reaches Library.gallery .null reference) := by
  obtain ⟨references, listed, _, _, reached, ordered⟩ :=
    sub_components_are_reached exhibition_is_plain
  refine ⟨exhibition_is_plain, references, listed, ?_, reached⟩
  rw [ordered.unique exhibition_in_order]
  rfl

end Component
end Interplay
