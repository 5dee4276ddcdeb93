import Interplay.References
import Mathlib.Data.List.Nodup
import Mathlib.Logic.Relation

/-!
The search for the components that a component refers to.

One list of keys is shared by the whole search, so a key may be skipped while the component behind
it is still being expanded further up.  Nothing is lost by that: what a part of the search adds has
all of its own references among the keys that are listed when that part ends.  The order is that of
a depth-first search: the next reference is always the first unlisted one of the latest listed
component that makes one.
-/

namespace Interplay

namespace Component

/-- The references that the nodes of a component make, in the order of the nodes. -/
def references (component : Component) (package : Value) : List ComponentReference :=
  (component.nodes.map Prod.snd).filterMap (Node.reference? package)

end Component

namespace Library

def onward (library : Library) (reference : ComponentReference) : List ComponentReference :=
  match library.find? reference with
  | .ok (some component) => component.references reference.package
  | _ => []

/-- The second reference is made by the component behind the first. -/
def Leads (library : Library) (reference next : ComponentReference) : Prop :=
  next ∈ library.onward reference

end Library

namespace Component

/-- The references that following nodes from a component comes to. -/
def Reaches (component : Component) (library : Library) (package : Value)
    (reference : ComponentReference) : Prop :=
  ∃ first ∈ component.references package, Relation.ReflTransGen library.Leads first reference

end Component

namespace ComponentReference

def firstUnlisted (listed offered : List ComponentReference) : Option ComponentReference :=
  offered.find? fun reference => decide (reference.key ∉ listed.map key)

theorem first_unlisted_of_listed {listed offered : List ComponentReference}
    (covered : ∀ reference ∈ offered, reference.key ∈ listed.map key) :
    firstUnlisted listed offered = none := by
  apply List.find?_eq_none.mpr
  intro reference member
  simp [covered reference member]

theorem first_unlisted_cons_of_listed {listed rest : List ComponentReference}
    {reference : ComponentReference} (met : reference.key ∈ listed.map key) :
    firstUnlisted listed (reference :: rest) = firstUnlisted listed rest :=
  List.find?_cons_of_neg (by simpa using met)

theorem first_unlisted_cons_of_new {listed rest : List ComponentReference}
    {reference : ComponentReference}
    (new : reference.key ∉ listed.map key) : firstUnlisted listed
    (reference :: rest) = some reference :=
  List.find?_cons_of_pos (decide_eq_true new)

/-- The keys of listed references as the search keeps them, the latest first. -/
def metKeys (listed : List ComponentReference) : List Scalar :=
  (listed.map fun reference => Scalar.text reference.key).reverse

theorem met_keys_contains_iff {listed : List ComponentReference} {name : String} :
    (metKeys listed).contains (.text name) = true ↔ name ∈ listed.map key := by
  have told (other : String) : (Scalar.text name == .text other) = true ↔ name = other :=
    beq_iff_eq (α := String)
  rw [List.contains_iff_exists_mem_beq]
  simp only [metKeys, List.mem_reverse, List.mem_map]
  constructor
  · rintro ⟨_, ⟨reference, member, rfl⟩, equal⟩
    exact ⟨reference, member, ((told reference.key).mp equal).symm⟩
  · rintro ⟨reference, member, rfl⟩
    exact ⟨_, ⟨reference, member, rfl⟩, (told reference.key).mpr rfl⟩

theorem met_keys_concat (listed : List ComponentReference) (reference : ComponentReference) :
    metKeys (listed ++ [reference]) = .text reference.key :: metKeys listed := by
  simp [metKeys]

def unmet (candidates listed : List ComponentReference) : Nat :=
  candidates.countP fun reference => decide (reference.key ∉ listed.map key)

theorem unmet_append_le (candidates listed more : List ComponentReference) :
    unmet candidates (listed ++ more) ≤ unmet candidates listed := by
  apply List.countP_mono_left
  intro reference _ unlisted
  simp only [List.map_append, List.mem_append, not_or, decide_eq_true_eq] at unlisted ⊢
  exact unlisted.1

theorem unmet_concat_lt {candidates listed : List ComponentReference}
    {reference : ComponentReference}
    (known : reference ∈ candidates) (new : reference.key ∉ listed.map key) :
    unmet candidates (listed ++ [reference]) < unmet candidates listed := by
  induction candidates with
  | nil => cases known
  | cons candidate rest ih =>
      have fewer := unmet_append_le rest listed [reference]
      unfold unmet at ih fewer ⊢
      rw [List.countP_cons, List.countP_cons]
      rcases List.mem_cons.mp known with rfl | later
      · simp only [List.map_append, List.mem_append, List.map_cons,
          List.mem_singleton, List.map_nil, new,
          or_true, not_true, decide_false, not_false_iff, decide_true, if_true,
          if_false, Bool.false_eq_true] at fewer ⊢
        omega
      · have strict := ih later
        by_cases listedBefore : candidate.key ∈ listed.map key
        · have listedAfter : candidate.key ∈ (listed ++ [reference]).map key :=
            by simp [listedBefore]
          simp only [listedBefore, listedAfter, not_true, decide_false,
            if_false, Bool.false_eq_true]
          omega
        · simp only [listedBefore, not_false_iff, decide_true, if_true]
          split <;> omega

end ComponentReference

open ComponentReference

namespace Library

/-- The reference that a depth-first search lists next: the first unlisted one of the latest listed
component that makes one, and of the start when no listed component does.  What counts as listed may
be more than the components that are asked. -/
def nextOf (library : Library) (start known listed : List ComponentReference) :
    Option ComponentReference :=
  (listed.reverse.findSome? fun holder => firstUnlisted known (library.onward holder)).or
    (firstUnlisted known start)

theorem next_of_nil (library : Library) (start known : List ComponentReference) :
    library.nextOf start known [] = firstUnlisted known start :=
  rfl

theorem next_of_concat (library : Library) (start known listed : List ComponentReference)
    (reference : ComponentReference) :
    library.nextOf start known (listed ++ [reference])
      = (firstUnlisted known (library.onward reference)).or
        (library.nextOf start known listed) := by
  unfold nextOf
  rw [List.reverse_concat, List.findSome?_cons]
  cases firstUnlisted known (library.onward reference) <;> rfl

theorem next_of_append {library : Library} {known more : List ComponentReference}
    (closed : ∀ holder ∈ more, ∀ next ∈ library.onward holder, next.key ∈ known.map key)
    (start listed : List ComponentReference) :
    library.nextOf start known (listed ++ more) = library.nextOf start known listed := by
  induction more generalizing listed with
  | nil => rw [List.append_nil]
  | cons holder rest ih =>
      rw [List.append_cons, ih fun other member => closed other (List.mem_cons_of_mem _ member),
        next_of_concat, first_unlisted_of_listed (closed holder List.mem_cons_self), Option.none_or]

/-- While something offered is unlisted, the first such reference comes next. -/
def IsDue (library : Library) (start offered listed : List ComponentReference) : Prop :=
  ∀ known, listed ⊆ known → ∀ next, firstUnlisted known offered = some next →
    library.nextOf start known listed = some next

/-- What the component behind the latest listed reference refers to is due. -/
theorem due_onward (library : Library) (start listed : List ComponentReference)
    (reference : ComponentReference) :
    library.IsDue start (library.onward reference) (listed ++ [reference]) := by
  intro known _ next first
  rw [next_of_concat, first]
  rfl

/-- What a part of the search adds to what is listed, when it goes through some offered
references. -/
structure IsSearched (library : Library) (offered listed found : List ComponentReference) :
    Prop where
  apart : ((listed ++ found).map key).Nodup
  covered : ∀ reference ∈ offered, reference.key ∈ (listed ++ found).map key
  closed : ∀ reference ∈ found, ∀ next ∈ library.onward reference, next.key ∈
    (listed ++ found).map key
  reached : ∀ reference ∈ found, ∃ first ∈ offered,
    Relation.ReflTransGen library.Leads first reference
  ordered : ∀ start, library.IsDue start offered listed →
    ∀ before next after, found = before ++ next :: after →
    library.nextOf start (listed ++ before) (listed ++ before) = some next

namespace IsSearched

variable {library : Library} {offered rest listed inner found others : List ComponentReference}
  {reference : ComponentReference}

theorem nil (apart : (listed.map key).Nodup) : library.IsSearched [] listed [] where
  apart := by rwa [List.append_nil]
  covered _ member := by cases member
  closed _ member := by cases member
  reached _ member := by cases member
  ordered _ _ before _ _ same := by cases before <;> cases same

theorem skip (met : reference.key ∈ listed.map key)
    (searched : library.IsSearched rest listed found) :
    library.IsSearched (reference :: rest) listed found where
  apart := searched.apart
  covered := by
    intro other member
    rcases List.mem_cons.mp member with rfl | later
    · rw [List.map_append]
      exact List.mem_append_left _ met
    · exact searched.covered other later
  closed := searched.closed
  reached := by
    intro other member
    obtain ⟨first, offered, leads⟩ := searched.reached other member
    exact ⟨first, List.mem_cons_of_mem _ offered, leads⟩
  ordered := by
    intro start due
    apply searched.ordered start
    intro known inside next first
    apply due known inside next
    rw [first_unlisted_cons_of_listed (List.map_subset key inside met)]
    exact first

/-- The components of a part of the search that has ended, with the one that it set out from, have
nothing left to list. -/
theorem passed_over
    (through : library.IsSearched (library.onward reference) (listed ++ [reference]) inner)
    {known : List ComponentReference} (inside : listed ++ [reference] ++ inner ⊆ known)
    (start : List ComponentReference) :
    library.nextOf start known (listed ++ [reference] ++ inner) =
    library.nextOf start known listed := by
  have listedKeys := List.map_subset key inside
  rw [List.append_assoc]
  apply next_of_append
  intro holder member next leads
  rcases List.mem_append.mp member with front | back
  · cases List.mem_singleton.mp front
    exact listedKeys (through.covered next leads)
  · exact listedKeys (through.closed holder back next leads)

/-- After a part of the search that set out from an offered reference, what is offered behind it is
due. -/
theorem due_after
    (through : library.IsSearched (library.onward reference) (listed ++ [reference]) inner)
    {start : List ComponentReference} (due : library.IsDue start (reference :: rest) listed) :
    library.IsDue start rest (listed ++ [reference] ++ inner) := by
  intro known inside next first
  have met : reference.key ∈ known.map key := List.map_subset key inside (by simp)
  rw [through.passed_over inside]
  apply due known fun other member => inside (by simp [member])
  rw [first_unlisted_cons_of_listed met]
  exact first

theorem ordered_cons (new : reference.key ∉ listed.map key)
    (through : library.IsSearched (library.onward reference) (listed ++ [reference]) inner)
    (later : library.IsSearched rest (listed ++ [reference] ++ inner) others)
    {start : List ComponentReference}
    (due : library.IsDue start (reference :: rest) listed) {before after : List ComponentReference}
    {next : ComponentReference} (same : reference :: inner ++ others = before ++ next :: after) :
    library.nextOf start (listed ++ before) (listed ++ before) = some next := by
  have dueLater := through.due_after due
  rcases before with _ | ⟨head, before⟩
  · cases same
    rw [List.append_nil]
    exact due listed (List.Subset.refl _) reference (first_unlisted_cons_of_new new)
  · obtain ⟨rfl, tail⟩ := List.cons.inj same
    rw [List.append_cons]
    rcases List.append_eq_append_iff.mp tail with ⟨middle, rfl, split⟩ | ⟨middle, split, remaining⟩
    · have ended := later.ordered start dueLater middle next after split
      rwa [List.append_assoc] at ended
    · rcases middle with _ | ⟨found, middle⟩
      · have ended := later.ordered start dueLater [] next after remaining.symm
        rw [List.append_nil] at split ended
        rwa [split] at ended
      · cases remaining
        exact through.ordered start
          (due_onward library start listed reference) before _ middle split

/-- A new reference, what is found through it, and what the rest adds after that. -/
theorem cons (new : reference.key ∉ listed.map key)
    (through : library.IsSearched (library.onward reference) (listed ++ [reference]) inner)
    (later : library.IsSearched rest (listed ++ [reference] ++ inner) others) :
    library.IsSearched (reference :: rest) listed (reference :: inner ++ others) := by
  have joined : listed ++ [reference] ++ inner ++ others = listed ++
      (reference :: inner ++ others) := by simp
  have grown {name : String} (member : name ∈ (listed ++ [reference] ++ inner).map key) :
      name ∈ (listed ++ (reference :: inner ++ others)).map key := by
    rw [← joined, List.map_append]
    exact List.mem_append_left (others.map key) member
  refine ⟨joined ▸ later.apart, ?_, ?_, ?_,
    fun start due _ _ _ => ordered_cons new through later due⟩
  · intro other member
    rcases List.mem_cons.mp member with rfl | member
    · simp
    · exact joined ▸ later.covered other member
  · intro other member next leads
    rcases List.mem_append.mp member with front | back
    · rcases List.mem_cons.mp front with rfl | front
      · exact grown (through.covered next leads)
      · exact grown (through.closed other front next leads)
    · exact joined ▸ later.closed other back next leads
  · intro other member
    rcases List.mem_append.mp member with front | back
    · rcases List.mem_cons.mp front with rfl | front
      · exact ⟨other, List.mem_cons_self, .refl⟩
      · obtain ⟨first, leads, onward⟩ := through.reached other front
        exact ⟨reference, List.mem_cons_self, .head leads onward⟩
    · obtain ⟨first, offered, leads⟩ := later.reached other back
      exact ⟨first, List.mem_cons_of_mem _ offered, leads⟩

end IsSearched

/-- Candidates that hold everything their components refer to, and that can all be looked up. -/
structure IsClosed (library : Library) (candidates : List ComponentReference) : Prop where
  onward : ∀ reference ∈ candidates, library.onward reference ⊆ candidates
  told : ∀ reference ∈ candidates, ∃ found, library.find? reference = .ok found

end Library

namespace Component

variable {library : Library} {candidates : List ComponentReference}

/-- The search behind a reference, one level deeper; where no component is, it ends at once. -/
def subComponentsBehind (library : Library) (fuel : Nat) (reference : ComponentReference)
    (behind : Option Component) (met : List Scalar) : Except Failure
    (List ComponentReference × List Scalar) :=
  match fuel, behind with
  | fuel + 1, some component =>
    subComponentsFrom library fuel reference.package (component.nodes.map Prod.snd) met
  | _, _ => .ok ([], met)

theorem sub_components_from_new {fuel : Nat} {package : Value} {node : Node} {rest : List Node}
    {visited : List Scalar} {reference : ComponentReference} {behind : Option Component}
    {inner others : List ComponentReference × List Scalar}
    (shown : node.reference? package = some reference)
    (new : visited.contains (.text reference.key) = false)
    (looked : library.find? reference = .ok behind)
    (entered : subComponentsBehind library fuel reference behind
      (.text reference.key :: visited) = .ok inner)
    (ended : subComponentsFrom library fuel package rest inner.2 = .ok others) :
    subComponentsFrom library fuel package (node :: rest) visited
      = .ok (reference :: inner.1 ++ others.1, others.2) := by
  unfold subComponentsFrom
  simp only [shown, new, Bool.false_eq_true, if_false, looked]
  unfold subComponentsBehind at entered
  cases fuel with
  | zero =>
      cases entered
      simp only [bind, Except.bind, pure, Except.pure, ended]
  | succ fuel =>
      cases behind with
      | none =>
          cases entered
          simp only [bind, Except.bind, pure, Except.pure, ended]
      | some component =>
          simp only [bind, Except.bind, pure, Except.pure, entered, ended]

/-- The search does not run out of this much fuel while no more candidates are unmet, and lists what
it comes to. -/
def SearchesWith (library : Library) (candidates : List ComponentReference) (fuel : Nat) : Prop :=
  ∀ (package : Value) (nodes : List Node) (listed : List ComponentReference),
    nodes.filterMap (Node.reference? package) ⊆ candidates → (listed.map key).Nodup →
    unmet candidates listed ≤ fuel →
    ∃ found, subComponentsFrom library fuel package nodes (metKeys listed) = .ok
      (found, metKeys (listed ++ found)) ∧
      library.IsSearched (nodes.filterMap (Node.reference? package)) listed found

/-- What is behind a reference that was just listed is searched with less fuel. -/
theorem behind_searched (closed : library.IsClosed candidates) {fuel : Nat}
    (deeper : ∀ less < fuel, SearchesWith library candidates less) {reference : ComponentReference}
    (known : reference ∈ candidates) {listed : List ComponentReference}
    (apart : (listed.map key).Nodup)
    (room : unmet candidates listed < fuel) {behind : Option Component}
    (looked : library.find? reference = .ok behind) :
    ∃ inner, subComponentsBehind library fuel reference behind (metKeys listed)
        = .ok (inner, metKeys (listed ++ inner)) ∧
      library.IsSearched (library.onward reference) listed inner := by
  have onwardInside := closed.onward reference known
  obtain ⟨smaller, rfl⟩ : ∃ smaller, fuel = smaller + 1 := ⟨fuel - 1, by omega⟩
  unfold Library.onward at onwardInside ⊢
  rw [looked] at onwardInside ⊢
  cases behind with
  | none =>
      refine ⟨[], ?_, .nil apart⟩
      rw [List.append_nil]
      rfl
  | some component =>
      exact deeper smaller (Nat.lt_succ_self _) _ _ _ onwardInside apart (Nat.le_of_lt_succ room)

/-- With as much fuel as there are unmet candidates, the search never runs out of it. -/
theorem sub_components_searched (closed : library.IsClosed candidates) (fuel : Nat) :
    SearchesWith library candidates fuel := by
  induction fuel using Nat.strongRecOn with
  | ind fuel deeper =>
    intro package nodes listed inside apart room
    induction nodes generalizing listed with
    | nil =>
        refine ⟨[], ?_, .nil apart⟩
        rw [List.append_nil]
        unfold subComponentsFrom
        rfl
    | cons node rest ih =>
        cases shown : node.reference? package with
        | none =>
            unfold subComponentsFrom
            rw [List.filterMap_cons_none shown] at inside ⊢
            simp only [shown]
            exact ih listed inside apart room
        | some reference =>
            rw [List.filterMap_cons_some shown] at inside ⊢
            obtain ⟨known, insideRest⟩ := List.cons_subset.mp inside
            by_cases met : reference.key ∈ listed.map key
            · obtain ⟨found, same, searched⟩ := ih listed insideRest apart room
              unfold subComponentsFrom
              simp only [shown, met_keys_contains_iff.mpr met, if_true]
              exact ⟨found, same, searched.skip met⟩
            · have skipped : (metKeys listed).contains (.text reference.key) = false :=
                Bool.eq_false_iff.mpr fun kept => met (met_keys_contains_iff.mp kept)
              have apartMet : ((listed ++ [reference]).map key).Nodup := by
                rw [← List.concat_eq_append, List.map_concat]
                exact apart.concat met
              have fewer := Nat.lt_of_lt_of_le (unmet_concat_lt known met) room
              obtain ⟨behind, looked⟩ := closed.told reference known
              obtain ⟨inner, entered, through⟩ :=
                behind_searched closed deeper known apartMet fewer looked
              have fewerStill := unmet_append_le candidates (listed ++ [reference]) inner
              obtain ⟨others, ended, later⟩ :=
                ih (listed ++ [reference] ++ inner) insideRest through.apart (by omega)
              rw [met_keys_concat] at entered
              refine ⟨reference :: inner ++ others, ?_, .cons met through later⟩
              rw [sub_components_from_new shown skipped looked entered ended]
              simp

end Component

namespace Library

/-- References in the order of a depth-first search that ends when there is nothing left to list. -/
def IsDepthFirst (library : Library) (start references : List ComponentReference) : Prop :=
  ∀ before after, references = before ++ after → library.nextOf start before before = after.head?

theorem IsSearched.depth_first {library : Library} {start references : List ComponentReference}
    (searched : library.IsSearched start [] references) :
    library.IsDepthFirst start references := by
  intro before after same
  cases after with
  | nil =>
      rw [List.append_nil] at same
      subst same
      have passed := next_of_append searched.closed start []
      rw [List.nil_append] at passed
      rw [passed, next_of_nil]
      exact first_unlisted_of_listed searched.covered
  | cons next rest =>
      have due : library.IsDue start start [] := fun _ _ _ first => first
      exact searched.ordered start due before next rest same

theorem IsDepthFirst.unique {library : Library} {start references others : List ComponentReference}
    (ordered : library.IsDepthFirst start references) (also : library.IsDepthFirst start others) :
    references = others := by
  have agree (after : List ComponentReference) : ∀ before otherAfter, references = before ++ after →
      others = before ++ otherAfter → after = otherAfter := by
    induction after with
    | nil =>
        intro before otherAfter same otherSame
        have ended := (also before otherAfter otherSame).symm.trans (ordered before [] same)
        exact (List.head?_eq_none_iff.mp ended).symm
    | cons next rest ih =>
        intro before otherAfter same otherSame
        have first :=
          (also before otherAfter otherSame).symm.trans (ordered before (next :: rest) same)
        obtain ⟨otherRest, rfl⟩ := List.head?_eq_some_iff.mp first
        rw [ih (before ++ [next]) otherRest (by simpa using same) (by simpa using otherSame)]
  exact agree references [] others rfl rfl

end Library
end Interplay
