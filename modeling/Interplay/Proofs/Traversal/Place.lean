import Interplay.Proofs.Registry.Lookup
import Interplay.Proofs.Value.Content
import Interplay.Traversal.Actions
import Mathlib.Data.List.Infix

/-!
Places in trees of formulas and actions.

A tree is made of places: its nodes, and the parts of nodes that hold further nodes.  The parts of a
place stand under keys and positions, in a fixed order, and a location is followed part by part.  A
tour lists all places of a tree, each one before its parts: a place stands where its location leads,
and gets the package that is declared next above it.
-/

namespace Interplay

inductive Place where
  | formula (formula : Formula)
  | arguments (arguments : List Argument)
  | argument (argument : Argument)
  | formulaCases (cases : List FormulaCase)
  | formulaCase (branch : FormulaCase)
  | namedFormulas (formulas : List NamedFormula)
  | namedFormula (formula : NamedFormula)
  | action (action : Action)
  | actions (actions : List Action)
  /-- An object that holds a list of actions. -/
  | body (actions : List Action)
  | bodies (bodies : List ActionBody)
  | actionCases (cases : List ActionCase)
  | actionCase (branch : ActionCase)

namespace Place

/-- An optional formula under a key. -/
def under (key : String) : Option Formula → Keyed Segment Place
  | none => []
  | some inner => [(.key key, .formula inner)]

def bodyUnder (key : String) : Option (List Action) → Keyed Segment Place
  | none => []
  | some items => [(.key key, .body items)]

@[simp] theorem body_under_none (key : String) : bodyUnder key none = [] :=
  rfl

@[simp] theorem body_under_some (key : String) (items : List Action) :
    bodyUnder key (some items) = [(.key key, .body items)] :=
  rfl

def numbered {α : Type} (place : α → Place) : Nat → List α → Keyed Segment Place
  | _, [] => []
  | position, item :: rest => (.index position, place item) :: numbered place (position + 1) rest

def parts : Place → Keyed Segment Place
  | formula (.value _) => []
  | formula (.path _) => []
  | formula (.function _ items _) => [(.key "arguments", arguments items)]
  | formula (.apply _ items) => [(.key "arguments", arguments items)]
  | formula (.object items) => [(.key "arguments", arguments items)]
  | formula (.record items) => [(.key "arguments", arguments items)]
  | formula (.array items) => [(.key "arguments", arguments items)]
  | formula (.or items) => [(.key "arguments", arguments items)]
  | formula (.and items) => [(.key "arguments", arguments items)]
  | formula (.switch cases fallback) =>
    (.key "cases", formulaCases cases) :: under "default" fallback
  | arguments items => numbered argument 0 items
  | argument item => under "formula" item.formula
  | formulaCases cases => numbered formulaCase 0 cases
  | formulaCase branch => under "condition" branch.condition ++ under "formula" branch.result
  | namedFormulas items => numbered namedFormula 0 items
  | namedFormula item => under "formula" item.formula
  | action (.setVariable _ data) => under "data" data
  | action (.triggerEvent _ data) => under "data" data
  | action (.triggerWorkflowCallback _ data) => under "data" data
  | action (.setUrlParameter _ data _) => under "data" data
  | action (.setUrlParameters parameters _) => [(.key "parameters", namedFormulas parameters)]
  | action (.fetch _ inputs onSuccess onError onMessage) =>
    [(.key "inputs", namedFormulas inputs), (.key "onSuccess", body onSuccess),
      (.key "onError", body onError), (.key "onMessage", body onMessage)]
  | action (.abortFetch _) => []
  | action (.custom _ _ items events) =>
    [(.key "arguments", namedFormulas items), (.key "events", bodies events)]
  | action (.triggerWorkflow _ parameters callbacks _ _) =>
    [(.key "parameters", namedFormulas parameters), (.key "callbacks", bodies callbacks)]
  | action (.switch cases fallback data) =>
    under "data" data ++ (.key "cases", actionCases cases) :: bodyUnder "default" fallback
  | actions items => numbered action 0 items
  | body items => [(.key "actions", actions items)]
  | bodies events => events.map fun event => (.key event.name, body event.actions)
  | actionCases cases => numbered actionCase 0 cases
  | actionCase branch =>
    under "condition" branch.condition ++ [(.key "actions", actions branch.actions)]

def follow (place : Place) : Location → Option Place
  | [] => some place
  | segment :: rest => (Keyed.find? segment place.parts).bind fun part => part.follow rest

def declared : Place → Value
  | formula (.function _ _ own) => own
  | _ => .null

def ancestors (place : Place) (location : Location) : List Place :=
  location.inits.dropLast.filterMap place.follow

/-- The package that is declared next above a location, or else the given one. -/
def packageAt (place : Place) (package : Value) (location : Location) : Value :=
  (((place.ancestors location).map declared).reverse.find? Value.isFilled).getD package

/-- Pre-order of locations: a place comes before its parts, and all of a part before the parts
behind it. -/
inductive Precedes : Place → Location → Location → Prop
  | above {place : Place} {segment : Segment} {rest : Location} :
      Precedes place [] (segment :: rest)
  | beside {place : Place} {former latter : Segment} {formerRest latterRest : Location}
      (inOrder : [former, latter].Sublist (place.parts.map Prod.fst)) :
      Precedes place (former :: formerRest) (latter :: latterRest)
  | within {place part : Place} {segment : Segment} {formerRest latterRest : Location}
      (found : Keyed.find? segment place.parts = some part)
      (inside : Precedes part formerRest latterRest) :
      Precedes place (segment :: formerRest) (segment :: latterRest)

/-- The bodies of an action have different names. -/
def HasDistinctBodies (place : Place) : Prop :=
  ∀ location events, place.follow location = some (bodies events) →
    (events.map ActionBody.name).Nodup

/-! ### Parts -/

theorem index_of_numbered {α : Type} {place : α → Place} {position : Nat}
    {items : List α} {segment : Segment}
    (member : segment ∈ (numbered place position items).map Prod.fst) :
    ∃ index, position ≤ index ∧ segment = .index index := by
  induction items generalizing position with
  | nil => cases member
  | cons item rest ih =>
      rcases List.mem_cons.mp member with same | later
      · exact ⟨position, Nat.le_refl _, same⟩
      · obtain ⟨index, above, same⟩ := ih later
        exact ⟨index, by omega, same⟩

theorem nodup_numbered {α : Type} (place : α → Place) (position : Nat) (items : List α) :
    ((numbered place position items).map Prod.fst).Nodup := by
  induction items generalizing position with
  | nil => exact List.nodup_nil
  | cons item rest ih =>
      apply List.nodup_cons.mpr ⟨fun member => ?_, ih (position + 1)⟩
      obtain ⟨index, above, same⟩ := index_of_numbered member
      cases same
      omega

theorem item_of_numbered {α : Type} {place : α → Place} {position : Nat}
    {items : List α} {segment : Segment}
    {part : Place} (member : (segment, part) ∈ numbered place position items) :
    ∃ index item, segment = .index (position + index) ∧ items[index]? =
    some item ∧ part = place item := by
  induction items generalizing position with
  | nil => cases member
  | cons first rest ih =>
      rcases List.mem_cons.mp member with same | later
      · cases same
        exact ⟨0, first, rfl, rfl, rfl⟩
      · obtain ⟨index, item, rfl, found, rfl⟩ := ih later
        exact ⟨index + 1, item, by rw [Nat.add_right_comm, Nat.add_assoc], found, rfl⟩

theorem formula_of_under {key : String} {found : Option Formula} {segment : Segment} {part : Place}
    (member : (segment, part) ∈ under key found) :
    ∃ inner, found = some inner ∧ segment = .key key ∧ part = formula inner := by
  cases found with
  | none => cases member
  | some inner =>
      cases List.mem_singleton.mp member
      exact ⟨inner, rfl, rfl, rfl⟩

theorem body_of_body_under {key : String} {found : Option (List Action)}
    {segment : Segment} {part : Place} (member : (segment, part) ∈ bodyUnder key found) :
    ∃ items, found = some items ∧ segment = .key key ∧ part = body items := by
  cases found with
  | none => cases member
  | some items =>
      cases List.mem_singleton.mp member
      exact ⟨items, rfl, rfl, rfl⟩

/-- The parts of a place have different spellings, if the bodies of an action have different
names. -/
theorem nodup_parts (place : Place)
    (distinct : ∀ events, place = bodies events → (events.map ActionBody.name).Nodup) :
    (place.parts.map Prod.fst).Nodup := by
  cases place with
  | formula formula =>
      cases formula with
      | switch cases fallback => cases fallback <;> simp [parts, under]
      | _ => simp [parts]
  | arguments | formulaCases | namedFormulas | actions | actionCases => exact nodup_numbered _ _ _
  | argument item => cases found : item.formula <;> simp [parts, under, found]
  | namedFormula item => cases found : item.formula <;> simp [parts, under, found]
  | formulaCase branch =>
      cases condition : branch.condition <;> cases result : branch.result <;>
        simp [parts, under, condition, result]
  | actionCase branch => cases condition : branch.condition <;> simp [parts, under, condition]
  | body items => simp [parts]
  | bodies events =>
      have names : (parts (bodies events)).map Prod.fst =
          (events.map ActionBody.name).map Segment.key := by
        simp [parts]
      rw [names]
      exact (distinct events rfl).map fun _ _ same => Segment.key.inj same
  | action action =>
      cases action with
      | switch cases fallback data => cases fallback <;> cases data <;> simp [parts, under]
      | setVariable _ data | triggerEvent _ data | triggerWorkflowCallback _ data
      | setUrlParameter _ data _ =>
          cases data <;> simp [parts, under]
      | _ => simp [parts]

/-- How much there is below a place; a body counts for a little more than its actions. -/
noncomputable def weight : Place → Nat
  | formula inner => 2 * sizeOf inner
  | arguments items => 2 * sizeOf items
  | argument item => 2 * sizeOf item
  | formulaCases cases => 2 * sizeOf cases
  | formulaCase branch => 2 * sizeOf branch
  | namedFormulas items => 2 * sizeOf items
  | namedFormula item => 2 * sizeOf item
  | action inner => 2 * sizeOf inner
  | actions items => 2 * sizeOf items
  | body items => 2 * sizeOf items + 1
  | bodies events => 2 * sizeOf events
  | actionCases cases => 2 * sizeOf cases
  | actionCase branch => 2 * sizeOf branch

theorem weight_numbered {α : Type} [SizeOf α] {place : α → Place}
    (same : ∀ item, (place item).weight = 2 * sizeOf item) {position : Nat}
    {items : List α} {segment : Segment}
    {part : Place} (member : (segment, part) ∈ numbered place position items) :
    part.weight < 2 * sizeOf items := by
  obtain ⟨index, item, rfl, found, rfl⟩ := item_of_numbered member
  have below := List.sizeOf_lt_of_mem (List.mem_of_getElem? found)
  rw [same]
  omega

theorem weight_under {key : String} {found : Option Formula} {segment : Segment} {part : Place}
    (member : (segment, part) ∈ under key found) : part.weight < 2 * sizeOf found := by
  obtain ⟨inner, rfl, rfl, rfl⟩ := formula_of_under member
  simp [weight]

theorem weight_part_of_formula {inner : Formula} {segment : Segment} {part : Place}
    (member : (segment, part) ∈ (formula inner).parts) : part.weight < (formula inner).weight := by
  cases inner with
  | value | path => cases member
  | switch cases fallback =>
      rcases List.mem_cons.mp member with same | last
      · cases same
        simp [weight]
        omega
      · apply Nat.lt_of_lt_of_le (weight_under last)
        simp [weight]
  | function | apply | object | record | array | or | and =>
      cases List.mem_singleton.mp member
      simp [weight] <;> omega

theorem weight_part_of_action {inner : Action} {segment : Segment} {part : Place}
    (member : (segment, part) ∈ (action inner).parts) : part.weight < (action inner).weight := by
  cases inner with
  | abortFetch => cases member
  | setVariable | triggerEvent | triggerWorkflowCallback | setUrlParameter =>
      apply Nat.lt_of_lt_of_le (weight_under member)
      simp [weight] <;> omega
  | setUrlParameters =>
      cases List.mem_singleton.mp member
      simp [weight]
      omega
  | fetch =>
      simp only [parts, List.mem_cons, List.not_mem_nil, or_false, Prod.mk.injEq] at member
      rcases member with ⟨_, rfl⟩ | ⟨_, rfl⟩ | ⟨_, rfl⟩ | ⟨_, rfl⟩ <;> (simp [weight]; omega)
  | custom | triggerWorkflow =>
      simp only [parts, List.mem_cons, List.not_mem_nil, or_false, Prod.mk.injEq] at member
      rcases member with ⟨_, rfl⟩ | ⟨_, rfl⟩ <;> simp [weight] <;> omega
  | switch cases fallback data =>
      rcases List.mem_append.mp member with first | others
      · apply Nat.lt_of_lt_of_le (weight_under first)
        simp [weight]
      · rcases List.mem_cons.mp others with same | last
        · cases same
          simp [weight]
          omega
        · obtain ⟨items, rfl, _, rfl⟩ := body_of_body_under last
          simp [weight]
          omega

theorem weight_part {place part : Place} {segment : Segment}
    (member : (segment, part) ∈ place.parts) :
    part.weight < place.weight := by
  cases place with
  | formula inner => exact weight_part_of_formula member
  | action inner => exact weight_part_of_action member
  | arguments | formulaCases | namedFormulas | actions | actionCases =>
      exact weight_numbered (fun _ => rfl) member
  | argument item =>
      obtain ⟨inner, name, isFunction⟩ := item
      apply Nat.lt_of_lt_of_le (weight_under member)
      simp [weight, Argument.formula]
      omega
  | namedFormula item =>
      obtain ⟨name, inner⟩ := item
      apply Nat.lt_of_lt_of_le (weight_under member)
      simp [weight]
  | formulaCase branch =>
      obtain ⟨condition, result⟩ := branch
      rcases List.mem_append.mp member with first | second
      · apply Nat.lt_of_lt_of_le (weight_under first)
        simp [weight, FormulaCase.condition]
        omega
      · apply Nat.lt_of_lt_of_le (weight_under second)
        simp [weight, FormulaCase.result]
  | actionCase branch =>
      obtain ⟨condition, items⟩ := branch
      rcases List.mem_append.mp member with first | second
      · apply Nat.lt_of_lt_of_le (weight_under first)
        simp [weight, ActionCase.condition]
        omega
      · cases List.mem_singleton.mp second
        simp [weight, ActionCase.actions]
  | body items =>
      cases List.mem_singleton.mp member
      simp [weight]
  | bodies events =>
      obtain ⟨event, listed, same⟩ := List.mem_map.mp member
      cases same
      obtain ⟨name, items⟩ := event
      have below := List.sizeOf_lt_of_mem listed
      simp [weight, ActionBody.actions] at below ⊢
      omega

/-! ### Following locations -/

theorem follow_cons {place part : Place} {segment : Segment}
    (found : Keyed.find? segment place.parts = some part)
    (rest : Location) : place.follow (segment :: rest) = part.follow rest := by
  simp [follow, found]

theorem mem_parts_of_found {place part : Place} {segment : Segment}
    (found : Keyed.find? segment place.parts = some part) : (segment, part) ∈ place.parts := by
  obtain ⟨spelled, same, member⟩ := Keyed.entry_of_find? found
  rw [← beq_iff_eq.mp same]
  exact member

theorem nodup_parts_of_distinct {place : Place} (distinct : place.HasDistinctBodies) :
    (place.parts.map Prod.fst).Nodup := by
  apply nodup_parts
  rintro events rfl
  exact distinct [] events rfl

theorem distinct_of_part {place part : Place} {segment : Segment}
    (distinct : place.HasDistinctBodies)
    (found : Keyed.find? segment place.parts = some part) : part.HasDistinctBodies := by
  intro location events led
  apply distinct (segment :: location) events
  rw [follow_cons found, led]

theorem found_iff {place : Place} (distinct : place.HasDistinctBodies)
    (segment : Segment) (part : Place) :
    (segment, part) ∈ place.parts ↔ Keyed.find? segment place.parts = some part :=
  Keyed.mem_iff_find? (nodup_parts_of_distinct distinct) segment part

@[simp] theorem package_at_nil (place : Place) (package : Value) :
    place.packageAt package [] = package :=
  rfl

theorem package_at_cons {place part : Place} {segment : Segment}
    (found : Keyed.find? segment place.parts = some part) (package : Value) (rest : Location) :
    place.packageAt package (segment :: rest) = part.packageAt
      (place.declared.orElse package) rest := by
  have started : rest.inits.map (segment :: ·) ≠ [] := by cases rest <;> simp
  have above : place.ancestors (segment :: rest) = place :: part.ancestors rest := by
    unfold ancestors
    rw [List.inits_cons, List.dropLast_cons_of_ne_nil started,
      List.filterMap_cons, ← List.map_dropLast, List.filterMap_map]
    simp only [follow]
    congr 2
    funext location
    exact follow_cons found location
  unfold packageAt
  rw [above, List.map_cons, List.reverse_cons, List.find?_append]
  cases ((part.ancestors rest).map declared).reverse.find? Value.isFilled with
  | some own => rfl
  | none =>
      unfold Value.orElse
      cases filled : place.declared.isFilled <;> simp [filled]

theorem Precedes.ne {place : Place} {former latter : Location}
    (before : place.Precedes former latter)
    (distinct : place.HasDistinctBodies) : former ≠ latter := by
  induction before with
  | above => exact nofun
  | beside inOrder =>
      intro same
      cases same
      exact List.nodup_iff_sublist.mp (nodup_parts_of_distinct distinct) _ inOrder
  | within found _ ih =>
      exact fun same => ih (distinct_of_part distinct found) (List.cons.inj same).2

end Place

/-! ### Tours -/

structure Stop where
  location : Location
  package : Value
  place : Place

namespace Place

def tour (location : Location) (package : Value) (place : Place) : List Stop :=
  ⟨location, package, place⟩ :: place.parts.attach.flatMap fun part =>
    tour (location ++ [part.1.1]) (place.declared.orElse package) part.1.2
  termination_by place.weight
  decreasing_by exact weight_part part.2

def tours (location : Location) (package : Value) (parts : Keyed Segment Place) : List Stop :=
  parts.flatMap fun part => tour (location ++ [part.1]) package part.2

theorem tour_eq (location : Location) (package : Value) (place : Place) :
    tour location package place =
      ⟨location, package, place⟩ :: tours location (place.declared.orElse package) place.parts := by
  rw [tour]
  unfold tours
  congr 1
  rw [List.flatMap_subtype
    (g := fun part => tour (location ++ [part.1]) (place.declared.orElse package) part.2)
    fun _ _ => rfl, List.unattach_attach]

@[simp] theorem tours_nil (location : Location) (package : Value) :
    tours location package [] = [] :=
  rfl

@[simp] theorem tours_cons (location : Location) (package : Value) (part : Segment × Place)
    (rest : Keyed Segment Place) :
    tours location package (part :: rest) =
      tour (location ++ [part.1]) package part.2 ++ tours location package rest :=
  rfl

@[simp] theorem tours_append (location : Location) (package : Value)
    (former latter : Keyed Segment Place) :
    tours location package (former ++ latter) = tours location package former ++
    tours location package latter :=
  List.flatMap_append

/-- What holds of a place if it holds of its parts holds of every place. -/
theorem induct {motive : Place → Prop}
    (step : ∀ place, (∀ segment part, (segment, part) ∈ place.parts → motive part) → motive place)
    (place : Place) : motive place := by
  induction measured : place.weight using Nat.strong_induction_on generalizing place with
  | _ weight ih =>
      subst measured
      exact step place fun segment part member => ih part.weight (weight_part member) part rfl

/-- A tour comes to the places that locations lead to, with the packages that are declared above
them. -/
theorem mem_tour {place : Place} (distinct : place.HasDistinctBodies)
    (start : Location) (package : Value) (stop : Stop) :
    stop ∈ tour start package place ↔
      ∃ location, stop.location = start ++ location ∧ place.follow location = some stop.place ∧
        stop.package = place.packageAt package location := by
  induction place using induct generalizing start package with
  | step place ih =>
      rw [tour_eq, List.mem_cons]
      constructor
      · rintro (rfl | inside)
        · exact ⟨[], by simp, rfl, rfl⟩
        · obtain ⟨⟨segment, part⟩, member, toured⟩ := List.mem_flatMap.mp inside
          have found := (found_iff distinct segment part).mp member
          obtain ⟨rest, placed, led, packed⟩ :=
            (ih segment part member (distinct_of_part distinct found) _ _).mp toured
          refine ⟨segment :: rest, by simp [placed], ?_, ?_⟩
          · rw [follow_cons found, led]
          · rw [package_at_cons found, packed]
      · rintro ⟨location, placed, led, packed⟩
        cases location with
        | nil =>
            left
            cases stop
            simp_all [follow]
        | cons segment rest =>
            right
            obtain ⟨part, found, inner⟩ := Option.bind_eq_some_iff.mp led
            have member := (found_iff distinct segment part).mpr found
            apply List.mem_flatMap.mpr ⟨(segment, part), member, ?_⟩
            apply (ih segment part member (distinct_of_part distinct found) _ _).mpr
            exact ⟨rest, by simp [placed], inner, by rw [packed, package_at_cons found]⟩

theorem tour_in_order {place : Place} (distinct : place.HasDistinctBodies)
    (start : Location) (package : Value) :
    (tour start package place).Pairwise fun former latter =>
      ∃ location other, former.location = start ++ location ∧ latter.location = start ++ other ∧
        place.Precedes location other := by
  induction place using induct generalizing start package with
  | step place ih =>
      -- all stops in a part lie behind its segment, so parts are told apart by their first segments
      have below : ∀ segment part, (segment, part) ∈ place.parts →
          ∀ stop ∈ tour (start ++ [segment])
          (place.declared.orElse package) part, ∃ rest, stop.location =
          start ++ segment :: rest := by
        intro segment part member stop toured
        have found := (found_iff distinct segment part).mp member
        obtain ⟨rest, placed, _⟩ := (mem_tour (distinct_of_part distinct found) _ _ stop).mp toured
        exact ⟨rest, by simp [placed]⟩
      rw [tour_eq, List.pairwise_cons]
      constructor
      · intro stop inside
        obtain ⟨⟨segment, part⟩, member, toured⟩ := List.mem_flatMap.mp inside
        obtain ⟨rest, placed⟩ := below segment part member stop toured
        exact ⟨[], segment :: rest, by simp, placed, .above⟩
      · apply List.pairwise_flatMap.mpr
        constructor
        · rintro ⟨segment, part⟩ member
          have found := (found_iff distinct segment part).mp member
          apply (ih segment part member (distinct_of_part distinct found) _ _).imp
          rintro former latter ⟨location, other, placed, otherPlaced, before⟩
          exact ⟨segment :: location, segment :: other, by simp [placed], by simp [otherPlaced],
            .within found before⟩
        · apply List.pairwise_iff_forall_sublist.mpr
          rintro ⟨segment, part⟩ ⟨other, otherPart⟩ inOrder former toured latter otherToured
          have inside := inOrder.subset
          obtain ⟨rest, placed⟩ := below segment part (inside (by simp)) former toured
          obtain ⟨otherRest, otherPlaced⟩ :=
            below other otherPart (inside (by simp)) latter otherToured
          exact ⟨segment :: rest, other :: otherRest, placed, otherPlaced,
            .beside (inOrder.map Prod.fst)⟩

end Place
end Interplay
