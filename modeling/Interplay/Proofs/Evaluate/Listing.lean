import Interplay.Proofs.Evaluate.Denotation
import Interplay.Proofs.Traversal.Visits

/-!
The formulas that a walk over a component lists.

With every formula that is listed, all that is right inside of it is listed as well, so evaluation
never leaves the list by going down.  Which formulas are listed does not depend on the package that
the walk starts with.
-/

namespace Interplay

namespace Place

/-- The second place stands somewhere in the first. -/
inductive Contains : Place → Place → Prop
  | refl (place : Place) : Contains place place
  | part {place part inner : Place} {segment : Segment} (member : (segment, part) ∈ place.parts)
    (inside : Contains part inner) : Contains place inner

theorem Contains.trans {outer middle inner : Place} (former : outer.Contains middle)
    (latter : middle.Contains inner) :
    outer.Contains inner := by
  induction former with
  | refl => exact latter
  | part member _ ih => exact .part member (ih latter)

theorem contains_under {place : Place} {key : String} {found : Option Formula} {inner : Formula}
    (member : ∀ entry ∈ under key found, entry ∈ place.parts) (present : found = some inner) :
    place.Contains (formula inner) := by
  subst present
  exact .part (member _ (List.mem_singleton.mpr rfl)) (.refl _)

theorem mem_numbered {α : Type} (place : α → Place) {items : List α}
    {item : α} (member : item ∈ items)
    (position : Nat) : ∃ segment, (segment, place item) ∈ numbered place position items := by
  induction member generalizing position with
  | head rest => exact ⟨_, List.mem_cons_self⟩
  | tail _ _ ih =>
      obtain ⟨segment, listed⟩ := ih (position + 1)
      exact ⟨segment, List.mem_cons_of_mem _ listed⟩

theorem contains_argument {items : List Argument} {item : Argument}
    (member : item ∈ items) {inner : Formula}
    (present : item.formula = some inner) : (arguments items).Contains (formula inner) := by
  obtain ⟨segment, listed⟩ := mem_numbered argument member 0
  exact .part listed (contains_under (fun _ entry => entry) present)

theorem contains_case {cases : List FormulaCase} {branch : FormulaCase}
    (member : branch ∈ cases) {inner : Formula}
    (present : branch.condition = some inner ∨ branch.result = some inner) :
    (formulaCases cases).Contains (formula inner) := by
  obtain ⟨segment, listed⟩ := mem_numbered formulaCase member 0
  refine .part listed ?_
  rcases present with condition | result
  · exact contains_under (fun _ entry => List.mem_append_left _ entry) condition
  · exact contains_under (fun _ entry => List.mem_append_right _ entry) result

theorem contains_formula_part {outer inner : Formula} (part : inner ∈ outer.parts) :
    (formula outer).Contains (formula inner) := by
  cases outer with
  | value | path => cases part
  | switch cases fallback =>
      simp only [Formula.parts, List.mem_append, List.mem_filterMap, Option.mem_toList] at part
      rcases part with (⟨branch, member, condition⟩ | ⟨branch, member, result⟩) | last
      · exact .part List.mem_cons_self (contains_case member (.inl condition))
      · exact .part List.mem_cons_self (contains_case member (.inr result))
      · exact contains_under (fun _ entry => List.mem_cons_of_mem _ entry) last
  | function | apply | object | record | array | or | and =>
      obtain ⟨item, member, present⟩ := List.mem_filterMap.mp part
      exact .part (List.mem_singleton.mpr rfl) (contains_argument member present)

/-- A tour comes to whatever stands in its place, and to nothing else. -/
theorem toured_iff (place inner : Place) (location : Location) (package : Value) :
    (∃ stop ∈ tour location package place, stop.place = inner) ↔ place.Contains inner := by
  induction place using induct generalizing location package with
  | step place ih =>
      rw [tour_eq]
      constructor
      · rintro ⟨stop, member, rfl⟩
        rcases List.mem_cons.mp member with rfl | below
        · exact .refl _
        · obtain ⟨⟨segment, part⟩, listed, toured⟩ := List.mem_flatMap.mp below
          exact .part listed ((ih segment part listed _ _).mp ⟨stop, toured, rfl⟩)
      · intro contains
        cases contains with
        | refl => exact ⟨_, List.mem_cons_self, rfl⟩
        | part listed inside =>
            obtain ⟨stop, toured, same⟩ :=
              (ih _ _ listed (location ++ [_]) (place.declared.orElse package)).mpr inside
            exact ⟨stop, List.mem_cons_of_mem _ (List.mem_flatMap.mpr ⟨_, listed, toured⟩), same⟩

end Place

namespace FormulaVisit

/-- Each formula of the first visits, and each one right inside it, is a formula of the second
visits. -/
def Covers (others visits : List FormulaVisit) : Prop :=
  ∀ visit ∈ visits, ∀ inner, inner = visit.formula ∨ inner ∈ visit.formula.parts →
    ∃ other ∈ others, other.formula = inner

theorem covers_nil : Covers [] [] :=
  nofun

theorem Covers.append {others visits moreOthers more : List FormulaVisit}
    (first : Covers others visits)
    (second : Covers moreOthers more) : Covers (others ++ moreOthers) (visits ++ more) := by
  intro visit member inner inside
  rcases List.mem_append.mp member with former | latter
  · obtain ⟨other, listed, same⟩ := first visit former inner inside
    exact ⟨other, List.mem_append_left _ listed, same⟩
  · obtain ⟨other, listed, same⟩ := second visit latter inner inside
    exact ⟨other, List.mem_append_right _ listed, same⟩

theorem covers_flat_map {α : Type} {items : List α} {others visits : α → List FormulaVisit}
    (each : ∀ item, Covers (others item) (visits item)) : Covers (items.flatMap others)
    (items.flatMap visits) := by
  intro visit member inner inside
  obtain ⟨item, listed, visited⟩ := List.mem_flatMap.mp member
  obtain ⟨other, otherListed, same⟩ := each item visit visited inner inside
  exact ⟨other, List.mem_flatMap.mpr ⟨item, listed, otherListed⟩, same⟩

theorem covers_tour (place : Place) (location : Location) (package other : Value) :
    Covers (Stop.formulas (Place.tour location other place))
      (Stop.formulas (Place.tour location package place)) := by
  intro visit member inner inside
  obtain ⟨stop, toured, visited⟩ := List.mem_filterMap.mp member
  cases Stop.formula_eq_some.mp visited
  have standing := (Place.toured_iff place _ location package).mp ⟨_, toured, rfl⟩
  have below : (Place.formula visit.formula).Contains (.formula inner) := by
    rcases inside with rfl | part
    · exact .refl _
    · exact Place.contains_formula_part part
  obtain ⟨found, reached, same⟩ :=
    (Place.toured_iff place _ location other).mpr (standing.trans below)
  obtain ⟨foundLocation, foundPackage, foundPlace⟩ := found
  cases same
  exact ⟨⟨foundLocation, inner, foundPackage⟩, List.mem_filterMap.mpr ⟨_, reached, rfl⟩, rfl⟩

variable (location : Location) (package other : Value)

theorem covers_found (found : Option Formula) :
    Covers (Formula.visitsOf location other found) (Formula.visitsOf location package found) := by
  cases found with
  | none => exact covers_nil
  | some inner =>
      simp only [Formula.visitsOf, Formula.visits_of_tour]
      exact covers_tour _ _ _ _

theorem covers_actions (actions : List Action) :
    Covers (Action.formulaVisitsOf location other 0 actions)
      (Action.formulaVisitsOf location package 0 actions) := by
  have toured := covers_tour (.actions actions) location package other
  simp only [Place.tour_eq, Stop.formulas_cons] at toured
  simp only [Action.formula_visits_of_tours]
  exact toured

theorem covers_fallback (found : Option (List Action)) :
    Covers (Action.fallbackFormulaVisits location other found)
      (Action.fallbackFormulaVisits location package found) := by
  cases found with
  | none => exact covers_nil
  | some actions => exact covers_actions location package other actions

theorem covers_table (tail : Location) (formulas : Table (Option Formula)) :
    Covers (Formula.tableVisits location tail other formulas)
      (Formula.tableVisits location tail package formulas) :=
  covers_flat_map fun entry => covers_found _ package other entry.2

theorem covers_events (events : Table (List Action)) :
    Covers (Action.eventFormulaVisits location other events)
      (Action.eventFormulaVisits location package events) :=
  covers_flat_map fun entry => covers_actions _ package other entry.2

theorem covers_toggled (entries : Table ToggledFormula) :
    Covers (ToggledFormula.visits location other entries)
      (ToggledFormula.visits location package entries) :=
  covers_flat_map fun entry => (covers_found _ package other entry.2.formula).append
    (covers_found _ package other entry.2.enabled)

theorem covers_variants (position : Nat) (variants : List StyleVariant) :
    Covers (StyleVariant.visits location other position variants)
      (StyleVariant.visits location package position variants) := by
  induction variants generalizing position with
  | nil => exact covers_nil
  | cons variant rest ih =>
      exact (covers_table _ package other _ variant.customProperties).append (ih (position + 1))

theorem covers_body (body : NodeBody) :
    Covers (Node.bodyVisits location other body) (Node.bodyVisits location package body) := by
  cases body with
  | element tag attributes events classes properties variants children =>
      exact ((((covers_table _ package other _ attributes).append
        (covers_events _ package other events)).append
        (covers_table _ package other _ classes)).append
        (covers_table _ package other _ properties)).append
        (covers_variants _ package other 0 variants)
  | component name own attributes events properties children =>
      exact ((covers_table _ _ _ _ attributes).append (covers_events _ _ _ events)).append
        (covers_table _ _ _ _ properties)
  | text content => exact covers_found _ package other content
  | slot => exact covers_nil

theorem covers_node (node : Node) :
    Covers (node.formulaVisits location other) (node.formulaVisits location package) :=
  (((covers_found _ package other node.flow.condition).append
    (covers_found _ package other node.flow.repeated)).append
    (covers_found _ package other node.flow.repeatKey)).append
    (covers_body location package other node.body)

theorem covers_api (api : ComponentApi) :
    Covers (api.formulaVisits location other) (api.formulaVisits location package) :=
  ((((((((covers_found _ package other api.autoFetch).append (covers_found _ package other api.url)).append
    (covers_found _ package other api.method)).append
    (covers_found _ package other api.body)).append
    (covers_toggled _ package other api.headers)).append
    (covers_toggled _ package other api.queryParams)).append
    (covers_fallback _ package other api.onCompleted)).append
    (covers_fallback _ package other api.onFailed)).append
    (covers_fallback _ package other api.onMessage)

theorem covers_route (route : Option RouteInfo) :
    Covers (RouteInfo.formulaVisits other route) (RouteInfo.formulaVisits package route) := by
  cases route with
  | none => exact covers_nil
  | some route =>
      exact (covers_found _ package other route.title).append
        (covers_found _ package other route.description)

/-- Whatever package a walk over a component starts with, it lists the same formulas, and with each
of them what is right inside of it. -/
theorem covers_component (component : Component) :
    Covers (component.formulaVisits other) (component.formulaVisits package) := by
  unfold Component.formulaVisits
  refine (((((((covers_route package other _).append (covers_flat_map fun entry => ?_)).append
    (covers_table _ package other _ _)).append (covers_flat_map fun entry => ?_)).append
    (covers_flat_map fun entry => ?_)).append (covers_fallback _ package other _)).append
    (covers_fallback _ package other _)).append (covers_flat_map fun entry => ?_)
  · exact covers_found _ package other entry.2.formula
  · exact covers_actions _ package other entry.2.actions
  · exact covers_api _ package other entry.2
  · exact covers_node _ package other entry.2

end FormulaVisit

namespace Component

def Lists (component : Component) (formula : Formula) : Prop :=
  ∃ visit ∈ component.formulaVisits .null, visit.formula = formula

theorem lists_of_visit {component : Component} {package : Value} {visit : FormulaVisit}
    (member : visit ∈ component.formulaVisits package) : component.Lists visit.formula :=
  FormulaVisit.covers_component package .null component visit member _ (.inl rfl)

theorem Lists.part {component : Component} {formula part : Formula}
    (listed : component.Lists formula) (inside : part ∈ formula.parts) : component.Lists part := by
  obtain ⟨visit, member, rfl⟩ := listed
  exact FormulaVisit.covers_component .null .null component visit member part (.inr inside)

theorem Lists.operand {component : Component} {formula part : Formula}
    (listed : component.Lists formula)
    {argument : Argument} (member : argument ∈ formula.arguments)
    (present : argument.formula = some part) :
    component.Lists part :=
  listed.part (Formula.part_of_argument member present)

theorem lists_body {component : Component} {name : String}
    {definition : ComponentFormula} {body : Formula}
    (found : Keyed.find? name component.formulas = some definition)
    (present : definition.formula = some body) :
    component.Lists body := by
  obtain ⟨spelled, member⟩ := Keyed.mem_of_find? found
  have visited : ⟨[.key "formulas", .key spelled, .key "formula"], body, .null⟩ ∈
      Formula.visitsOf [.key "formulas", .key spelled, .key "formula"] .null
        definition.formula := by
    rw [present, Formula.visitsOf]
    cases body <;> simp [Formula.visits]
  refine ⟨⟨[.key "formulas", .key spelled, .key "formula"], body, .null⟩, ?_, rfl⟩
  unfold formulaVisits
  simp only [List.mem_append]
  exact .inl (.inl (.inl (.inl (.inl (.inl (.inr (List.mem_flatMap.mpr ⟨_, member, visited⟩)))))))

end Component
end Interplay
