import Interplay.Proofs.Traversal.Origin
import Interplay.Value.Fields

/-!
What walks over trees of formulas and actions list.

A walk is a tour of all places of a tree, of which only the formulas, or only the actions, are
written down.  So it lists the nodes that locations lead to, each one once and in pre-order, and
each formula with the package that is declared next above it.
-/

namespace Interplay

namespace Stop

def formula? : Stop → Option FormulaVisit
  | ⟨location, package, .formula inner⟩ => some ⟨location, inner, package⟩
  | _ => none

def action? : Stop → Option ActionVisit
  | ⟨location, _, .action inner⟩ => some ⟨location, inner⟩
  | _ => none

theorem formula_eq_some {stop : Stop} {visit : FormulaVisit} :
    stop.formula? = some visit ↔
    stop = ⟨visit.location, visit.package, .formula visit.formula⟩ := by
  obtain ⟨location, package, place⟩ := stop
  obtain ⟨visitLocation, inner, visitPackage⟩ := visit
  cases place <;> simp [formula?, and_comm]

theorem action_eq_some {stop : Stop} {visit : ActionVisit} :
    stop.action? = some visit ↔
    ∃ package, stop = ⟨visit.location, package, .action visit.action⟩ := by
  obtain ⟨location, package, place⟩ := stop
  obtain ⟨visitLocation, inner⟩ := visit
  cases place <;> simp [action?]

/-- The visits of formulas on a tour. -/
def formulas (stops : List Stop) : List FormulaVisit :=
  stops.filterMap formula?

/-- The visits of actions on a tour. -/
def actions (stops : List Stop) : List ActionVisit :=
  stops.filterMap action?

@[simp] theorem formulas_nil : formulas [] = [] :=
  rfl

@[simp] theorem formulas_cons (stop : Stop) (rest : List Stop) :
    formulas (stop :: rest) = stop.formula?.toList ++ formulas rest := by
  unfold formulas
  cases found : stop.formula? <;> simp [found]

@[simp] theorem actions_nil : actions [] = [] :=
  rfl

@[simp] theorem actions_cons (stop : Stop) (rest : List Stop) :
    actions (stop :: rest) = stop.action?.toList ++ actions rest := by
  unfold actions
  cases found : stop.action? <;> simp [found]

@[simp] theorem actions_append (former latter : List Stop) :
    actions (former ++ latter) = actions former ++ actions latter :=
  List.filterMap_append

@[simp] theorem formulas_append (former latter : List Stop) :
    formulas (former ++ latter) = formulas former ++ formulas latter :=
  List.filterMap_append

end Stop

namespace Place

@[simp] theorem null_or_else (package : Value) : Value.null.orElse package = package :=
  rfl

def IsFormulaic : Place → Prop
  | formula _ | arguments _ | argument _ | formulaCases _ | formulaCase _ | namedFormulas
      _ | namedFormula _ => True
  | action _ | actions _ | body _ | bodies _ | actionCases _ | actionCase _ => False

theorem formulaic_under {key : String} {found : Option Formula} {segment : Segment} {part : Place}
    (member : (segment, part) ∈ under key found) : part.IsFormulaic := by
  obtain ⟨inner, _, _, rfl⟩ := formula_of_under member
  trivial

theorem formulaic_part {place part : Place} {segment : Segment} (formulaic : place.IsFormulaic)
    (member : (segment, part) ∈ place.parts) : part.IsFormulaic := by
  cases place with
  | formula inner =>
      cases inner with
      | value | path => cases member
      | switch cases fallback =>
          rcases List.mem_cons.mp member with same | last
          · cases same
            trivial
          · exact formulaic_under last
      | function | apply | object | record | array | or | and =>
          cases List.mem_singleton.mp member
          trivial
  | arguments | formulaCases | namedFormulas =>
      obtain ⟨_, _, _, _, rfl⟩ := item_of_numbered member
      trivial
  | argument | namedFormula => exact formulaic_under member
  | formulaCase =>
      rcases List.mem_append.mp member with first | second
      · exact formulaic_under first
      · exact formulaic_under second
  | action | actions | body | bodies | actionCases | actionCase => cases formulaic

theorem actions_of_formulaic {place : Place} (formulaic : place.IsFormulaic)
    (location : Location) (package : Value) :
    Stop.actions (tour location package place) = [] := by
  induction place using induct generalizing location package with
  | step place ih =>
      have below : Stop.actions (tours location (place.declared.orElse package) place.parts) =
          [] := by
        apply List.filterMap_eq_nil_iff.mpr
        intro stop inside
        obtain ⟨⟨segment, part⟩, member, toured⟩ := List.mem_flatMap.mp inside
        exact List.filterMap_eq_nil_iff.mp
          (ih segment part member (formulaic_part formulaic member) _ _) stop toured
      rw [tour_eq, Stop.actions_cons, below]
      cases place <;> first | rfl | cases formulaic

theorem distinct_of_formulaic {place : Place} (formulaic : place.IsFormulaic) :
    place.HasDistinctBodies := by
  intro location events led
  have inside : (bodies events).IsFormulaic := by
    induction location generalizing place with
    | nil =>
        cases led
        exact formulaic
    | cons segment rest ih =>
        obtain ⟨part, found, led⟩ := Option.bind_eq_some_iff.mp led
        exact ih (formulaic_part formulaic (mem_parts_of_found found)) led
  cases inside

theorem actions_of_under (location : Location) (package : Value) (key : String)
    (found : Option Formula) :
    Stop.actions (tours location package (under key found)) = [] := by
  cases found with
  | none => rfl
  | some inner =>
      have formulaic : (formula inner).IsFormulaic := trivial
      simp [under, actions_of_formulaic formulaic]

theorem actions_of_named (location : Location) (package : Value) (items : List NamedFormula) :
    Stop.actions (tours location package (numbered namedFormula 0 items)) = [] := by
  have formulaic : (namedFormulas items).IsFormulaic := trivial
  have none := actions_of_formulaic formulaic location package
  rw [tour_eq, Stop.actions_cons] at none
  exact (List.append_eq_nil_iff.mp none).2

end Place

open Place (tour tours under bodyUnder numbered)

namespace Formula

mutual

theorem visits_of_tour (location : Location) (package : Value) : (formula : Formula) →
    visits location package formula = Stop.formulas (tour location package (.formula formula))
  | .value _ => by simp [Place.tour_eq, visits, Place.parts, Stop.formula?]
  | .path _ => by simp [Place.tour_eq, visits, Place.parts, Stop.formula?]
  | .function _ items _ | .apply _ items | .object items | .record items | .array items
  | .or items | .and items => by
      rw [Place.tour_eq, visits, arguments_of_tour]
      simp [Place.tour_eq (location ++ _), Place.parts, Stop.formula?, Place.declared]
  | .switch cases fallback => by
      rw [Place.tour_eq, visits, cases_of_tour, found_of_tour]
      simp [Place.tour_eq (location ++ _), Place.parts, Stop.formula?, Place.declared]

theorem found_of_tour (location : Location) (package : Value) (key : String) :
    (found : Option Formula) →
    visitsOf (location ++ [.key key]) package found =
      Stop.formulas (tours location package (under key found))
  | none => by simp [visitsOf, under]
  | some inner => by simp [visitsOf, under, visits_of_tour]

theorem arguments_of_tour (location : Location) (package : Value) (position : Nat) :
    (items : List Argument) →
    argumentVisits location package position items =
      Stop.formulas
        (tours (location ++ [.key "arguments"]) package (numbered .argument position items))
  | [] => by simp [argumentVisits, numbered]
  | .mk formula name isFunction :: rest => by
      rw [argumentVisits, arguments_of_tour location package (position + 1) rest]
      have first :=
        found_of_tour (location ++ [.key "arguments", .index position]) package "formula" formula
      simp only [List.append_assoc, List.cons_append, List.nil_append] at first
      simp [numbered, Place.tour_eq, Place.parts, Stop.formula?, Place.declared,
        Argument.formula, first]

theorem cases_of_tour (location : Location) (package : Value) (position : Nat) :
    (cases : List FormulaCase) →
    caseVisits location package position cases =
      Stop.formulas
        (tours (location ++ [.key "cases"]) package (numbered .formulaCase position cases))
  | [] => by simp [caseVisits, numbered]
  | .mk condition result :: rest => by
      rw [caseVisits, cases_of_tour location package (position + 1) rest]
      have first :=
        found_of_tour (location ++ [.key "cases", .index position]) package "condition" condition
      have second :=
        found_of_tour (location ++ [.key "cases", .index position]) package "formula" result
      simp only [List.append_assoc, List.cons_append, List.nil_append] at first second
      simp [numbered, Place.tour_eq, Place.parts, Stop.formula?,
        Place.declared, FormulaCase.condition, FormulaCase.result, first, second]

end

end Formula

theorem NamedFormula.visits_of_tour (location : Location) (package : Value) (position : Nat)
    (items : List NamedFormula) :
    visits location package position items =
      Stop.formulas (tours location package (numbered .namedFormula position items)) := by
  induction items generalizing position with
  | nil => simp [visits, numbered]
  | cons item rest ih =>
      have first :=
        Formula.found_of_tour (location ++ [.index position]) package "formula" item.formula
      simp only [List.append_assoc, List.cons_append, List.nil_append] at first
      simp [visits, numbered, ih, Place.tour_eq, Place.parts, Stop.formula?, Place.declared, first]

namespace Action

open Formula (found_of_tour)

mutual

theorem formula_visits_of_tour (location : Location) (package : Value) : (action : Action) →
    formulaVisits location package action = Stop.formulas (tour location package (.action action))
  | .setVariable _ data | .triggerEvent _ data | .triggerWorkflowCallback _ data
  | .setUrlParameter _ data _ => by
      rw [formulaVisits, found_of_tour, Place.tour_eq]
      simp [Place.parts, Stop.formula?, Place.declared]
  | .setUrlParameters parameters _ => by
      rw [formulaVisits, NamedFormula.visits_of_tour]
      simp [Place.tour_eq, Place.parts, Stop.formula?, Place.declared]
  | .fetch _ inputs onSuccess onError onMessage => by
      rw [formulaVisits, NamedFormula.visits_of_tour, formula_visits_of_tours _ _ _ onSuccess,
        formula_visits_of_tours _ _ _ onError, formula_visits_of_tours _ _ _ onMessage]
      simp [Place.tour_eq, Place.parts, Stop.formula?, Place.declared]
  | .abortFetch _ => by simp [formulaVisits, Place.tour_eq, Place.parts, Stop.formula?]
  | .custom _ _ items events => by
      rw [formulaVisits, NamedFormula.visits_of_tour, formula_visits_of_bodies]
      simp [Place.tour_eq, Place.parts, Stop.formula?, Place.declared]
  | .triggerWorkflow _ parameters callbacks _ _ => by
      rw [formulaVisits, NamedFormula.visits_of_tour, formula_visits_of_bodies]
      simp [Place.tour_eq, Place.parts, Stop.formula?, Place.declared]
  | .switch cases fallback data => by
      rw [formulaVisits, found_of_tour, formula_visits_of_cases,
        formula_visits_of_fallback _ _ _ fallback]
      simp [Place.tour_eq, Place.parts, Stop.formula?, Place.declared]

theorem formula_visits_of_tours (location : Location) (package : Value) (position : Nat) :
    (actions : List Action) →
    formulaVisitsOf location package position actions =
      Stop.formulas (tours location package (numbered .action position actions))
  | [] => by simp [formulaVisitsOf, numbered]
  | action :: rest => by
      rw [formulaVisitsOf, formula_visits_of_tour _ _ action, formula_visits_of_tours _ _ _ rest]
      simp [numbered]

theorem formula_visits_of_bodies (location : Location) (package : Value) :
    (events : List ActionBody) →
    bodyFormulaVisits location package events = Stop.formulas
      (tours location package (Place.bodies events).parts)
  | [] => by simp [bodyFormulaVisits, Place.parts]
  | .mk name actions :: rest => by
      rw [bodyFormulaVisits, formula_visits_of_tours _ _ _ actions,
        formula_visits_of_bodies _ _ rest]
      simp [Place.tour_eq, Place.parts, Stop.formula?, Place.declared,
        ActionBody.name, ActionBody.actions]

theorem formula_visits_of_fallback (location : Location) (package : Value) (key : String) :
    (fallback : Option (List Action)) →
    fallbackFormulaVisits (location ++ [.key key, .key "actions"]) package fallback =
      Stop.formulas (tours location package (bodyUnder key fallback))
  | none => rfl
  | some actions => by
      change formulaVisitsOf _ package 0 actions = _
      rw [formula_visits_of_tours _ _ _ actions]
      simp [Place.tour_eq, Place.parts, Stop.formula?, Place.declared]

theorem formula_visits_of_cases (location : Location) (package : Value) (position : Nat) :
    (cases : List ActionCase) → caseFormulaVisits location package position cases =
      Stop.formulas
        (tours (location ++ [.key "cases"]) package (numbered .actionCase position cases))
  | [] => by simp [caseFormulaVisits, numbered]
  | .mk condition actions :: rest => by
      have first :=
        found_of_tour (location ++ [.key "cases", .index position]) package "condition" condition
      simp only [List.append_assoc, List.cons_append, List.nil_append] at first
      rw [caseFormulaVisits, formula_visits_of_tours _ _ _ actions,
        formula_visits_of_cases _ _ _ rest, first]
      simp [numbered, Place.tour_eq, Place.parts, Stop.formula?,
        Place.declared, ActionCase.condition, ActionCase.actions]

end

mutual

theorem visits_of_tour (location : Location) (package : Value) : (action : Action) →
    visits location action = Stop.actions (tour location package (.action action))
  | .setVariable _ data | .triggerEvent _ data | .triggerWorkflowCallback _ data
  | .setUrlParameter _ data _ => by
      rw [visits, Place.tour_eq]
      simp [Place.parts, Stop.action?, Place.actions_of_under]
  | .setUrlParameters parameters _ => by
      rw [visits, Place.tour_eq]
      simp [Place.tour_eq, Place.parts, Stop.action?, Place.actions_of_named]
  | .fetch _ inputs onSuccess onError onMessage => by
      rw [visits, visits_of_tours _ package _ onSuccess, visits_of_tours _ package _ onError,
        visits_of_tours _ package _ onMessage, Place.tour_eq]
      simp [Place.tour_eq, Place.parts, Stop.action?, Place.declared, Place.actions_of_named]
  | .abortFetch _ => by simp [visits, Place.tour_eq, Place.parts, Stop.action?]
  | .custom _ _ items events => by
      rw [visits, visits_of_bodies _ package]
      simp [Place.tour_eq, Place.parts, Stop.action?, Place.declared, Place.actions_of_named]
  | .triggerWorkflow _ parameters callbacks _ _ => by
      rw [visits, visits_of_bodies _ package]
      simp [Place.tour_eq, Place.parts, Stop.action?, Place.declared, Place.actions_of_named]
  | .switch cases fallback data => by
      rw [visits, visits_of_cases _ package, visits_of_fallback _ package _ fallback]
      simp [Place.tour_eq, Place.parts, Stop.action?, Place.declared, Place.actions_of_under]

theorem visits_of_tours (location : Location) (package : Value) (position : Nat) :
    (actions : List Action) →
    visitsOf location position actions = Stop.actions
      (tours location package (numbered .action position actions))
  | [] => by simp [visitsOf, numbered]
  | action :: rest => by
      rw [visitsOf, visits_of_tour _ package action, visits_of_tours _ package _ rest]
      simp [numbered]

theorem visits_of_bodies (location : Location) (package : Value) : (events : List ActionBody) →
    bodyVisits location events = Stop.actions (tours location package (Place.bodies events).parts)
  | [] => by simp [bodyVisits, Place.parts]
  | .mk name actions :: rest => by
      rw [bodyVisits, visits_of_tours _ package _ actions, visits_of_bodies _ package rest]
      simp [Place.tour_eq, Place.parts, Stop.action?, Place.declared,
        ActionBody.name, ActionBody.actions]

theorem visits_of_fallback (location : Location) (package : Value) (key : String) :
    (fallback : Option (List Action)) →
    fallbackVisits (location ++ [.key key, .key "actions"]) fallback =
      Stop.actions (tours location package (bodyUnder key fallback))
  | none => rfl
  | some actions => by
      change visitsOf _ 0 actions = _
      rw [visits_of_tours _ package _ actions]
      simp [Place.tour_eq, Place.parts, Stop.action?, Place.declared]

theorem visits_of_cases (location : Location) (package : Value) (position : Nat) :
    (cases : List ActionCase) →
    caseVisits location position cases =
      Stop.actions (tours (location ++ [.key "cases"]) package
        (numbered .actionCase position cases))
  | [] => by simp [caseVisits, numbered]
  | .mk condition actions :: rest => by
      rw [caseVisits, visits_of_tours _ package _ actions, visits_of_cases _ package _ rest]
      simp [numbered, Place.tour_eq, Place.parts, Stop.action?,
        Place.declared, ActionCase.condition, ActionCase.actions, Place.actions_of_under]

end

end Action

/-! ### Complete lists -/

namespace Place

/-- The formulas below a place, each one once, in pre-order, and with the package that is declared
next above it. -/
structure ListsFormulas (place : Place) (start : Location) (package : Value)
    (visits : List FormulaVisit) : Prop where
  listed : ∀ visit, visit ∈ visits ↔
    ∃ location formula, place.follow location = some (.formula formula) ∧
    visit = ⟨start ++ location, formula, place.packageAt package location⟩
  once : (visits.map FormulaVisit.location).Nodup
  inOrder : visits.Pairwise fun former latter => ∃ location other,
    former.location = start ++ location ∧
    latter.location = start ++ other ∧ place.Precedes location other

/-- The actions below a place, each one once and in pre-order. -/
structure ListsActions (place : Place) (start : Location) (visits : List ActionVisit) : Prop where
  listed : ∀ visit, visit ∈ visits ↔
    ∃ location action, place.follow location = some (.action action) ∧
    visit = ⟨start ++ location, action⟩
  once : (visits.map ActionVisit.location).Nodup
  inOrder : visits.Pairwise fun former latter => ∃ location other,
    former.location = start ++ location ∧
    latter.location = start ++ other ∧ place.Precedes location other

theorem nodup_of_order {α : Type} {visits : List α} {site : α → Location}
    {place : Place} {start : Location} (distinct : place.HasDistinctBodies)
    (inOrder : visits.Pairwise fun former latter => ∃ location other,
      site former = start ++ location ∧
      site latter = start ++ other ∧ place.Precedes location other) : (visits.map site).Nodup := by
  apply List.pairwise_map.mpr
  apply inOrder.imp
  rintro former latter ⟨location, other, placed, otherPlaced, before⟩ same
  rw [placed, otherPlaced] at same
  exact before.ne distinct (List.append_cancel_left same)

theorem tour_lists_formulas {place : Place} (distinct : place.HasDistinctBodies)
    (start : Location) (package : Value) :
    place.ListsFormulas start package (Stop.formulas (tour start package place)) := by
  have inOrder : (Stop.formulas (tour start package place)).Pairwise
      fun former latter => ∃ location other,
      former.location = start ++ location ∧ latter.location = start ++ other ∧
      place.Precedes location other := by
    apply (tour_in_order distinct start package).filterMap
    intro former latter before visit visited other otherVisited
    rw [Stop.formula_eq_some.mp visited, Stop.formula_eq_some.mp otherVisited] at before
    exact before
  refine ⟨fun visit => ?_, nodup_of_order distinct inOrder, inOrder⟩
  unfold Stop.formulas
  simp only [List.mem_filterMap, Stop.formula_eq_some, exists_eq_right, mem_tour distinct]
  constructor
  · rintro ⟨location, placed, led, packed⟩
    exact ⟨location, visit.formula, led, by rw [← placed, ← packed]⟩
  · rintro ⟨location, inner, led, rfl⟩
    exact ⟨location, rfl, led, rfl⟩

theorem tour_lists_actions {place : Place} (distinct : place.HasDistinctBodies)
    (start : Location) (package : Value) :
    place.ListsActions start (Stop.actions (tour start package place)) := by
  have inOrder : (Stop.actions (tour start package place)).Pairwise
      fun former latter => ∃ location other,
      former.location = start ++ location ∧ latter.location = start ++ other ∧
      place.Precedes location other := by
    apply (tour_in_order distinct start package).filterMap
    intro former latter before visit visited other otherVisited
    obtain ⟨_, rfl⟩ := Stop.action_eq_some.mp visited
    obtain ⟨_, rfl⟩ := Stop.action_eq_some.mp otherVisited
    exact before
  refine ⟨fun visit => ?_, nodup_of_order distinct inOrder, inOrder⟩
  unfold Stop.actions
  simp only [List.mem_filterMap, Stop.action_eq_some, mem_tour distinct]
  constructor
  · rintro ⟨_, ⟨location, placed, led, _⟩, package, rfl⟩
    exact ⟨location, visit.action, led, by rw [← placed]⟩
  · rintro ⟨location, inner, led, rfl⟩
    exact ⟨_, ⟨location, rfl, led, rfl⟩, _, rfl⟩

end Place

open Place (ListsFormulas ListsActions HasDistinctBodies)

/-- Walks list every node of a tree once, in pre-order, where the bodies of each action have
different names, as they do in what was read from a JSON value. -/
theorem walks_list_every_node_once :
    (∀ formula start package,
      ListsFormulas (.formula formula) start package (Formula.visits start package formula)) ∧
    (∀ action, HasDistinctBodies (.action action) → ∀ start package,
      ListsFormulas (.action action) start package (Action.formulaVisits start package action) ∧
        ListsActions (.action action) start (Action.visits start action)) ∧
    (∀ actions, HasDistinctBodies (.actions actions) → ∀ start package,
      ListsFormulas (.actions actions) start package
        (Action.formulaVisitsOf start package 0 actions) ∧
        ListsActions (.actions actions) start (Action.visitsOf start 0 actions)) ∧
    ∀ source : Value, source.IsJson →
      (∀ action, Action.read source = .ok (some action) → HasDistinctBodies (.action action)) ∧
        ∀ actions, Action.readList source = .ok actions → HasDistinctBodies (.actions actions) := by
  refine ⟨?formula, ?action, ?actions, ?read⟩
  case formula =>
    intro formula start package
    have formulaic : (Place.formula formula).IsFormulaic := trivial
    rw [Formula.visits_of_tour]
    exact Place.tour_lists_formulas (Place.distinct_of_formulaic formulaic) start package
  case action =>
    intro action distinct start package
    rw [Action.formula_visits_of_tour, Action.visits_of_tour start package]
    exact ⟨Place.tour_lists_formulas distinct start package,
      Place.tour_lists_actions distinct start package⟩
  case actions =>
    intro actions distinct start package
    -- a list of actions is no node: its own stop comes first on the tour and is not written down
    have formulas := Place.tour_lists_formulas distinct start package
    have walked := Place.tour_lists_actions distinct start package
    rw [Place.tour_eq, Stop.formulas_cons] at formulas
    rw [Place.tour_eq, Stop.actions_cons] at walked
    rw [Action.formula_visits_of_tours, Action.visits_of_tours start package]
    exact ⟨formulas, walked⟩
  case read =>
    intro source json
    constructor
    · intro action read
      have origin : Place.IsReadFrom "" source (.action action) := read
      exact Place.distinct_of_read json origin
    · intro actions read
      have origin : Place.IsReadFrom "actions" source (.actions actions) := Action.each_action read
      exact Place.distinct_of_read json origin

open Value in
/-- An action with a body, and with an argument that names a package. -/
def savedDraft : Value :=
  object [("name", text "save"),
    ("arguments",
      list [object [("name", text "draft"), ("formula", object [("type", text "function"),
      ("name", text "latest"), ("package", text "editor"), ("arguments", list [object [("formula",
        object [("type", text "path"), ("path", list [text "Variables", text "page"])])]])])]]),
    ("events", object [("saved", object [("actions", list [object [("type", text "SetVariable"),
      ("name", text "version"), ("data", object [("type", text "value"), ("value", int 1)])]])])])]

theorem saved_draft_is_walked : ∃ action, savedDraft.IsJson ∧
    Action.read savedDraft = .ok (some action) ∧
    HasDistinctBodies (.action action) ∧ ListsFormulas (.action action) [] .null
      (Action.formulaVisits [] .null action) ∧
    ListsActions (.action action) [] (Action.visits [] action) ∧
    ((Action.formulaVisits [] .null action).map fun visit => (visit.location, visit.package)) =
      [([.key "arguments", .index 0, .key "formula"], .null),
        ([.key "arguments", .index 0, .key "formula", .key "arguments", .index 0, .key "formula"],
          .text "editor"),
        ([.key "events", .key "saved", .key "actions", .index 0, .key "data"], .null)] ∧
    (Action.visits [] action).map ActionVisit.location =
      [[], [.key "events", .key "saved", .key "actions", .index 0]] := by
  have json : savedDraft.IsJson := by
    simp [savedDraft, Value.IsJson, Value.object, Value.content?, Value.contents?,
      Value.fields?, Scalar.content?, Scalar.text?, Content.ofFields?]
  obtain ⟨_, walked, _, read⟩ := walks_list_every_node_once
  have distinct := (read savedDraft json).1 _ rfl
  obtain ⟨formulas, actions⟩ := walked _ distinct [] .null
  exact ⟨_, json, rfl, distinct, formulas, actions, rfl, rfl⟩

end Interplay
