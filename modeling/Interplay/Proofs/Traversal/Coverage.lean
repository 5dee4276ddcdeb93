import Interplay.Proofs.Traversal.Sites

/-!
What the walk over actions leaves out.

An action stands at a position of a list of actions, and nothing but an action does; so the actions
that a formula lies in can be read off its location.  Every action that a component stores is
visited once, and so is every action that a visited formula lies in, unless it belongs to what an
API does on a message.
-/

namespace Interplay

/-- The location ends at a position of a list of actions. -/
def IsActionAddress (location : Location) : Prop :=
  ∃ front position, location = front ++ [.key "actions", .index position]

def IsClear (location : Location) : Prop :=
  location.IsChain fun former latter => former = .key "actions" →
    ∀ position, latter ≠ .index position

theorem IsClear.no_address {location address after : Location} (clear : IsClear location)
    (same : location = address ++ after) : ¬IsActionAddress address := by
  rintro ⟨front, position, rfl⟩
  have inside : [Segment.key "actions", .index position] <:+: location := ⟨front, after, same.symm⟩
  have chained := List.IsChain.infix clear inside
  exact List.isChain_pair.mp chained rfl position rfl

/-- Keys can be followed by anything that is clear and starts with a key. -/
theorem IsClear.append {location route : Location} (clear : IsClear location)
    (routeClear : IsClear route)
    (keyed : ∀ segment ∈ route.head?, ∃ name, segment = .key name) : IsClear
    (location ++ route) := by
  refine List.isChain_append.mpr ⟨clear, routeClear, ?_⟩
  rintro former _ latter started _ position rfl
  obtain ⟨name, same⟩ := keyed _ started
  cases same

theorem clear_of_keys {location : Location}
    (keys : ∀ segment ∈ location, ∃ name, segment = .key name) :
    IsClear location := by
  induction location with
  | nil => exact .nil
  | cons segment rest ih =>
      have clear := ih fun other member => keys other (List.mem_cons_of_mem _ member)
      have first : IsClear [segment] := .singleton _
      exact first.append clear fun other started =>
        keys other (List.mem_cons_of_mem _ (List.mem_of_mem_head? started))

namespace Place

theorem follow_append (place : Place) (former latter : Location) :
    place.follow (former ++ latter) = (place.follow former).bind fun inner =>
      inner.follow latter := by
  induction former generalizing place with
  | nil => rfl
  | cons segment rest ih =>
      rw [List.cons_append, follow, follow, Option.bind_assoc]
      congr 1
      funext part
      exact ih part

/-- What stands under this key is a list of actions or, for a body of that name, an object that
holds one. -/
theorem actions_of_key {place part : Place} (member : (.key "actions", part) ∈ place.parts) :
    ∃ items, part = actions items ∨ part = body items := by
  have notUnder {key : String} {found : Option Formula} (other : key ≠ "actions") :
      (.key "actions", part) ∉ under key found := by
    intro listed
    obtain ⟨inner, _, same, _⟩ := formula_of_under listed
    cases same
    exact other rfl
  have notNumbered {α : Type} {item : α → Place} {items : List α} :
      (.key "actions", part) ∉ numbered item 0 items := by
    intro listed
    obtain ⟨index, _, same, _⟩ := item_of_numbered listed
    cases same
  cases place with
  | formula inner => cases inner <;> simp [parts, notUnder] at member
  | arguments | formulaCases | namedFormulas | actions | actionCases =>
      exact absurd member notNumbered
  | argument | namedFormula => exact absurd member (notUnder (by decide))
  | formulaCase => simp [parts, notUnder] at member
  | action inner =>
      cases inner with
      | switch cases fallback data => cases fallback <;> simp [parts, notUnder] at member
      | _ => simp [parts, notUnder] at member
  | body items =>
      cases List.mem_singleton.mp member
      exact ⟨items, .inl rfl⟩
  | bodies events =>
      obtain ⟨event, _, same⟩ := List.mem_map.mp member
      exact ⟨event.actions, .inr (Prod.mk.inj same).2.symm⟩
  | actionCase branch =>
      rcases List.mem_append.mp member with condition | listed
      · exact absurd condition (notUnder (by decide))
      · cases List.mem_singleton.mp listed
        exact ⟨branch.actions, .inl rfl⟩

theorem action_of_address {place part : Place} {position : Nat}
    (led : place.follow [.key "actions", .index position] = some part) : ∃ inner,
    part = action inner := by
  obtain ⟨listing, found, led⟩ := Option.bind_eq_some_iff.mp led
  obtain ⟨item, itemFound, led⟩ := Option.bind_eq_some_iff.mp led
  cases led
  have itemMember := mem_parts_of_found itemFound
  obtain ⟨items, rfl | rfl⟩ := actions_of_key (mem_parts_of_found found)
  · obtain ⟨_, inner, _, _, rfl⟩ := item_of_numbered itemMember
    exact ⟨inner, rfl⟩
  · cases List.mem_singleton.mp itemMember

theorem formulaic_of_follow {place part : Place} (formulaic : place.IsFormulaic) {route : Location}
    (led : place.follow route = some part) : part.IsFormulaic := by
  induction route generalizing place with
  | nil =>
      cases led
      exact formulaic
  | cons segment rest ih =>
      obtain ⟨inner, found, led⟩ := Option.bind_eq_some_iff.mp led
      exact ih (formulaic_part formulaic (mem_parts_of_found found)) led

/-- No location inside of a formula leads through a list of actions. -/
theorem clear_of_formulaic {place part : Place} (formulaic : place.IsFormulaic) {route : Location}
    (led : place.follow route = some part) : IsClear route := by
  induction route generalizing place with
  | nil => exact .nil
  | cons segment rest ih =>
      obtain ⟨inner, found, ledInner⟩ := Option.bind_eq_some_iff.mp led
      have clear := ih (formulaic_part formulaic (mem_parts_of_found found)) ledInner
      cases rest with
      | nil => exact .singleton _
      | cons next rest =>
          refine List.isChain_cons_cons.mpr ⟨?_, clear⟩
          rintro rfl position rfl
          obtain ⟨item, itemFound, _⟩ := Option.bind_eq_some_iff.mp ledInner
          have reached : place.follow [.key "actions", .index position] = some item := by
            rw [follow_cons found, follow_cons itemFound, follow]
          obtain ⟨action, rfl⟩ := action_of_address reached
          exact formulaic_of_follow formulaic reached

theorem key_of_formula {inner : Formula} {route : Location} {part : Place}
    (led : (formula inner).follow route = some part) : ∀ segment ∈ route.head?, ∃ name,
    segment = .key name := by
  cases route with
  | nil => exact nofun
  | cons first rest =>
      intro segment started
      cases Option.mem_some.mp started
      obtain ⟨_, found, _⟩ := Option.bind_eq_some_iff.mp led
      have member := mem_parts_of_found found
      cases inner with
      | value | path => cases member
      | switch cases fallback =>
          rcases List.mem_cons.mp member with same | last
          · cases same
            exact ⟨_, rfl⟩
          · obtain ⟨_, _, same, _⟩ := formula_of_under last
            exact ⟨_, same⟩
      | function | apply | object | record | array | or | and =>
          cases List.mem_singleton.mp member
          exact ⟨_, rfl⟩

end Place

/-! ### Formulas outside of actions -/

theorem clear_visits_of {location : Location} (clear : IsClear location) {package : Value}
    {found : Option Formula}
    {visit : FormulaVisit} (member : visit ∈ Formula.visitsOf location package found) :
    IsClear visit.location := by
  cases found with
  | none => cases member
  | some inner =>
      rw [Formula.visitsOf, Formula.visits_of_tour] at member
      have formulaic : (Place.formula inner).IsFormulaic := trivial
      have lists :=
        Place.tour_lists_formulas (Place.distinct_of_formulaic formulaic) location package
      obtain ⟨route, formula, led, rfl⟩ := (lists.listed visit).mp member
      exact clear.append (Place.clear_of_formulaic formulaic led) (Place.key_of_formula led)

namespace Component

/-- The actions that visited formulas lie in are stored in the component. -/
def Traces (component : Component) (visits : List FormulaVisit) : Prop :=
  ∀ visit ∈ visits, ∀ address after, visit.location = address ++ after → IsActionAddress address →
    ∃ action, component.Stores address action

variable {component : Component} {package : Value} {location : Location}

theorem Traces.append {former latter : List FormulaVisit} (first : component.Traces former)
    (second : component.Traces latter) : component.Traces (former ++ latter) := by
  intro visit member
  rcases List.mem_append.mp member with inFormer | inLatter
  · exact first visit inFormer
  · exact second visit inLatter

theorem traces_nil : component.Traces [] :=
  nofun

theorem traces_flat_map {α : Type} {items : List α} {visits : α → List FormulaVisit}
    (each : ∀ item ∈ items, component.Traces (visits item)) : component.Traces
    (items.flatMap visits) := by
  intro visit member
  obtain ⟨item, listed, inside⟩ := List.mem_flatMap.mp member
  exact each item listed visit inside

theorem traces_found (clear : IsClear location) (found : Option Formula) :
    component.Traces (Formula.visitsOf location package found) := by
  intro visit member address after same addressed
  exact absurd addressed ((clear_visits_of clear member).no_address same)

theorem traces_table {tail : Location} (table : Table (Option Formula))
    (clear : ∀ name, IsClear (location ++ .key name :: tail)) :
    component.Traces (Formula.tableVisits location tail package table) :=
  traces_flat_map fun entry _ => traces_found (clear entry.1) entry.2

/-- An address that begins in a list of actions leads from that list to an action. -/
theorem action_of_shared {siteFront front inside : Location} {position : Nat}
    {items : List Action} {part : Place}
    (same : front ++ [.key "actions", .index position] = siteFront ++ [.key "actions"] ++ inside)
    (led : (Place.actions items).follow inside = some part) : ∃ action, part = .action action := by
  obtain ⟨middle, split⟩ : ∃ middle, .key "actions" :: inside = middle ++
      [.key "actions", .index position] := by
    rw [List.append_assoc] at same
    -- the front of the address cannot be shorter than that of the site: a position would be where a
    -- key is
    rcases List.append_eq_append_iff.mp same with ⟨between, _, rest⟩ | ⟨between, _, rest⟩
    · rcases between with _ | ⟨first, _ | ⟨second, between⟩⟩
      · exact ⟨[], rest.symm⟩
      · cases rest
      · simp at rest
    · exact ⟨between, rest⟩
  have fromBody : (Place.body items).follow (middle ++ [.key "actions", .index position]) =
      some part := by
    have only : Keyed.find? (.key "actions") (Place.body items).parts = some (.actions items) := by
      simp [Place.parts, Keyed.find?]
    rw [← split, Place.follow_cons only, led]
  rw [Place.follow_append] at fromBody
  obtain ⟨holder, _, reached⟩ := Option.bind_eq_some_iff.mp fromBody
  exact Place.action_of_address reached

theorem traces_stored (package : Value) (regular : component.IsRegular)
    {site : Site} {items : List Action} (stored : (site, items) ∈ component.stored) :
    component.Traces (Action.formulaVisitsOf site.location package 0 items) := by
  intro visit member address after same addressed
  have distinct := regular.bodies _ stored
  have lists := Place.tour_lists_formulas distinct site.location package
  rw [Place.tour_eq, Stop.formulas_cons] at lists
  rw [Action.formula_visits_of_tours] at member
  obtain ⟨route, inner, led, rfl⟩ := (lists.listed visit).mp member
  obtain ⟨front, position, rfl⟩ := addressed
  obtain ⟨siteFront, ends, keys⟩ := site.location_eq
  have outside : Segment.index position ∉ site.location := by
    intro inSite
    obtain ⟨name, same⟩ := keys _ inSite
    cases same
  -- the address reaches into the list, or it would end among the keys of the site
  rcases List.append_eq_append_iff.mp same with ⟨inside, split, rfl⟩ | ⟨between, split, _⟩
  · rw [Place.follow_append] at led
    obtain ⟨part, reached, _⟩ := Option.bind_eq_some_iff.mp led
    obtain ⟨action, rfl⟩ := action_of_shared (ends ▸ split) reached
    exact ⟨action, site, items, inside, stored, split, reached⟩
  · exact absurd (split ▸ by simp) outside

theorem traces_fallback (package : Value) (site : Site) (regular : component.IsRegular)
    {found : Option (List Action)}
    (stored : ∀ items ∈ found, (site, items) ∈ component.stored) :
    component.Traces (Action.fallbackFormulaVisits site.location package found) := by
  cases found with
  | none => exact traces_nil
  | some items => exact traces_stored package regular (stored items rfl)

theorem traces_toggled (entries : Table ToggledFormula)
    (keys : ∀ segment ∈ location, ∃ name, segment = .key name) :
    component.Traces (ToggledFormula.visits location package entries) := by
  apply traces_flat_map
  intro entry _
  have clear (name : String) : IsClear (location ++ [.key entry.1, .key name]) :=
    clear_of_keys (by simpa [or_imp, forall_and] using keys)
  exact (traces_found (clear "formula") _).append (traces_found (clear "enabled") _)

theorem stored_workflow {entry : String × Workflow} (member : entry ∈ component.workflows) :
    (.workflow entry.1, entry.2.actions) ∈ component.stored := by
  simp only [stored, List.mem_append]
  exact .inl (.inl (.inl (.inl (List.mem_map_of_mem member))))

theorem stored_handler {entry : String × ComponentApi} (member : entry ∈ component.apis)
    {event : String × List Action} (handled : event ∈ entry.2.handlers) :
    (.api entry.1 event.1, event.2) ∈ component.stored := by
  simp only [stored, List.mem_append]
  exact .inl (.inl
    (.inl (.inr (List.mem_flatMap.mpr ⟨entry, member, List.mem_map_of_mem handled⟩))))

theorem stored_event {entry : String × Node} (member : entry ∈ component.nodes)
    {event : String × List Action}
    (listed : event ∈ entry.2.events) : (.nodeEvent entry.1 event.1, event.2) ∈
    component.stored := by
  simp only [stored, List.mem_append]
  exact .inr (List.mem_flatMap.mpr ⟨entry, member, List.mem_map_of_mem listed⟩)

theorem mem_handled {event : String} {found : Option (List Action)} {items : List Action}
    (given : items ∈ found) :
    (event, items) ∈ Action.handled event found := by
  cases given
  exact List.mem_singleton.mpr rfl

theorem traces_api (regular : component.IsRegular) {entry : String × ComponentApi}
    (member : entry ∈ component.apis) :
    component.Traces (entry.2.formulaVisits [.key "apis", .key entry.1] package) := by
  have clear (name : String) : IsClear [.key "apis", .key entry.1, .key name] :=
    clear_of_keys (by simp)
  have completed := traces_fallback package (.api entry.1 "onCompleted") regular fun _ given =>
    stored_handler member (List.mem_append_left _ (List.mem_append_left _ (mem_handled given)))
  have failed := traces_fallback package (.api entry.1 "onFailed") regular fun _ given =>
    stored_handler member (List.mem_append_left _ (List.mem_append_right _ (mem_handled given)))
  have message := traces_fallback package (.api entry.1 "onMessage") regular fun _ given =>
    stored_handler member (List.mem_append_right _ (mem_handled given))
  exact ((((((((traces_found (clear "autoFetch") _).append (traces_found (clear "url") _)).append
    (traces_found (clear "method") _)).append (traces_found (clear "body") _)).append
    (traces_toggled _ (by simp))).append (traces_toggled _ (by simp))).append completed).append
    failed).append message

theorem traces_variants (node : String) (position : Nat) (variants : List StyleVariant) :
    component.Traces
      (StyleVariant.visits [.key "nodes", .key node, .key "variants"] package
        position variants) := by
  induction variants generalizing position with
  | nil => exact traces_nil
  | cons variant rest ih =>
      refine (traces_table variant.customProperties fun name => ?_).append (ih (position + 1))
      simp [IsClear]

theorem traces_events (package : Value) (regular : component.IsRegular) {entry : String × Node}
    (member : entry ∈ component.nodes) :
    component.Traces (Action.eventFormulaVisits [.key "nodes", .key entry.1, .key "events"] package
      entry.2.events) :=
  traces_flat_map fun _ listed => traces_stored package regular (stored_event member listed)

theorem traces_body (regular : component.IsRegular) {entry : String × Node}
    (member : entry ∈ component.nodes) :
    component.Traces (Node.bodyVisits [.key "nodes", .key entry.1] package entry.2.body) := by
  have events (scope : Value) := traces_events scope regular member
  have clear (section_ name : String) (tail : List String) : IsClear
      ([.key "nodes", .key entry.1, .key section_]
      ++ .key name :: tail.map Segment.key) := clear_of_keys (by simp)
  unfold Node.events at events
  cases body : entry.2.body with
  | element tag attributes listed classes properties variants children =>
      rw [body] at events
      exact ((((traces_table attributes fun name => clear "attrs" name []).append
        (events package)).append
        (traces_table classes fun name => clear "classes" name ["formula"])).append
        (traces_table properties fun name => clear "customProperties" name ["formula"])).append
        (traces_variants entry.1 0 variants)
  | component name own attributes listed properties children =>
      rw [body] at events
      exact ((traces_table attributes fun name => clear "attrs" name []).append (events _)).append
        (traces_table properties fun name => clear "customProperties" name ["formula"])
  | text content => exact traces_found (clear_of_keys (by simp)) content
  | slot => exact traces_nil

/-- Whatever action a visited formula lies in is stored in the component. -/
theorem traces_component (regular : component.IsRegular) (package : Value) :
    component.Traces (component.formulaVisits package) := by
  have route : component.Traces (RouteInfo.formulaVisits package component.route) := by
    cases component.route with
    | none => exact traces_nil
    | some route =>
        exact (traces_found (clear_of_keys (by simp)) _).append
          (traces_found (clear_of_keys (by simp)) _)
  have load : component.Traces
      (Action.fallbackFormulaVisits (Site.location .onLoad) package component.onLoad) :=
    traces_fallback package .onLoad regular fun _ given => by simp [stored, Option.mem_def.mp given]
  have change : component.Traces
      (Action.fallbackFormulaVisits (Site.location .onAttributeChange) package
      component.onAttributeChange) :=
    traces_fallback package .onAttributeChange regular fun _ given =>
      by simp [stored, Option.mem_def.mp given]
  unfold formulaVisits
  refine ((((((route.append (traces_flat_map fun entry _ => ?_)).append
    (traces_table _ fun name => clear_of_keys (by simp))).append
    (traces_flat_map fun entry member => ?_)).append
    (traces_flat_map fun entry member => ?_)).append load).append change).append
    (traces_flat_map fun entry member => ?_)
  · exact traces_found (clear_of_keys (by simp)) entry.2.formula
  · exact traces_stored package regular (stored_workflow member)
  · exact traces_api regular member
  · exact (((traces_found (clear_of_keys (by simp)) entry.2.flow.condition).append
      (traces_found (clear_of_keys (by simp)) entry.2.flow.repeated)).append
      (traces_found (clear_of_keys (by simp)) entry.2.flow.repeatKey)).append
      (traces_body regular member)

end Component

/-! ### Actions -/

/-- The location leads to what an API does on a message. -/
def IsMessage (location : Location) : Prop :=
  ∃ name, (Site.api name "onMessage").location <+: location

theorem Site.message_iff {site : Site} {route : Location} :
    IsMessage (site.location ++ route) ↔ site.isMessage = true := by
  constructor
  · rintro ⟨name, rest, same⟩
    rw [← Site.eq_of_shared same]
    rfl
  · intro message
    cases site with
    | api name event =>
        obtain rfl : event = "onMessage" := beq_iff_eq.mp message
        exact ⟨name, List.prefix_append ..⟩
    | _ => cases message

theorem mem_sorted_names {name : String} {names : List String} : name ∈ sortedNames names ↔
    name ∈ names := by
  rw [sortedNames, List.mem_mergeSort, List.mem_eraseDups]

namespace Component

variable {component : Component}

theorem actions_at_site (regular : component.IsRegular) {site : Site} {items : List Action}
    (stored : (site, items) ∈ component.stored) (start : Location) :
    (Place.actions items).ListsActions (start ++ site.location)
    (Action.visitsOf (start ++ site.location) 0 items) := by
  have walked := Place.tour_lists_actions (regular.bodies _ stored) (start ++ site.location) .null
  rw [Place.tour_eq, Stop.actions_cons] at walked
  rw [Action.visits_of_tours _ .null]
  exact walked

theorem mem_action_visits (regular : component.IsRegular) (start : Location) (visit : ActionVisit) :
    visit ∈ component.actionVisits start ↔ ∃ location, component.Stores location visit.action ∧
      ¬IsMessage location ∧ visit.location = start ++ location := by
  rw [action_visits_of_stored, List.mem_flatMap]
  constructor
  · rintro ⟨⟨site, items⟩, kept, member⟩
    obtain ⟨stored, silent⟩ := List.mem_filter.mp kept
    obtain ⟨route, action, led, rfl⟩ :=
      ((actions_at_site regular stored start).listed visit).mp member
    refine ⟨site.location ++ route, ⟨site, items, route, stored, rfl, led⟩,
      ?_, List.append_assoc ..⟩
    simpa [Site.message_iff] using silent
  · rintro ⟨_, ⟨site, items, route, stored, rfl, led⟩, silent, placed⟩
    refine ⟨(site, items), List.mem_filter.mpr ⟨stored, ?_⟩, ?_⟩
    · simpa [Site.message_iff] using silent
    · refine ((actions_at_site regular stored start).listed visit).mpr
        ⟨route, visit.action, led, ?_⟩
      rw [List.append_assoc, ← placed]

theorem nodup_action_visits (regular : component.IsRegular) (start : Location) :
    ((component.actionVisits start).map ActionVisit.location).Nodup := by
  rw [action_visits_of_stored, List.map_flatMap, List.nodup_flatMap]
  constructor
  · intro entry kept
    exact (actions_at_site regular (List.mem_filter.mp kept).1 start).once
  · apply ((List.pairwise_map.mp regular.sites).filter _).imp_of_mem
    intro entry other kept otherKept different location shared otherShared
    obtain ⟨visit, member, rfl⟩ := List.mem_map.mp shared
    obtain ⟨otherVisit, otherMember, same⟩ := List.mem_map.mp otherShared
    have listed := (actions_at_site regular (List.mem_filter.mp kept).1 start).listed
    have otherListed := (actions_at_site regular (List.mem_filter.mp otherKept).1 start).listed
    obtain ⟨route, _, _, rfl⟩ := (listed visit).mp member
    obtain ⟨otherRoute, _, _, rfl⟩ := (otherListed otherVisit).mp otherMember
    simp only [List.append_assoc, List.append_cancel_left_eq] at same
    exact different (Site.eq_of_shared same).symm

theorem references_of_visit {visit : ActionVisit} (member : visit ∈ component.actionVisits [])
    {name : String} {package : Value} {arguments : List NamedFormula} {events : List ActionBody}
    (custom : visit.action = .custom name package arguments events) (named : name ≠ "") :
    name ∈ component.actionReferences := by
  refine mem_sorted_names.mpr (List.mem_flatMap.mpr ⟨visit, member, ?_⟩)
  have filled : name.isEmpty = false := by simpa using named
  simp [ActionVisit.references, custom, filled]

end Component

open Component in
/-- But for what APIs do on a message, the walk over actions visits every stored action once, visits
whatever action a visited formula lies in, and finds the name of every custom action. -/
theorem stored_actions_are_visited {source : Value} (json : source.IsJson) {component : Component}
    (read : Component.read source = .ok (some component)) :
    (∀ start visit, visit ∈ component.actionVisits start ↔
      ∃ location, component.Stores location visit.action ∧
      ¬IsMessage location ∧ visit.location = start ++ location) ∧
    (∀ start, ((component.actionVisits start).map ActionVisit.location).Nodup) ∧
    (∀ package, ∀ visit ∈ component.formulaVisits package, ∀ address after,
      visit.location = address ++ after →
      IsActionAddress address → ¬IsMessage address →
      ∀ start, start ++ address ∈ (component.actionVisits start).map ActionVisit.location) ∧
    ∀ location name package arguments events, component.Stores location
      (.custom name package arguments events) →
      ¬IsMessage location → name ≠ "" → name ∈ component.actionReferences := by
  have regular := regular_of_read json read
  refine ⟨mem_action_visits regular, nodup_action_visits regular, ?_, ?_⟩
  · intro package visit member address after same addressed silent start
    obtain ⟨action, stored⟩ :=
      traces_component regular package visit member address after same addressed
    have visited :=
      (mem_action_visits regular start ⟨start ++ address, action⟩).mpr
        ⟨address, stored, silent, rfl⟩
    exact List.mem_map_of_mem visited
  · intro location name package arguments events stored silent named
    have visited :=
      (mem_action_visits regular [] ⟨location, .custom name package arguments events⟩).mpr
      ⟨location, stored, silent, rfl⟩
    exact references_of_visit visited rfl named

open Value in
/-- A chat that saves drafts when a workflow asks for it, and that announces what an API
receives. -/
def chatPage : Value :=
  object [("name", text "Chat"),
    ("workflows", object [("save", object [("actions", list [object [("name", text "persist"),
      ("events", object [("done", object [("actions", list [object [("type", text "SetVariable"),
        ("name", text "saved"),
        ("data", object [("type", text "value"), ("value", bool true)])]])])])]])])]),
    ("apis", object [("feed", object [("client", object [("onMessage", object [("actions",
      list [object [("name", text "notify"), ("arguments", list [object [("name", text "message"),
        ("formula", object [("type", text "path"), ("path", list [text "Event"])])]])]])])])])])]

theorem chat_page_is_json : chatPage.IsJson := by
  simp [chatPage, Value.IsJson, Value.object, Value.content?, Value.contents?,
    Value.fields?, Scalar.content?, Scalar.text?, Content.ofFields?]

theorem chat_drafts_are_visited : ∃ component, chatPage.IsJson ∧
    Component.read chatPage = .ok (some component) ∧
    (∀ visit, visit ∈ component.actionVisits [] ↔
      ∃ location, component.Stores location visit.action ∧
      ¬IsMessage location ∧ visit.location = [] ++ location) ∧
    (∀ visit ∈ component.formulaVisits .null, ∀ address after, visit.location = address ++ after →
      IsActionAddress address → ¬IsMessage address →
      [] ++ address ∈ (component.actionVisits []).map ActionVisit.location) ∧
    (component.actionVisits []).map ActionVisit.location =
      [[.key "workflows", .key "save", .key "actions", .index 0],
        [.key "workflows", .key "save", .key "actions", .index 0, .key "events",
          .key "done", .key "actions", .index 0]] ∧
    "persist" ∈ component.actionReferences := by
  obtain ⟨visits, _, around, named⟩ := stored_actions_are_visited chat_page_is_json rfl
  refine ⟨_, chat_page_is_json, rfl, visits [],
    fun visit member address after same addressed silent =>
      around .null visit member address after same addressed silent [], rfl, ?_⟩
  refine named ((Site.workflow "save").location ++ [.index 0]) "persist" .null [] _
    ⟨.workflow "save", _, [.index 0], List.mem_of_getElem? (i := 0) rfl, rfl, rfl⟩ ?_ (by decide)
  rw [Site.message_iff]
  decide

theorem messages_are_not_visited : ∃ component, chatPage.IsJson ∧
    Component.read chatPage = .ok (some component) ∧
    ∃ address action, component.Stores address action ∧ IsActionAddress address ∧
      (∃ visit ∈ component.formulaVisits .null,
        visit.location = address ++ [.key "arguments", .index 0, .key "formula"]) ∧
      address ∉ (component.actionVisits []).map ActionVisit.location ∧
      action.name? = some "notify" ∧ "notify" ∉ component.actionReferences := by
  refine ⟨_, chat_page_is_json, rfl, (Site.api "feed" "onMessage").location ++ [.index 0], _,
    ⟨.api "feed" "onMessage", _, [.index 0], List.mem_of_getElem? (i := 1) rfl, rfl, rfl⟩,
    ⟨(Site.api "feed" "onMessage").location.dropLast, 0, rfl⟩,
    ⟨_, List.mem_of_getElem? (i := 1) rfl, rfl⟩, ?_, rfl, ?_⟩
  · decide
  · rw [Component.actionReferences, mem_sorted_names]
    decide

end Interplay
