import Interplay.Proofs.Traversal.Addresses
import Interplay.References
import Mathlib.Data.List.Chain

/-!
Where a component stores its actions.

Every list of actions in a component stands at a site: in a workflow, in what an API does, in a
lifecycle event or in an event of a node.  The walk over actions goes through all sites but for what
APIs do on a message, while the walk over formulas goes through them as well.
-/

namespace Interplay

inductive Site where
  | workflow (name : String)
  | api (name event : String)
  | onLoad
  | onAttributeChange
  | nodeEvent (node event : String)

namespace Site

def location : Site → Location
  | workflow name => [.key "workflows", .key name, .key "actions"]
  | api name event => [.key "apis", .key name, .key "client", .key event, .key "actions"]
  | onLoad => [.key "onLoad", .key "actions"]
  | onAttributeChange => [.key "onAttributeChange", .key "actions"]
  | nodeEvent node event => [.key "nodes", .key node, .key "events", .key event, .key "actions"]

def isMessage : Site → Bool
  | api _ event => event == "onMessage"
  | _ => false

def rank : Site → Nat
  | workflow _ => 0
  | api .. => 1
  | onLoad => 2
  | onAttributeChange => 3
  | nodeEvent .. => 4

theorem eq_of_shared {site other : Site} {rest otherRest : Location}
    (same : site.location ++ rest = other.location ++ otherRest) : site = other := by
  cases site <;> cases other <;> simp_all [location]

theorem location_eq (site : Site) : ∃ front : Location, site.location = front ++ [.key "actions"] ∧
    ∀ segment ∈ site.location, ∃ name, segment = .key name := by
  cases site <;>
    exact ⟨_, (List.dropLast_concat_getLast (by simp [location])).symm, by simp [location]⟩

end Site

/-- The events of a node, each with its actions. -/
def Node.events (node : Node) : Table (List Action) :=
  match node.body with
  | .element _ _ events .. => events
  | .component _ _ _ events .. => events
  | _ => []

def Action.handled (event : String) : Option (List Action) → Table (List Action)
  | none => []
  | some items => [(event, items)]

def ComponentApi.handlers (api : ComponentApi) : Table (List Action) :=
  Action.handled "onCompleted" api.onCompleted ++ Action.handled "onFailed" api.onFailed
    ++ Action.handled "onMessage" api.onMessage

namespace Component

/-- The lists of actions of a component, each with its site. -/
def stored (component : Component) : List (Site × List Action) :=
  component.workflows.map (fun entry => (.workflow entry.1, entry.2.actions))
    ++ component.apis.flatMap
      (fun entry => entry.2.handlers.map fun event => (.api entry.1 event.1, event.2))
    ++ (component.onLoad.map (Prod.mk .onLoad)).toList
    ++ (component.onAttributeChange.map (Prod.mk .onAttributeChange)).toList
    ++ component.nodes.flatMap fun entry => entry.2.events.map fun event =>
      (.nodeEvent entry.1 event.1, event.2)

/-- An action of the component at its location, nested bodies included. -/
def Stores (component : Component) (location : Location) (action : Action) : Prop :=
  ∃ site items route, (site, items) ∈ component.stored ∧ location = site.location ++ route ∧
    (Place.actions items).follow route = some (.action action)

end Component

theorem Node.action_visits_of_events (node : Node) (location : Location) :
    node.actionVisits location = node.events.flatMap fun event =>
      Action.visitsOf (location ++ [.key "events", .key event.1, .key "actions"]) 0 event.2 := by
  unfold actionVisits events
  cases node.body <;> rfl

theorem ComponentApi.action_visits_of_handlers (api : ComponentApi) (location : Location) :
    Action.fallbackVisits (location ++ [.key "onCompleted", .key "actions"]) api.onCompleted
        ++ Action.fallbackVisits (location ++ [.key "onFailed", .key "actions"]) api.onFailed
      = (api.handlers.filter fun event => !(event.1 == "onMessage")).flatMap fun event =>
          Action.visitsOf (location ++ [.key event.1, .key "actions"]) 0 event.2 := by
  unfold handlers
  cases api.onCompleted <;> cases api.onFailed <;> cases api.onMessage <;>
    simp [Action.handled, Action.fallbackVisits]

/-- The walk over actions goes through every site that is not for messages. -/
theorem Component.action_visits_of_stored (component : Component) (start : Location) :
    component.actionVisits start = (component.stored.filter fun entry => !entry.1.isMessage).flatMap
      fun entry => Action.visitsOf (start ++ entry.1.location) 0 entry.2 := by
  unfold actionVisits stored
  simp only [List.filter_append, List.flatMap_append]
  congr 1
  · congr 1
    · congr 1
      · congr 1
        · simp [List.filter_map, List.flatMap_map, Function.comp_def, Site.isMessage, Site.location]
        · rw [List.filter_flatMap, List.flatMap_assoc]
          congr 1
          funext entry
          have handled :=
            entry.2.action_visits_of_handlers (start ++ [.key "apis", .key entry.1, .key "client"])
          simp only [List.append_assoc, List.cons_append, List.nil_append] at handled
          rw [handled, List.filter_map, List.flatMap_map]
          rfl
      · cases component.onLoad <;> simp [Action.fallbackVisits, Site.isMessage, Site.location]
    · cases component.onAttributeChange <;>
        simp [Action.fallbackVisits, Site.isMessage, Site.location]
  · simp [List.filter_flatMap, List.filter_map, List.flatMap_assoc,
      List.flatMap_map, Function.comp_def,
      Site.isMessage, Site.location, Node.action_visits_of_events]

/-! ### What was read from JSON -/

namespace Value

variable {source : Value}

theorem names_of_table {α : Type} {reader : String → Value → Except Failure (Option α)}
    {entries : Entries} {table : Table α} (read : readTable reader entries = .ok table) :
    (table.map Prod.fst).Sublist (entries.map fun entry => entry.1.display) := by
  induction entries generalizing table with
  | nil =>
      cases read
      exact .slnil
  | cons entry rest ih =>
      obtain ⟨key, content⟩ := entry
      unfold readTable at read
      obtain ⟨first, _, read⟩ := ok_of_bind read
      obtain ⟨others, othersRead, made⟩ := ok_of_bind read
      cases first with
      | none =>
          cases made
          exact (ih othersRead).cons _
      | some result =>
          cases made
          exact (ih othersRead).cons_cons _

theorem nodup_section {α : Type} {reader : String → Value → Except Failure (Option α)}
    (json : source.IsJson)
    {table : Table α} (read : readTable reader source.sections = .ok table) :
    (table.map Prod.fst).Nodup := by
  cases source with
  | scalar | list =>
      cases read
      exact List.nodup_nil
  | mapping entries => exact (nodup_names json).sublist (names_of_table read)

theorem distinct_of_held (json : source.IsJson) {items : List Action}
    (holds : source.HoldsActions items) :
    (Place.actions items).HasDistinctBodies := by
  have origin : (Place.actions items).IsReadFrom "actions" (source.field "actions") :=
    Action.each_action holds
  exact Place.distinct_of_read (json.field "actions") origin

/-- Lists of actions under different names, and with bodies of different names in every action. -/
def AreRegular (events : Table (List Action)) : Prop :=
  (events.map Prod.fst).Nodup ∧ ∀ event ∈ events, (Place.actions event.2).HasDistinctBodies

theorem regular_events (json : source.IsJson) {events : Table (List Action)}
    (read : readEvents source = .ok events) :
    AreRegular events := by
  refine ⟨nodup_section json read, ?_⟩
  rintro ⟨name, items⟩ member
  obtain ⟨found, foundRead, made⟩ := ok_of_bind (section_entry json read member)
  cases made
  exact distinct_of_held (json.field name) (actions_of_event foundRead)

theorem distinct_of_event (json : source.IsJson) {found : Option (List Action)}
    (read : readEvent source = .ok found)
    {items : List Action} (given : items ∈ found) : (Place.actions items).HasDistinctBodies := by
  cases given
  exact distinct_of_held json (actions_of_event read)

theorem distinct_of_handled {event : String} {found : Option (List Action)}
    {entry : String × List Action}
    (member : entry ∈ Action.handled event found) : entry.1 = event ∧ entry.2 ∈ found := by
  cases found with
  | none => cases member
  | some items =>
      cases List.mem_singleton.mp member
      exact ⟨rfl, rfl⟩

theorem regular_handlers (json : source.IsJson) {name : Value} {api : ComponentApi}
    (read : ComponentApi.read name source = .ok (some api)) : AreRegular api.handlers := by
  constructor
  · unfold ComponentApi.handlers
    cases api.onCompleted <;> cases api.onFailed <;> cases api.onMessage <;> simp [Action.handled]
  · cases source with
    | scalar | list => cases read
    | mapping entries =>
        unfold ComponentApi.read at read
        obtain ⟨url, _, read⟩ := ok_of_bind read
        obtain ⟨method, _, read⟩ := ok_of_bind read
        obtain ⟨body, _, read⟩ := ok_of_bind read
        obtain ⟨autoFetch, _, read⟩ := ok_of_bind read
        obtain ⟨headers, _, read⟩ := ok_of_bind read
        obtain ⟨queryParams, _, read⟩ := ok_of_bind read
        obtain ⟨onCompleted, completedRead, read⟩ := ok_of_bind read
        obtain ⟨onFailed, failedRead, read⟩ := ok_of_bind read
        obtain ⟨onMessage, messageRead, made⟩ := ok_of_bind read
        cases made
        have client := json.field "client"
        intro event member
        simp only [ComponentApi.handlers, List.mem_append] at member
        rcases member with (completed | failed) | message
        · exact distinct_of_event (client.field _) completedRead (distinct_of_handled completed).2
        · exact distinct_of_event (client.field _) failedRead (distinct_of_handled failed).2
        · exact distinct_of_event (client.field _) messageRead (distinct_of_handled message).2

theorem regular_node (json : source.IsJson) {node : Node}
    (read : Node.read source = .ok (some node)) :
    AreRegular node.events := by
  cases source with
  | scalar | list => cases read
  | mapping entries =>
      unfold Node.read at read
      obtain ⟨condition, _, read⟩ := ok_of_bind read
      obtain ⟨repeated, _, read⟩ := ok_of_bind read
      obtain ⟨repeatKey, _, read⟩ := ok_of_bind read
      obtain ⟨children, _, read⟩ := ok_of_bind read
      obtain ⟨names, _, read⟩ := ok_of_bind read
      obtain ⟨body, bodyRead, made⟩ := ok_of_bind read
      obtain ⟨inner, rfl, made⟩ := Option.map_eq_some_iff.mp (Except.ok.inj made)
      cases made
      unfold Node.readBody at bodyRead
      dsimp only at bodyRead
      -- elements and components have events, texts and slots have none
      split at bodyRead
      case h_1 =>
        obtain ⟨tag, _, read⟩ := ok_of_bind bodyRead
        obtain ⟨attributes, _, read⟩ := ok_of_bind read
        obtain ⟨events, eventsRead, read⟩ := ok_of_bind read
        obtain ⟨classes, _, read⟩ := ok_of_bind read
        obtain ⟨properties, _, read⟩ := ok_of_bind read
        obtain ⟨items, _, read⟩ := ok_of_bind read
        obtain ⟨variants, _, made⟩ := ok_of_bind read
        cases made
        exact regular_events (json.field _) eventsRead
      case h_2 =>
        obtain ⟨content, _, made⟩ := ok_of_bind bodyRead
        cases made
        exact ⟨List.nodup_nil, nofun⟩
      case h_3 =>
        obtain ⟨name, _, read⟩ := ok_of_bind bodyRead
        obtain ⟨attributes, _, read⟩ := ok_of_bind read
        obtain ⟨events, eventsRead, read⟩ := ok_of_bind read
        obtain ⟨properties, _, made⟩ := ok_of_bind read
        cases made
        exact regular_events (json.field _) eventsRead
      case h_4 =>
        cases bodyRead
        exact ⟨List.nodup_nil, nofun⟩
      case h_5 => cases bodyRead

end Value

namespace Component

/-- Different sites, and bodies of different names in every action. -/
structure IsRegular (component : Component) : Prop where
  sites : (component.stored.map Prod.fst).Nodup
  bodies : ∀ entry ∈ component.stored, (Place.actions entry.2).HasDistinctBodies

theorem nodup_grouped {α : Type} (site : String → String → Site) {table : Table α}
    (names : (table.map Prod.fst).Nodup) {events : α → Table (List Action)}
    (regular : ∀ entry ∈ table, ((events entry.2).map Prod.fst).Nodup)
    (apart : ∀ name event other otherEvent, site name event = site other otherEvent →
      name = other ∧ event = otherEvent) :
    ((table.flatMap fun entry => (events entry.2).map fun event =>
      (site entry.1 event.1, event.2)).map Prod.fst).Nodup := by
  rw [List.map_flatMap, List.nodup_flatMap]
  constructor
  · intro entry member
    have inner :=
      (regular entry member).map (f := site entry.1) fun _ _ same => (apart _ _ _ _ same).2
    rwa [List.map_map] at inner ⊢
  · apply (List.pairwise_map.mp names).imp
    intro entry other different site shared otherShared
    simp only [List.map_map, List.mem_map, Function.comp_apply] at shared otherShared
    obtain ⟨event, _, rfl⟩ := shared
    obtain ⟨otherEvent, _, same⟩ := otherShared
    exact different (apart _ _ _ _ same).1.symm

theorem nodup_sections (bound : Nat) {former latter : List (Site × List Action)}
    (first : (former.map Prod.fst).Nodup) (second : (latter.map Prod.fst).Nodup)
    (below : ∀ entry ∈ former, entry.1.rank < bound)
    (above : ∀ entry ∈ latter, bound ≤ entry.1.rank) :
    ((former ++ latter).map Prod.fst).Nodup := by
  rw [List.map_append]
  refine first.append second fun site shared otherShared => ?_
  obtain ⟨entry, member, rfl⟩ := List.mem_map.mp shared
  obtain ⟨other, otherMember, same⟩ := List.mem_map.mp otherShared
  have lower := below entry member
  have upper := above other otherMember
  rw [same] at upper
  omega

theorem nodup_sites {component : Component} (workflows : (component.workflows.map Prod.fst).Nodup)
    (apis : (component.apis.map Prod.fst).Nodup)
    (handlers : ∀ entry ∈ component.apis, (entry.2.handlers.map Prod.fst).Nodup)
    (nodes : (component.nodes.map Prod.fst).Nodup)
    (events : ∀ entry ∈ component.nodes, (entry.2.events.map Prod.fst).Nodup) :
    (component.stored.map Prod.fst).Nodup := by
  have ofWorkflows : ((component.workflows.map fun entry =>
      (Site.workflow entry.1, entry.2.actions)).map Prod.fst).Nodup := by
    have sites := workflows.map (f := Site.workflow) fun _ _ same => Site.workflow.inj same
    rwa [List.map_map] at sites ⊢
  have ofApis := nodup_grouped .api apis handlers fun _ _ _ _ same => Site.api.inj same
  have ofLoad : ((component.onLoad.map (Prod.mk Site.onLoad)).toList.map Prod.fst).Nodup := by
    cases component.onLoad <;> simp
  have ofChange :
      ((component.onAttributeChange.map (Prod.mk Site.onAttributeChange)).toList.map
        Prod.fst).Nodup := by
    cases component.onAttributeChange <;> simp
  have ofNodes := nodup_grouped .nodeEvent nodes events fun _ _ _ _ same => Site.nodeEvent.inj same
  unfold stored
  refine nodup_sections 4
    (nodup_sections 3 (nodup_sections 2 (nodup_sections 1 ofWorkflows ofApis ?_ ?_) ofLoad
    ?_ ?_) ofChange ?_ ?_) ofNodes ?_ ?_
  all_goals
    simp only [List.mem_append, List.mem_map, List.mem_flatMap,
      Option.mem_toList, Option.map_eq_some_iff]
    grind [Site.rank]

theorem regular_of_read {source : Value} (json : source.IsJson) {component : Component}
    (read : Component.read source = .ok (some component)) : component.IsRegular := by
  cases source with
  | scalar | list => cases read
  | mapping entries =>
      unfold Component.read at read
      obtain ⟨formulas, _, read⟩ := ok_of_bind read
      obtain ⟨workflows, workflowsRead, read⟩ := ok_of_bind read
      obtain ⟨initialValues, _, read⟩ := ok_of_bind read
      obtain ⟨apis, apisRead, read⟩ := ok_of_bind read
      obtain ⟨nodes, nodesRead, read⟩ := ok_of_bind read
      obtain ⟨route, _, read⟩ := ok_of_bind read
      obtain ⟨name, _, read⟩ := ok_of_bind read
      obtain ⟨onLoad, loadRead, read⟩ := ok_of_bind read
      obtain ⟨onAttributeChange, changeRead, made⟩ := ok_of_bind read
      cases made
      have handlers : ∀ entry ∈ apis, Value.AreRegular entry.2.handlers := fun entry member =>
        Value.regular_handlers ((json.field _).field entry.1)
          (Value.section_entry (json.field "apis") apisRead member)
      have events : ∀ entry ∈ nodes, Value.AreRegular entry.2.events := fun entry member =>
        Value.regular_node ((json.field _).field entry.1)
          (Value.section_entry (json.field "nodes") nodesRead member)
      constructor
      · exact nodup_sites (Value.nodup_section (json.field _) workflowsRead)
          (Value.nodup_section (json.field _) apisRead)
          (fun entry member => (handlers entry member).1)
          (Value.nodup_section (json.field _) nodesRead)
          (fun entry member => (events entry member).1)
      · rintro ⟨site, items⟩ member
        simp only [stored, List.mem_append] at member
        rcases member with (((workflow | api) | load) | change) | node
        · obtain ⟨entry, listed, same⟩ := List.mem_map.mp workflow
          cases same
          exact Value.distinct_of_held ((json.field _).field entry.1)
            (Value.actions_of_workflow
              (Value.section_entry (json.field "workflows") workflowsRead listed))
        · obtain ⟨entry, listed, inside⟩ := List.mem_flatMap.mp api
          obtain ⟨event, handled, same⟩ := List.mem_map.mp inside
          cases same
          exact (handlers entry listed).2 event handled
        · obtain ⟨found, given, same⟩ := Option.map_eq_some_iff.mp (Option.mem_toList.mp load)
          cases same
          exact Value.distinct_of_event (json.field _) loadRead given
        · obtain ⟨found, given, same⟩ := Option.map_eq_some_iff.mp (Option.mem_toList.mp change)
          cases same
          exact Value.distinct_of_event (json.field _) changeRead given
        · obtain ⟨entry, listed, inside⟩ := List.mem_flatMap.mp node
          obtain ⟨event, handled, same⟩ := List.mem_map.mp inside
          cases same
          exact (events entry listed).2 event handled

end Component
end Interplay
