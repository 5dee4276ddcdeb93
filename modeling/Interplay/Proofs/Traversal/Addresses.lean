import Interplay.Proofs.Traversal.Visits

/-!
Whether the locations of a walk over a component are addresses in its document.

Positions count the entries that the readers keep.  Counted so, the location of every visited
formula leads to the object that it was read from.  It is an address in the document itself if it is
straight; where an entry was left out before a position, or named formulas come as an object, it may
lead astray.
-/

namespace Interplay
namespace Value

/-- A part of a document stands at a location: whatever lies behind the location is found from the
part. -/
def StandsAt (root : Value) (location : Location) (label : String) (source : Value) : Prop :=
  ∀ rest, (root.reach? "" (location ++ rest)).getD null = (source.reach? label rest).getD null

def Addresses (root : Value) (visits : List FormulaVisit) : Prop :=
  ∀ visit ∈ visits, ∃ found, root.reach? "" visit.location = some found ∧
    Formula.read found = .ok (some visit.formula)

variable {root source : Value} {location : Location} {label : String}

theorem stands_at_root (root : Value) : root.StandsAt [] "" root :=
  fun _ => rfl

theorem StandsAt.key (stands : root.StandsAt location label source) (name : String) :
    root.StandsAt (location ++ [.key name]) name (source.field name) := by
  intro rest
  rw [List.append_assoc, stands]
  change ((source.field? name).bind (reach? name rest)).getD null = _
  rw [← field_of_field? source name]
  cases source.field? name with
  | none => exact (reach_null name rest).symm
  | some inner => rfl

theorem StandsAt.item (stands : root.StandsAt location label source)
    {position : Nat} {entry : Value} (found : (source.kept label)[position]? = some entry) :
    root.StandsAt (location ++ [.index position]) label entry := by
  intro rest
  rw [List.append_assoc, stands]
  change (((source.kept label)[position]?).bind (reach? label rest)).getD null = _
  rw [found]
  rfl

theorem addresses_nil (root : Value) : root.Addresses [] :=
  nofun

theorem Addresses.append {former latter : List FormulaVisit} (first : root.Addresses former)
    (second : root.Addresses latter) : root.Addresses (former ++ latter) := by
  intro visit member
  rcases List.mem_append.mp member with inFormer | inLatter
  · exact first visit inFormer
  · exact second visit inLatter

theorem addresses_flat_map {α : Type} {items : List α} {visits : α → List FormulaVisit}
    (each : ∀ item ∈ items, root.Addresses (visits item)) : root.Addresses
    (items.flatMap visits) := by
  intro visit member
  obtain ⟨item, listed, inside⟩ := List.mem_flatMap.mp member
  exact each item listed visit inside

/-- A walk over a place that was read from a part of a document. -/
theorem addresses_tour (stands : root.StandsAt location label source)
    (json : source.IsJson) {place : Place}
    (read : place.IsReadFrom label source) (package : Value) :
    root.Addresses (Stop.formulas (Place.tour location package place)) := by
  intro visit member
  have lists := Place.tour_lists_formulas (Place.distinct_of_read json read) location package
  obtain ⟨route, inner, led, rfl⟩ := (lists.listed visit).mp member
  obtain ⟨found, reached, readInner⟩ := Place.formula_reached json read led
  have same := stands route
  rw [reached, Option.getD_some] at same
  -- nothing missing leads to a formula, since null holds none
  cases present : root.reach? "" (location ++ route) with
  | none =>
      rw [present, Option.getD_none] at same
      rw [← same, Formula.read_null] at readInner
      cases readInner
  | some other =>
      rw [present, Option.getD_some] at same
      rw [← same] at readInner
      exact ⟨other, rfl, readInner⟩

theorem addresses_formula (stands : root.StandsAt location label source) (json : source.IsJson)
    {found : Option Formula} (read : Formula.read source = .ok found) (package : Value) :
    root.Addresses (Formula.visitsOf location package found) := by
  cases found with
  | none => exact addresses_nil root
  | some inner =>
      rw [Formula.visitsOf, Formula.visits_of_tour]
      have origin : (Place.formula inner).IsReadFrom label source := read
      exact addresses_tour stands json origin package

theorem addresses_field (stands : root.StandsAt location label source)
    (json : source.IsJson) {key : String}
    {found : Option Formula} (holds : source.HoldsFormula key found) (package : Value) :
    root.Addresses (Formula.visitsOf (location ++ [.key key]) package found) :=
  addresses_formula (stands.key key) (json.field key) holds package

theorem addresses_actions (stands : root.StandsAt location label source) (json : source.IsJson)
    {actions : List Action} (holds : source.HoldsActions actions) (package : Value) :
    root.Addresses (Action.formulaVisitsOf (location ++ [.key "actions"]) package 0 actions) := by
  have origin : (Place.actions actions).IsReadFrom "actions" (source.field "actions") :=
    Action.each_action holds
  have toured := addresses_tour (stands.key "actions") (json.field "actions") origin package
  rw [Place.tour_eq, Stop.formulas_cons] at toured
  rw [Action.formula_visits_of_tours]
  exact toured

theorem actions_of_event {found : Option (List Action)} (read : readEvent source = .ok found) :
    source.HoldsActions (found.getD []) := by
  cases source with
  | scalar | list =>
      cases read
      exact Action.list_of_null
  | mapping entries =>
      unfold readEvent at read
      dsimp only at read
      rw [Action.read_actions_field_eq] at read
      obtain ⟨actions, actionsRead, made⟩ := ok_of_bind read
      cases made
      exact actionsRead

theorem addresses_event (stands : root.StandsAt location label source) (json : source.IsJson)
    {found : Option (List Action)} (read : readEvent source = .ok found) (package : Value) :
    root.Addresses (Action.fallbackFormulaVisits (location ++ [.key "actions"]) package found) := by
  cases found with
  | none => exact addresses_nil root
  | some actions => exact addresses_actions stands json (actions_of_event read) package

/-! ### Tables -/

theorem entry_of_table {α : Type} {reader : String → Value → Except Failure (Option α)}
    {entries : Entries}
    {table : Table α} (read : readTable reader entries = .ok table) {name : String} {item : α}
    (member : (name, item) ∈ table) :
    ∃ key content, (key, content) ∈ entries ∧ key.display = name ∧
    reader name content = .ok (some item) := by
  induction entries generalizing table with
  | nil =>
      cases read
      cases member
  | cons entry rest ih =>
      obtain ⟨key, content⟩ := entry
      unfold readTable at read
      obtain ⟨first, firstRead, read⟩ := ok_of_bind read
      obtain ⟨others, othersRead, made⟩ := ok_of_bind read
      cases first with
      | none =>
          cases made
          obtain ⟨other, inner, listed, found⟩ := ih othersRead member
          exact ⟨other, inner, List.mem_cons_of_mem _ listed, found⟩
      | some result =>
          cases made
          rcases List.mem_cons.mp member with same | later
          · cases same
            exact ⟨key, content, List.mem_cons_self, rfl, firstRead⟩
          · obtain ⟨other, inner, listed, found⟩ := ih othersRead later
            exact ⟨other, inner, List.mem_cons_of_mem _ listed, found⟩

theorem section_entry {α : Type} {reader : String → Value → Except Failure (Option α)}
    (json : source.IsJson)
    {table : Table α} (read : readTable reader source.sections = .ok table)
    {name : String} {item : α}
    (member : (name, item) ∈ table) : reader name (source.field name) = .ok (some item) := by
  obtain ⟨key, content, listed, rfl, itemRead⟩ := entry_of_table read member
  cases source with
  | scalar | list => cases listed
  | mapping entries =>
      rw [← field_of_field?, field_of_entry json listed]
      exact itemRead

theorem addresses_formula_table (stands : root.StandsAt location label source)
    (json : source.IsJson)
    {table : Table (Option Formula)} (read : readFormulaTable source = .ok table)
    (package : Value) :
    root.Addresses (Formula.tableVisits location [] package table) := by
  apply addresses_flat_map
  rintro ⟨name, found⟩ member
  obtain ⟨other, otherRead, made⟩ := ok_of_bind (section_entry json read member)
  cases made
  exact addresses_formula (stands.key name) (json.field name) otherRead package

theorem addresses_inner_formulas (stands : root.StandsAt location label source)
    (json : source.IsJson) {key : String}
    {table : Table (Option Formula)} (read : readInnerFormulas key source = .ok table)
    (package : Value) :
    root.Addresses (Formula.tableVisits location [.key key] package table) := by
  apply addresses_flat_map
  rintro ⟨name, found⟩ member
  obtain ⟨other, otherRead, made⟩ := ok_of_bind (section_entry json read member)
  cases made
  simpa using addresses_field (stands.key name) (json.field name) otherRead package

theorem addresses_events (stands : root.StandsAt location label source) (json : source.IsJson)
    {events : Table (List Action)} (read : readEvents source = .ok events) (package : Value) :
    root.Addresses (Action.eventFormulaVisits location package events) := by
  apply addresses_flat_map
  rintro ⟨name, actions⟩ member
  obtain ⟨found, foundRead, made⟩ := ok_of_bind (section_entry json read member)
  cases made
  simpa using addresses_actions (stands.key name) (json.field name)
    (actions_of_event foundRead) package

theorem addresses_toggled (stands : root.StandsAt location label source) (json : source.IsJson)
    {entries : Table ToggledFormula} (read : readToggled source = .ok entries) (package : Value) :
    root.Addresses (ToggledFormula.visits location package entries) := by
  apply addresses_flat_map
  rintro ⟨name, toggled⟩ member
  have inner := section_entry json read member
  have innerStands := stands.key name
  have innerJson := json.field name
  generalize source.field name = entry at inner innerStands innerJson
  cases entry with
  | scalar | list => cases inner
  | mapping fields =>
      dsimp only at inner
      rw [Formula.read_field_eq, Formula.read_field_eq] at inner
      obtain ⟨formula, formulaRead, inner⟩ := ok_of_bind inner
      obtain ⟨enabled, enabledRead, made⟩ := ok_of_bind inner
      cases made
      have first := addresses_field innerStands innerJson formulaRead package
      have second := addresses_field innerStands innerJson enabledRead package
      simpa using first.append second

/-! ### Sections of components -/

theorem addresses_api (stands : root.StandsAt location label source)
    (json : source.IsJson) {name : Value}
    {api : ComponentApi} (read : ComponentApi.read name source = .ok (some api)) (package : Value) :
    root.Addresses (api.formulaVisits location package) := by
  cases source with
  | scalar | list => cases read
  | mapping entries =>
      unfold ComponentApi.read at read
      simp only [Formula.read_field_eq] at read
      obtain ⟨url, urlRead, read⟩ := ok_of_bind read
      obtain ⟨method, methodRead, read⟩ := ok_of_bind read
      obtain ⟨body, bodyRead, read⟩ := ok_of_bind read
      obtain ⟨autoFetch, autoFetchRead, read⟩ := ok_of_bind read
      obtain ⟨headers, headersRead, read⟩ := ok_of_bind read
      obtain ⟨queryParams, queryParamsRead, read⟩ := ok_of_bind read
      obtain ⟨onCompleted, completedRead, read⟩ := ok_of_bind read
      obtain ⟨onFailed, failedRead, read⟩ := ok_of_bind read
      obtain ⟨onMessage, messageRead, made⟩ := ok_of_bind read
      cases made
      have client := stands.key "client"
      have clientJson := json.field "client"
      have completed :=
        addresses_event (client.key "onCompleted") (clientJson.field _) completedRead package
      have failed := addresses_event (client.key "onFailed") (clientJson.field _) failedRead package
      have message :=
        addresses_event (client.key "onMessage") (clientJson.field _) messageRead package
      simp only [List.append_assoc, List.cons_append, List.nil_append] at completed failed message
      exact ((((((((addresses_field stands json autoFetchRead package).append
        (addresses_field stands json urlRead package)).append
        (addresses_field stands json methodRead package)).append
        (addresses_field stands json bodyRead package)).append
        (addresses_toggled (stands.key "headers") (json.field _) headersRead package)).append
        (addresses_toggled (stands.key "queryParams")
          (json.field _) queryParamsRead package)).append
        completed).append failed).append message

/-- What iterates like a list is the list itself, or has no objects in it. -/
theorem elements_cases {items : List Value} (listed : source.elements = .ok items) :
    source = list items ∨ items.filter isObject = [] := by
  unfold elements at listed
  split at listed
  · cases source with
    | list found =>
        cases listed
        exact .inl rfl
    | mapping entries =>
        cases listed
        right
        apply List.filter_eq_nil_iff.mpr
        intro item member
        obtain ⟨entry, _, rfl⟩ := List.mem_map.mp member
        exact nofun
    | scalar content =>
        cases content with
        | text content =>
            cases listed
            right
            simp [isObject]
        | _ => cases listed
  · cases listed
    exact .inr rfl

theorem each_variant {items : List Value} (listed : source.elements = .ok items)
    {variants : List StyleVariant} (read : Node.readVariants items = .ok variants) :
    Each (fun entry variant => readInnerFormulas "formula" (entry.field "customProperties") =
      .ok variant.customProperties) (source.kept "variants") variants := by
  have each : Each
      (fun entry variant => readInnerFormulas "formula" (entry.field "customProperties") =
      .ok variant.customProperties) (items.filter isObject) variants := by
    apply each_object _ _ _ _ read
    · rfl
    · exact fun _ _ => rfl
    · exact fun _ _ => rfl
    · intro entries rest found read
      unfold Node.readVariants at read
      obtain ⟨name, _, read⟩ := ok_of_bind read
      obtain ⟨properties, propertiesRead, read⟩ := ok_of_bind read
      obtain ⟨others, othersRead, made⟩ := ok_of_bind read
      cases made
      exact ⟨⟨name, properties⟩, others, propertiesRead, othersRead, rfl⟩
  rcases elements_cases listed with rfl | none
  · rw [kept, is_kept_of_object (by decide)]
    exact each
  · intro position variant found
    obtain ⟨entry, absent, _⟩ := each position variant found
    simp [none] at absent

theorem variant_of_visit {variants : List StyleVariant} {package : Value}
    {position : Nat} {visit : FormulaVisit}
    (member : visit ∈ StyleVariant.visits location package position variants) :
    ∃ index variant, variants[index]? = some variant ∧
      visit ∈ Formula.tableVisits (location ++ [.index (position + index), .key "customProperties"])
        [.key "formula"] package variant.customProperties := by
  induction variants generalizing position with
  | nil => cases member
  | cons variant rest ih =>
      rcases List.mem_append.mp member with first | later
      · exact ⟨0, variant, rfl, first⟩
      · obtain ⟨index, other, found, inside⟩ := ih later
        rw [Nat.add_right_comm] at inside
        exact ⟨index + 1, other, found, inside⟩

theorem addresses_variants (stands : root.StandsAt location "variants" source)
    (json : source.IsJson)
    {items : List Value} (listed : source.elements = .ok items) {variants : List StyleVariant}
    (read : Node.readVariants items = .ok variants) (package : Value) :
    root.Addresses (StyleVariant.visits location package 0 variants) := by
  intro visit member
  obtain ⟨index, variant, found, inside⟩ := variant_of_visit member
  obtain ⟨entry, kept, propertiesRead⟩ := each_variant listed read index variant found
  have entryJson := json.kept (List.mem_of_getElem? kept)
  have properties :=
    addresses_inner_formulas ((stands.item kept).key "customProperties") (entryJson.field _)
    propertiesRead package
  simp only [List.append_assoc, List.cons_append, List.nil_append] at properties
  rw [Nat.zero_add] at inside
  exact properties visit inside

theorem addresses_body {entries : Entries} (stands : root.StandsAt location label (mapping entries))
    (json : (mapping entries).IsJson) {children : List String} {body : NodeBody}
    (read : Node.readBody entries children = .ok (some body)) (package : Value) : root.Addresses
    (Node.bodyVisits location package body) := by
  unfold Node.readBody at read
  simp only [Formula.read_field_eq] at read
  -- elements, texts, components and slots
  split at read
  case h_1 =>
    obtain ⟨tag, _, read⟩ := ok_of_bind read
    obtain ⟨attributes, attributesRead, read⟩ := ok_of_bind read
    obtain ⟨events, eventsRead, read⟩ := ok_of_bind read
    obtain ⟨classes, classesRead, read⟩ := ok_of_bind read
    obtain ⟨properties, propertiesRead, read⟩ := ok_of_bind read
    obtain ⟨items, listed, read⟩ := ok_of_bind read
    obtain ⟨variants, variantsRead, made⟩ := ok_of_bind read
    cases made
    exact ((((addresses_formula_table (stands.key "attrs")
      (json.field _) attributesRead package).append
      (addresses_events (stands.key "events") (json.field _) eventsRead package)).append
      (addresses_inner_formulas (stands.key "classes") (json.field _) classesRead package)).append
      (addresses_inner_formulas (stands.key "customProperties")
        (json.field _) propertiesRead package)).append
      (addresses_variants (stands.key "variants") (json.field _) listed variantsRead package)
  case h_2 =>
    obtain ⟨content, contentRead, made⟩ := ok_of_bind read
    cases made
    exact addresses_field stands json contentRead package
  case h_3 =>
    obtain ⟨name, _, read⟩ := ok_of_bind read
    obtain ⟨attributes, attributesRead, read⟩ := ok_of_bind read
    obtain ⟨events, eventsRead, read⟩ := ok_of_bind read
    obtain ⟨properties, propertiesRead, made⟩ := ok_of_bind read
    cases made
    exact ((addresses_formula_table (stands.key "attrs") (json.field _) attributesRead _).append
      (addresses_events (stands.key "events") (json.field _) eventsRead _)).append
      (addresses_inner_formulas (stands.key "customProperties") (json.field _) propertiesRead _)
  case h_4 =>
    cases read
    exact addresses_nil root
  case h_5 => cases read

theorem addresses_node (stands : root.StandsAt location label source)
    (json : source.IsJson) {node : Node}
    (read : Node.read source = .ok (some node)) (package : Value) :
    root.Addresses (node.formulaVisits location package) := by
  cases source with
  | scalar | list => cases read
  | mapping entries =>
      unfold Node.read at read
      simp only [Formula.read_field_eq] at read
      obtain ⟨condition, conditionRead, read⟩ := ok_of_bind read
      obtain ⟨repeated, repeatedRead, read⟩ := ok_of_bind read
      obtain ⟨repeatKey, repeatKeyRead, read⟩ := ok_of_bind read
      obtain ⟨children, _, read⟩ := ok_of_bind read
      obtain ⟨names, _, read⟩ := ok_of_bind read
      obtain ⟨body, bodyRead, made⟩ := ok_of_bind read
      obtain ⟨inner, rfl, made⟩ := Option.map_eq_some_iff.mp (Except.ok.inj made)
      cases made
      exact (((addresses_field stands json conditionRead package).append
        (addresses_field stands json repeatedRead package)).append
        (addresses_field stands json repeatKeyRead package)).append
        (addresses_body stands json bodyRead package)

theorem addresses_route (stands : root.StandsAt [.key "route", .key "info"] label source)
    (json : source.IsJson)
    {route : Option RouteInfo} (read : RouteInfo.read source = .ok route) (package : Value) :
    root.Addresses (RouteInfo.formulaVisits package route) := by
  unfold RouteInfo.read at read
  split at read
  · cases read
    exact addresses_nil root
  · obtain ⟨title, titleRead, read⟩ := ok_of_bind read
    obtain ⟨description, descriptionRead, made⟩ := ok_of_bind read
    cases made
    exact (addresses_field (stands.key "title") (json.field _) titleRead package).append
      (addresses_field (stands.key "description") (json.field _) descriptionRead package)

theorem formula_of_component_formula {name : String} {formula : ComponentFormula}
    (read : ComponentFormula.read name source = .ok (some formula)) :
    source.HoldsFormula "formula" formula.formula := by
  cases source with
  | scalar | list => cases read
  | mapping entries =>
      unfold ComponentFormula.read at read
      simp only [Formula.read_field_eq] at read
      obtain ⟨inner, innerRead, read⟩ := ok_of_bind read
      obtain ⟨arguments, _, made⟩ := ok_of_bind read
      cases made
      exact innerRead

theorem actions_of_workflow {name : String} {workflow : Workflow}
    (read : Workflow.read name source = .ok (some workflow)) :
    source.HoldsActions workflow.actions := by
  cases source with
  | scalar | list => cases read
  | mapping entries =>
      unfold Workflow.read at read
      simp only [Action.read_actions_field_eq] at read
      obtain ⟨actions, actionsRead, read⟩ := ok_of_bind read
      obtain ⟨parameters, _, read⟩ := ok_of_bind read
      obtain ⟨callbacks, _, made⟩ := ok_of_bind read
      cases made
      exact actionsRead

theorem addresses_component (json : source.IsJson) {component : Component}
    (read : Component.read source = .ok (some component)) (package : Value) :
    source.Addresses (component.formulaVisits package) := by
  have stands := stands_at_root source
  cases source with
  | scalar | list => cases read
  | mapping entries =>
      unfold Component.read at read
      obtain ⟨formulas, formulasRead, read⟩ := ok_of_bind read
      obtain ⟨workflows, workflowsRead, read⟩ := ok_of_bind read
      obtain ⟨initialValues, initialValuesRead, read⟩ := ok_of_bind read
      obtain ⟨apis, apisRead, read⟩ := ok_of_bind read
      obtain ⟨nodes, nodesRead, read⟩ := ok_of_bind read
      obtain ⟨route, routeRead, read⟩ := ok_of_bind read
      obtain ⟨name, _, read⟩ := ok_of_bind read
      obtain ⟨onLoad, loadRead, read⟩ := ok_of_bind read
      obtain ⟨onAttributeChange, changeRead, made⟩ := ok_of_bind read
      cases made
      have formulaVisits :=
        addresses_flat_map fun (entry : String × ComponentFormula) member => addresses_field
        ((stands.key "formulas").key entry.1) ((json.field _).field _)
        (formula_of_component_formula (section_entry (json.field "formulas") formulasRead member))
          package
      have workflowVisits :=
        addresses_flat_map fun (entry : String × Workflow) member => addresses_actions
        ((stands.key "workflows").key entry.1) ((json.field _).field _)
        (actions_of_workflow (section_entry (json.field "workflows") workflowsRead member)) package
      have apiVisits :=
        addresses_flat_map fun (entry : String × ComponentApi) member => addresses_api
        ((stands.key "apis").key entry.1) ((json.field _).field _)
        (section_entry (json.field "apis") apisRead member) package
      have nodeVisits := addresses_flat_map fun (entry : String × Node) member => addresses_node
        ((stands.key "nodes").key entry.1) ((json.field _).field _)
        (section_entry (json.field "nodes") nodesRead member) package
      exact (((((((addresses_route ((stands.key "route").key "info") ((json.field _).field _) routeRead package).append
        formulaVisits).append
        (addresses_inner_formulas (stands.key "variables")
          (json.field _) initialValuesRead package)).append
        workflowVisits).append
        apiVisits).append
        (addresses_event (stands.key "onLoad") (json.field _) loadRead package)).append
        (addresses_event (stands.key "onAttributeChange") (json.field _) changeRead package)).append
        nodeVisits

theorem object_of_formula {formula : Formula} (read : Formula.read source = .ok (some formula)) :
    source.isObject = true := by
  cases object : source.isObject with
  | true => rfl
  | false =>
      rw [Formula.read_of_no_object object] at read
      cases read

end Value

/-- The location of every visited formula leads to the object it was read from, where positions
count the entries that were kept; it does so in the document itself if no entry was left out up to
the ones that the location goes through. -/
theorem locations_address_read_formulas {source : Value}
    (json : source.IsJson) {component : Component}
    (read : Component.read source = .ok (some component)) (package : Value) :
    ∀ visit ∈ component.formulaVisits package, ∃ found,
    source.reach? "" visit.location = some found ∧
      found.isObject = true ∧ Formula.read found = .ok (some visit.formula) ∧
      (source.IsStraight "" visit.location → source.descend? visit.location = some found) := by
  intro visit member
  obtain ⟨found, reached, foundRead⟩ := Value.addresses_component json read package visit member
  refine ⟨found, reached, Value.object_of_formula foundRead, foundRead, fun straight => ?_⟩
  rw [Value.descend_of_straight straight, reached]

open Value in
/-- A page with an entry among the arguments that is no object, and with named formulas as an
object. -/
def resultPage : Value :=
  object [("name", text "Results"),
    ("formulas", object
      [("bounds", object [("formula", object [("type", text "array"), ("arguments",
      list [object [("formula", object [("type", text "value"), ("value", int 1)])], text "to",
        object [("formula",
          object [("type", text "path"), ("path", list [text "Variables", text "last"])])]])])])]),
    ("onLoad", object [("actions", list [object [("type", text "SetURLParameters"), ("parameters",
      object [("page",
        object [("formula", object [("type", text "value"), ("value", int 1)])])])]])])]

theorem result_page_is_json : resultPage.IsJson := by
  simp [resultPage, Value.IsJson, Value.object, Value.content?, Value.contents?,
    Value.fields?, Scalar.content?, Scalar.text?, Content.ofFields?]

theorem result_page_is_addressed : ∃ component, resultPage.IsJson ∧
    Component.read resultPage = .ok (some component) ∧
    (∀ visit ∈ component.formulaVisits .null, ∃ found, resultPage.reach? "" visit.location =
      some found ∧
      found.isObject = true ∧ Formula.read found = .ok (some visit.formula) ∧
      (resultPage.IsStraight "" visit.location → resultPage.descend? visit.location = some found)) ∧
    resultPage.IsStraight ""
      [.key "formulas", .key "bounds", .key "formula", .key "arguments", .index 0, .key "formula"] ∧
    (component.formulaVisits .null).map FormulaVisit.location =
      [[.key "formulas", .key "bounds", .key "formula"],
        [.key "formulas", .key "bounds", .key "formula", .key "arguments",
          .index 0, .key "formula"],
        [.key "formulas", .key "bounds", .key "formula", .key "arguments",
          .index 1, .key "formula"],
        [.key "onLoad", .key "actions", .index 0, .key "parameters",
          .index 0, .key "formula"]] := by
  refine ⟨_, result_page_is_json, rfl,
    locations_address_read_formulas result_page_is_json rfl .null, ?_, rfl⟩
  simp [resultPage, Value.object, Value.IsStraight, Value.field?, Keyed.find?,
    Value.same_text_iff, Value.isKept, Value.isObject]

theorem positions_lead_astray : ∃ component, resultPage.IsJson ∧
    Component.read resultPage = .ok (some component) ∧
    ∃ visit ∈ component.formulaVisits .null,
      visit.location =
      [.key "onLoad", .key "actions", .index 0, .key "parameters", .index 0, .key "formula"] ∧
      resultPage.descend? visit.location = none := by
  refine ⟨_, result_page_is_json, rfl, _, List.mem_of_getElem? (i := 3) rfl, rfl, rfl⟩

end Interplay
