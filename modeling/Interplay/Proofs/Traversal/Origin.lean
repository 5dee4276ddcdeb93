import Interplay.Proofs.Traversal.Place
import Interplay.Proofs.Traversal.Reading

/-!
Where the places of a tree come from.

Every place of a tree that was read from a document was read from some part of it, and the location
of the place leads to that part once positions count the entries that were kept.  The bodies of an
action that was read from a JSON value have different names.
-/

namespace Interplay
namespace Place

open Value (HoldsFormula HoldsActions)

/-- A place was read from a part of a document; items of a list stand in a list of the given
label. -/
def IsReadFrom (label : String) (source : Value) : Place → Prop
  | formula inner => Formula.read source = .ok (some inner)
  | arguments items =>
    Each (fun entry item => entry.HoldsFormula "formula" item.formula) (source.kept label) items
  | argument item => source.HoldsFormula "formula" item.formula
  | formulaCases cases =>
    Each (fun entry branch => entry.HoldsFormula "condition" branch.condition ∧
      entry.HoldsFormula "formula" branch.result) (source.kept label) cases
  | formulaCase branch =>
    source.HoldsFormula "condition" branch.condition ∧ source.HoldsFormula "formula" branch.result
  | namedFormulas items =>
    Each (fun entry item => entry.HoldsFormula "formula" item.formula) (source.kept label) items
  | namedFormula item => source.HoldsFormula "formula" item.formula
  | action inner => Action.read source = .ok (some inner)
  | actions items =>
    Each (fun entry item => Action.read entry = .ok (some item)) (source.kept label) items
  | body items => source.HoldsActions items
  | bodies events =>
    (events.map ActionBody.name).Nodup ∧
      ∀ event ∈ events, (source.field event.name).HoldsActions event.actions
  | actionCases cases =>
    Each (fun entry branch => entry.HoldsFormula "condition" branch.condition ∧
      entry.HoldsActions branch.actions) (source.kept label) cases
  | actionCase branch =>
    source.HoldsFormula "condition" branch.condition ∧ source.HoldsActions branch.actions

variable {label : String} {source : Value} {segment : Segment} {place part : Place}

theorem kept_part_of_key (label name : String) (source : Value) :
    (source.keptPart? label (.key name)).getD .null = source.field name :=
  Value.field_of_field? source name

theorem under_read {key : String} {found : Option Formula} (holds : source.HoldsFormula key found)
    (member : (segment, part) ∈ under key found) :
    part.IsReadFrom (segment.label label) ((source.keptPart? label segment).getD .null) := by
  obtain ⟨inner, rfl, rfl, rfl⟩ := formula_of_under member
  rw [kept_part_of_key]
  exact holds

theorem numbered_read {α : Type} {Item : Value → α → Prop} {place : α → Place} {items : List α}
    (member : (segment, part) ∈ numbered place 0 items) (each : Each Item (source.kept label) items)
    (same : ∀ entry item, Item entry item → (place item).IsReadFrom label entry) :
    part.IsReadFrom (segment.label label) ((source.keptPart? label segment).getD .null) := by
  obtain ⟨index, item, rfl, listed, rfl⟩ := item_of_numbered member
  obtain ⟨entry, found, held⟩ := each index item listed
  rw [Nat.zero_add, Value.keptPart?, found]
  exact same entry item held

theorem formula_part_read {inner : Formula} (read : Formula.read source = .ok (some inner))
    (member : (segment, part) ∈ (formula inner).parts) :
    part.IsReadFrom (segment.label label) ((source.keptPart? label segment).getD .null) := by
  have parts := Formula.parts_of_read read
  cases inner with
  | value | path => cases member
  | switch cases fallback =>
      rcases List.mem_cons.mp member with same | last
      · cases same
        rw [kept_part_of_key]
        exact Formula.each_case parts.1
      · exact under_read parts.2 last
  | function | apply | object | record | array | or | and =>
      cases List.mem_singleton.mp member
      rw [kept_part_of_key]
      exact (Formula.each_argument parts).weaken fun _ _ held => held.1

theorem action_part_read (json : source.IsJson) {inner : Action}
    (read : Action.read source = .ok (some inner))
    (member : (segment, part) ∈ (action inner).parts) :
    part.IsReadFrom (segment.label label) ((source.keptPart? label segment).getD .null) := by
  have parts := Action.parts_of_read read
  cases inner with
  | abortFetch => cases member
  | setVariable | triggerEvent | triggerWorkflowCallback | setUrlParameter =>
      exact under_read parts member
  | setUrlParameters =>
      cases List.mem_singleton.mp member
      rw [kept_part_of_key]
      exact NamedFormula.each_named (by simp [Segment.label]) parts
  | fetch =>
      obtain ⟨inputs, onSuccess, onError, onMessage⟩ := parts
      simp only [Place.parts, List.mem_cons, List.not_mem_nil, or_false, Prod.mk.injEq] at member
      rcases member with ⟨rfl, rfl⟩ | ⟨rfl, rfl⟩ | ⟨rfl, rfl⟩ | ⟨rfl, rfl⟩ <;> rw [kept_part_of_key]
      · exact NamedFormula.each_named (by simp [Segment.label]) inputs
      · exact onSuccess
      · exact onError
      · exact onMessage
  | custom | triggerWorkflow =>
      obtain ⟨items, events⟩ := parts
      simp only [Place.parts, List.mem_cons, List.not_mem_nil, or_false, Prod.mk.injEq] at member
      rcases member with ⟨rfl, rfl⟩ | ⟨rfl, rfl⟩ <;> rw [kept_part_of_key]
      · exact NamedFormula.each_named (by simp [Segment.label]) items
      · exact Action.bodies_of_map (json.field _) events
  | switch cases fallback data =>
      obtain ⟨casesRead, fallbackRead, dataRead⟩ := parts
      rcases List.mem_append.mp member with first | others
      · exact under_read dataRead first
      · rcases List.mem_cons.mp others with same | last
        · cases same
          rw [kept_part_of_key]
          exact Action.each_case casesRead
        · obtain ⟨items, rfl, rfl, rfl⟩ := body_of_body_under last
          rw [kept_part_of_key]
          exact Action.actions_of_fallback fallbackRead

theorem part_read (json : source.IsJson) (read : place.IsReadFrom label source)
    (member : (segment, part) ∈ place.parts) :
    part.IsReadFrom (segment.label label) ((source.keptPart? label segment).getD .null) := by
  cases place with
  | formula inner => exact formula_part_read read member
  | action inner => exact action_part_read json read member
  | arguments | formulaCases | namedFormulas | actions | actionCases =>
      exact numbered_read member read fun _ _ held => held
  | argument | namedFormula => exact under_read read member
  | formulaCase branch =>
      rcases List.mem_append.mp member with first | second
      · exact under_read read.1 first
      · exact under_read read.2 second
  | actionCase branch =>
      rcases List.mem_append.mp member with first | second
      · exact under_read read.1 first
      · cases List.mem_singleton.mp second
        rw [kept_part_of_key]
        exact Action.each_action read.2
  | body items =>
      cases List.mem_singleton.mp member
      rw [kept_part_of_key]
      exact Action.each_action read
  | bodies events =>
      obtain ⟨event, listed, same⟩ := List.mem_map.mp member
      cases same
      rw [kept_part_of_key]
      exact read.2 event listed

/-- The place at a location was read from the part of the document at that location. -/
theorem follow_read (json : source.IsJson) (read : place.IsReadFrom label source)
    {location : Location} {found : Place} (led : place.follow location = some found) :
    found.IsReadFrom (location.foldl Segment.label label)
      ((source.reach? label location).getD .null) := by
  induction location generalizing label source place with
  | nil =>
      cases led
      exact read
  | cons segment rest ih =>
      obtain ⟨part, listed, led⟩ := Option.bind_eq_some_iff.mp led
      have inner :=
        ih (json.keptPart label segment) (part_read json read (mem_parts_of_found listed)) led
      -- what is missing in the document was read like null, and so is all that lies behind it
      rw [List.foldl_cons, Value.reach?]
      cases present : source.keptPart? label segment with
      | none =>
          rw [present, Option.getD_none, Value.reach_null] at inner
          exact inner
      | some value =>
          rw [present, Option.getD_some] at inner
          exact inner

theorem distinct_of_read (json : source.IsJson) (read : place.IsReadFrom label source) :
    place.HasDistinctBodies :=
  fun _ _ led => (follow_read json read led).1

theorem formula_reached (json : source.IsJson)
    (read : place.IsReadFrom label source) {location : Location}
    {inner : Formula} (led : place.follow location = some (formula inner)) :
    ∃ found, source.reach? label location = some found ∧ Formula.read found = .ok (some inner) := by
  have reached : Formula.read ((source.reach? label location).getD .null) = .ok (some inner) :=
    follow_read json read led
  cases present : source.reach? label location with
  | none =>
      rw [present, Option.getD_none, Formula.read_null] at reached
      cases reached
  | some found =>
      rw [present] at reached
      exact ⟨found, rfl, reached⟩

end Place
end Interplay
