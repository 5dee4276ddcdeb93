import Interplay.Traversal.Actions

/-!
What a walk over actions finds.

A walk lists the same actions wherever it starts, and whatever it finds in a list nested directly in
an action it finds in the action.
-/

namespace Interplay
namespace Action

mutual

theorem visited_anywhere (location other : Location) : (action : Action) →
    (visits location action).map ActionVisit.action = (visits other action).map ActionVisit.action
  | .fetch name inputs onSuccess onError onMessage => by
      simp only [visits, List.map_append, List.map_cons]
      rw [visited_anywhere_of _ (other ++ [.key "onSuccess", .key "actions"]) 0 0 onSuccess,
        visited_anywhere_of _ (other ++ [.key "onError", .key "actions"]) 0 0 onError,
        visited_anywhere_of _ (other ++ [.key "onMessage", .key "actions"]) 0 0 onMessage]
  | .custom name package arguments events => by
      simp only [visits, List.map_cons]
      rw [bodies_visited_anywhere _ (other ++ [.key "events"]) events]
  | .triggerWorkflow name parameters callbacks provider package => by
      simp only [visits, List.map_cons]
      rw [bodies_visited_anywhere _ (other ++ [.key "callbacks"]) callbacks]
  | .switch cases fallback data => by
      simp only [visits, List.map_append, List.map_cons]
      rw [cases_visited_anywhere _ other 0 0 cases,
        fallback_visited_anywhere _ (other ++ [.key "default", .key "actions"]) fallback]
  | .setVariable .. => rfl
  | .triggerEvent .. => rfl
  | .abortFetch _ => rfl
  | .setUrlParameter .. => rfl
  | .setUrlParameters .. => rfl
  | .triggerWorkflowCallback .. => rfl

theorem visited_anywhere_of (location other : Location) (position place : Nat) :
    (actions : List Action) →
    (visitsOf location position actions).map ActionVisit.action =
      (visitsOf other place actions).map ActionVisit.action
  | [] => rfl
  | action :: rest => by
      simp only [visitsOf, List.map_append]
      rw [visited_anywhere _ (other ++ [.index place]) action,
        visited_anywhere_of location other (position + 1) (place + 1) rest]

theorem bodies_visited_anywhere (location other : Location) : (bodies : List ActionBody) →
    (bodyVisits location bodies).map ActionVisit.action =
    (bodyVisits other bodies).map ActionVisit.action
  | [] => rfl
  | .mk name actions :: rest => by
      simp only [bodyVisits, List.map_append]
      rw [visited_anywhere_of _ (other ++ [.key name, .key "actions"]) 0 0 actions,
        bodies_visited_anywhere location other rest]

theorem cases_visited_anywhere (location other : Location) (position place : Nat) :
    (cases : List ActionCase) →
    (caseVisits location position cases).map ActionVisit.action =
      (caseVisits other place cases).map ActionVisit.action
  | [] => rfl
  | .mk _ actions :: rest => by
      simp only [caseVisits, List.map_append]
      rw [visited_anywhere_of _ (other ++ [.key "cases", .index place, .key "actions"]) 0 0 actions,
        cases_visited_anywhere location other (position + 1) (place + 1) rest]

theorem fallback_visited_anywhere (location other : Location) : (fallback : Option (List Action)) →
    (fallbackVisits location fallback).map ActionVisit.action =
      (fallbackVisits other fallback).map ActionVisit.action
  | none => rfl
  | some actions => visited_anywhere_of location other 0 0 actions

end

def Sets (name : String) (actions : List Action) : Prop :=
  ∃ visit ∈ visitsOf [] 0 actions, ∃ data, visit.action = .setVariable name data

theorem sets_iff_visited {name : String} {actions : List Action}
    (location : Location) (position : Nat) :
    Sets name actions ↔
      ∃ data, .setVariable name data ∈ (visitsOf location position actions).map
        ActionVisit.action := by
  rw [visited_anywhere_of location [] position 0 actions]
  constructor
  · rintro ⟨visit, found, data, same⟩
    exact ⟨data, List.mem_map.mpr ⟨visit, found, same⟩⟩
  · rintro ⟨data, member⟩
    obtain ⟨visit, found, same⟩ := List.mem_map.mp member
    exact ⟨visit, found, data, same⟩

theorem sets_cons {name : String} {action : Action} {rest : List Action} :
    Sets name (action :: rest) ↔ Sets name [action] ∨ Sets name rest := by
  have later : Sets name rest ↔ _ := sets_iff_visited [] (0 + 1)
  rw [sets_iff_visited [] 0, sets_iff_visited [] 0, later]
  simp only [visitsOf, List.append_nil, List.map_append, List.mem_append]
  exact exists_or

theorem sets_of_member {name : String} {action : Action} {actions : List Action}
    (member : action ∈ actions) (sets : Sets name [action]) : Sets name actions := by
  induction member with
  | head => exact sets_cons.mpr (.inl sets)
  | tail _ _ ih => exact sets_cons.mpr (.inr ih)

def bodies : Action → List (List Action)
  | fetch _ _ onSuccess onError onMessage => [onSuccess, onError, onMessage]
  | custom _ _ _ events => events.map ActionBody.actions
  | triggerWorkflow _ _ callbacks _ _ => callbacks.map ActionBody.actions
  | switch cases fallback _ => cases.map ActionCase.actions ++ fallback.toList
  | _ => []

theorem body_visits_of_member {body : ActionBody} {events : List ActionBody}
    (member : body ∈ events) (location : Location) :
    (visitsOf [] 0 body.actions).map ActionVisit.action ⊆
    (bodyVisits location events).map ActionVisit.action := by
  induction member with
  | head rest =>
      obtain ⟨name, actions⟩ := body
      simp only [bodyVisits, List.map_append, ActionBody.actions]
      rw [visited_anywhere_of [] (location ++ [.key name, .key "actions"]) 0 0 actions]
      exact List.subset_append_left _ _
  | tail other _ ih =>
      obtain ⟨name, actions⟩ := other
      simp only [bodyVisits, List.map_append]
      exact List.subset_append_of_subset_right _ ih

theorem case_visits_of_member {branch : ActionCase} {cases : List ActionCase}
    (member : branch ∈ cases) (location : Location) (position : Nat) :
    (visitsOf [] 0 branch.actions).map ActionVisit.action ⊆
      (caseVisits location position cases).map ActionVisit.action := by
  induction member generalizing position with
  | head rest =>
      obtain ⟨condition, actions⟩ := branch
      simp only [caseVisits, List.map_append, ActionCase.actions]
      rw [visited_anywhere_of []
        (location ++ [.key "cases", .index position, .key "actions"]) 0 0 actions]
      exact List.subset_append_left _ _
  | tail other _ ih =>
      obtain ⟨condition, actions⟩ := other
      simp only [caseVisits, List.map_append]
      exact List.subset_append_of_subset_right _ (ih (position + 1))

theorem sets_of_body {name : String} {action : Action} {body : List Action}
    (member : body ∈ action.bodies) (sets : Sets name body) : Sets name [action] := by
  rw [sets_iff_visited [] 0] at sets
  obtain ⟨data, found⟩ := sets
  have visited : .setVariable name data ∈ (visits [.index 0] action).map ActionVisit.action := by
    cases action with
    | fetch called inputs onSuccess onError onMessage =>
        simp only [visits, List.map_append, List.map_cons, List.mem_append, List.mem_cons]
        rw [visited_anywhere_of _ [] 0 0 onSuccess, visited_anywhere_of _ [] 0 0 onError,
          visited_anywhere_of _ [] 0 0 onMessage]
        simp only [bodies, List.mem_cons, List.not_mem_nil, or_false] at member
        rcases member with rfl | rfl | rfl
        · exact .inl (.inl (.inr found))
        · exact .inl (.inr found)
        · exact .inr found
    | custom called package arguments events =>
        obtain ⟨event, listed, rfl⟩ := List.mem_map.mp member
        simp only [visits, List.map_cons]
        exact List.mem_cons_of_mem _ (body_visits_of_member listed _ found)
    | triggerWorkflow called parameters callbacks provider package =>
        obtain ⟨callback, listed, rfl⟩ := List.mem_map.mp member
        simp only [visits, List.map_cons]
        exact List.mem_cons_of_mem _ (body_visits_of_member listed _ found)
    | switch cases fallback data =>
        simp only [visits, List.map_append, List.map_cons, List.mem_append, List.mem_cons]
        rcases List.mem_append.mp member with branch | last
        · obtain ⟨branch, listed, rfl⟩ := List.mem_map.mp branch
          exact .inl (.inr (case_visits_of_member listed _ _ found))
        · cases fallback with
          | none => cases last
          | some actions =>
              obtain rfl := List.mem_singleton.mp last
              refine .inr ?_
              simp only [fallbackVisits]
              rw [visited_anywhere_of _ [] 0 0]
              exact found
    | setVariable | triggerEvent | abortFetch | setUrlParameter | setUrlParameters | triggerWorkflowCallback =>
        cases member
  refine (sets_iff_visited [] 0).mpr ⟨data, ?_⟩
  simpa only [visitsOf, List.append_nil, List.nil_append] using visited

theorem sets_set_variable (name : String) (data : Option Formula) :
    Sets name [.setVariable name data] :=
  ⟨_, List.mem_cons_self, data, rfl⟩

theorem body_of_find {name : String} {events : List ActionBody} {actions : List Action}
    (found : ActionBody.find? name events = some actions) : ∃ body ∈ events,
    body.actions = actions := by
  induction events with
  | nil => cases found
  | cons event rest ih =>
      obtain ⟨called, listed⟩ := event
      unfold ActionBody.find? at found
      split at found
      · cases found
        exact ⟨_, List.mem_cons_self, rfl⟩
      · obtain ⟨body, member, same⟩ := ih found
        exact ⟨body, List.mem_cons_of_mem _ member, same⟩

end Action
end Interplay
