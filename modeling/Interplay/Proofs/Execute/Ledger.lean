import Interplay.Proofs.Execute.Interleaving
import Interplay.Proofs.Signal.Proceeding

/-!
Execution with a ledger.

Surroundings that write down whatever happens to signals also take down what executions announce.
The ledger says which cleanups were delivered, by custom actions that return them, by promises and
by deferred work, and what became of them.
-/

namespace Interplay
namespace Signal

variable {κ : Type}

def Happening.own? : Happening κ → Option κ
  | own event => some event
  | _ => none

def announcements (happenings : List (Happening κ)) : List κ :=
  happenings.filterMap Happening.own?

def Happening.attached? : Happening κ → Option Nat
  | attached _ subscriber _ => some subscriber
  | _ => none

def attachments (happenings : List (Happening κ)) : List Nat :=
  happenings.filterMap Happening.attached?

theorem mem_attachments {happenings : List (Happening κ)} {subscriber : Nat} :
    subscriber ∈ attachments happenings ↔
    ∃ signal live, .attached signal subscriber live ∈ happenings := by
  constructor
  · intro member
    obtain ⟨happening, listed, same⟩ := List.mem_filterMap.mp member
    cases happening <;> cases same
    exact ⟨_, _, listed⟩
  · rintro ⟨signal, live, member⟩
    exact List.mem_filterMap.mpr ⟨_, member, rfl⟩

@[simp] theorem attachments_append (first second : List (Happening κ)) :
    attachments (first ++ second) = attachments first ++ attachments second :=
  List.filterMap_append

@[simp] theorem announcements_append (first second : List (Happening κ)) :
    announcements (first ++ second) = announcements first ++ announcements second :=
  List.filterMap_append

end Signal

namespace Execute

open Signal (Happening Observed)

/-- Surroundings in which whatever happens to signals is written down. -/
instance {κ : Type} : Staged (Observed κ Stage) where
  stage := Observed.host
  restage := Observed.modify
  write := Signal.observedWrite
  attach := Signal.observedAttach
  clean := Signal.observedClean
  destroy := Signal.observedDestroy
  runScript := Signal.observedScript

/-- A world with all that happened in it. -/
abbrev Ledger := World (Observed Announcement Stage)

theorem stage_of_plain (ledger : Ledger) :
    World.stage (ledger.mapHost Observed.host) = World.stage ledger :=
  rfl

theorem machine_of_plain (ledger : Ledger) :
    World.machine (ledger.mapHost Observed.host) = World.machine ledger :=
  rfl

theorem stage_told (ledger : Ledger) (happening : Happening Announcement) :
    World.stage (ledger.told happening) = World.stage ledger :=
  rfl

/-- Announcements are taken down in the ledger. -/
def Means.written (setting : Setting) : Means (Observed Announcement Stage) :=
  { Means.silent setting with heed := fun announcement => Signal.announce (.own announcement) }

def ledgerPowers (setting : Setting) (fuel : Nat) : Powers (Observed Announcement Stage) :=
  powersWith setting (.written setting) fuel

/-- An answer hands over a cleanup: a function, or a formula closure, which is called without
arguments. -/
inductive Hands : Signal.Answer Effect → Plan → Prop where
  | function (plan : Plan) : Hands (.cleanup plan) plan
  | closure (handle : Nat) (tag : String) : Hands
      (.value (.closure handle tag)) (closurePlan handle)

theorem hands_iff {answer : Signal.Answer Effect} {plan : Plan} : Hands answer plan ↔
    callable? answer = some plan := by
  constructor
  · intro hands
    cases hands <;> rfl
  · intro called
    unfold callable? at called
    split at called
    · cases called
      exact .function plan
    · cases called
      exact .closure _ _
    · cases called

/-- A cleanup is delivered to an instance: a custom action returned it, or a promise that was
returned is settled with it, or work that was returned ends with it. -/
inductive Announcement.Delivers : Announcement → ActionContext → Plan → Prop where
  | returned {context : ActionContext} {answer : Signal.Answer Effect} {plan : Plan}
      (hands : Hands answer plan) :
      Delivers (.returned context answer) context plan
  | settled (number : Nat) (context : ActionContext) (plan : Plan) :
      Delivers (.informed number context (.cleanup plan)) context plan
  | settledValue {number : Nat} {context : ActionContext} {content : Value} {plan : Plan}
      (hands : Hands (.value content) plan) : Delivers
      (.informed number context (.value content)) context plan
  | awaited {context : ActionContext} {answer : Signal.Answer Effect} {plan : Plan}
      (hands : Hands answer plan) :
      Delivers (.completed (some context) (.ok answer)) context plan

namespace Announcement

theorem delivers_returned {context other : ActionContext}
    {answer : Signal.Answer Effect} {plan : Plan} :
    (Announcement.returned context answer).Delivers other plan ↔
    other = context ∧ callable? answer = some plan := by
  constructor
  · rintro (hands | _ | _ | _)
    exact ⟨rfl, hands_iff.mp hands⟩
  · rintro ⟨rfl, called⟩
    exact .returned (hands_iff.mpr called)

theorem delivers_informed {number : Nat} {context other : ActionContext}
    {settlement : Settlement} {plan : Plan} :
    (Announcement.informed number context settlement).Delivers other plan ↔
      other = context ∧ settlement.result?.bind callable? = some plan := by
  constructor
  · intro delivers
    cases delivers with
    | settled => exact ⟨rfl, rfl⟩
    | settledValue hands => exact ⟨rfl, hands_iff.mp hands⟩
  · rintro ⟨rfl, called⟩
    cases settlement with
    | cleanup kept =>
        cases called
        exact .settled number other plan
    | value content => exact .settledValue (hands_iff.mpr called)
    | failed => cases called
    | cancelled => cases called

theorem delivers_completed {awaiting : Option ActionContext}
    {outcome : Except Failure (Signal.Answer Effect)} {other : ActionContext} {plan : Plan} :
    (Announcement.completed awaiting outcome).Delivers other plan ↔
      awaiting = some other ∧ ∃ answer, outcome = .ok answer ∧ callable? answer = some plan := by
  constructor
  · intro delivers
    cases delivers with
    | awaited hands => exact ⟨rfl, _, rfl, hands_iff.mp hands⟩
  · rintro ⟨rfl, answer, rfl, called⟩
    exact .awaited (hands_iff.mpr called)

theorem Delivers.unique {announcement : Announcement}
    {first second : ActionContext} {plan other : Plan}
    (delivers : announcement.Delivers first plan) (again : announcement.Delivers second other) :
    second = first ∧ other = plan := by
  cases delivers with
  | returned hands =>
      obtain ⟨rfl, called⟩ := delivers_returned.mp again
      exact ⟨rfl, Option.some.inj (called.symm.trans (hands_iff.mp hands))⟩
  | settled number =>
      obtain ⟨rfl, called⟩ := delivers_informed.mp again
      exact ⟨rfl, (Option.some.inj called).symm⟩
  | settledValue hands =>
      obtain ⟨rfl, called⟩ := delivers_informed.mp again
      exact ⟨rfl, Option.some.inj (called.symm.trans (hands_iff.mp hands))⟩
  | awaited hands =>
      obtain ⟨same, answer, found, called⟩ := delivers_completed.mp again
      cases found
      exact ⟨(Option.some.inj same).symm, Option.some.inj (called.symm.trans (hands_iff.mp hands))⟩

end Announcement

/-- What announcements say of a promise: who returned it since it was made, and how it was settled
first. -/
structure Pledge where
  awaited : List ActionContext
  verdict : Option Settlement

/-- How the promise stands: whoever returned it waits until it is settled. -/
def Pledge.promise (pledge : Pledge) : Promise :=
  { waiting := match pledge.verdict with
      | none => pledge.awaited
      | some _ => []
    settlement := pledge.verdict }

def Pledge.dues (pledge : Pledge) : List (ActionContext × Settlement) :=
  match pledge.verdict with
  | none => []
  | some settlement => pledge.awaited.map fun context => (context, settlement)

def pledge (pledges : Array Pledge) : Announcement → Array Pledge
  | .promised => pledges.push { awaited := [], verdict := none }
  | .returned context (.promise number) =>
    pledges.modify number fun pledge => { pledge with awaited := pledge.awaited ++ [context] }
  | .settled number settlement =>
    pledges.modify number fun pledge =>
      { pledge with verdict := pledge.verdict.or (some settlement) }
  | _ => pledges

def pledges (said : List Announcement) : Array Pledge :=
  said.foldl pledge #[]

def Announcement.informed? (number : Nat) : Announcement → Option (ActionContext × Settlement)
  | informed promise context settlement =>
    if promise = number then some (context, settlement) else none
  | _ => none

def informed (number : Nat) (said : List Announcement) : List (ActionContext × Settlement) :=
  said.filterMap (Announcement.informed? number)

def Announcement.deferral? : Announcement → Option (Plan × ActionContext)
  | returned context (.deferred plan) => some (plan, context)
  | _ => none

/-- Work that custom actions returned, each with the context that awaits it. -/
def deferrals (said : List Announcement) : List (Plan × ActionContext) :=
  said.filterMap Announcement.deferral?

def Announcement.start? : Announcement → Option (Plan × ActionContext)
  | begun plan (some context) => some (plan, context)
  | _ => none

/-- Work that somebody awaits and that has started. -/
def starts (said : List Announcement) : List (Plan × ActionContext) :=
  said.filterMap Announcement.start?

def Job.start? : Job → Option (Plan × ActionContext)
  | start plan (some context) => some (plan, context)
  | _ => none

def Announcement.begun? : Announcement → Option (Option ActionContext)
  | begun _ awaiting => some awaiting
  | _ => none

def begunFor (said : List Announcement) : List (Option ActionContext) :=
  said.filterMap Announcement.begun?

def Announcement.completed? : Announcement → Option (Option ActionContext)
  | completed awaiting _ => some awaiting
  | _ => none

def completedFor (said : List Announcement) : List (Option ActionContext) :=
  said.filterMap Announcement.completed?

end Execute
end Interplay
