import Interplay.Proofs.Execute.Accounts
import Interplay.Proofs.Execute.Tallies

/-!
Ledgers are kept.

Whatever actions, continuations and deferred work do, an execution with a ledger does what the
execution does, keeps signals in order and keeps the books: its tallies of cleanups are right, and
so are its accounts of promises and deferred work.
-/

namespace Interplay
namespace Execute

open Run
open Signal (Agenda Answers Happening Law LeadsFrom Observed Observes Proceeds announcements)

variable {α β : Type}

/-- The books of a ledger, with what steps under way still have to do. -/
structure InBooks (setting : Setting) (opened : World) (debts : Debts) (ledger : Ledger) :
    Prop where
  tallies : Tallies setting opened ledger
  accounts : Accounts debts (announcements ledger.happenings) ledger.stage

theorem announcements_told (ledger : Ledger) (announcement : Announcement) :
    announcements (ledger.told (.own announcement)).happenings =
    announcements ledger.happenings ++ [announcement] :=
  Signal.announcements_append ledger.happenings [.own announcement]

theorem announcements_routine {happenings : List (Happening Announcement)}
    (routine : ∀ happening ∈ happenings, happening.IsRoutine) : announcements happenings = [] := by
  refine List.filterMap_eq_nil_iff.mpr fun happening member => ?_
  have plain := routine happening member
  cases happening with
  | own announcement => exact plain.elim
  | _ => rfl

namespace InBooks

variable {setting : Setting} {opened : World} {debts : Debts} {ledger : Ledger}

/-- Changes of the stage that leave promises and the queue. -/
theorem rehosted (books : InBooks setting opened debts ledger) {stage : Stage}
    (promises : stage.promises = ledger.stage.promises) (queue : stage.queue = ledger.stage.queue)
    (loop : stage.hasLoop = ledger.stage.hasLoop) : InBooks setting opened debts
    (ledger.rehost stage) where
  tallies := books.tallies.rehosted stage
  accounts :=
    { pledged := promises ▸ books.accounts.pledged
      worked := queue ▸ loop ▸ books.accounts.worked }

theorem called (books : InBooks setting opened debts ledger) (plan : Plan) :
    InBooks setting opened debts (ledger.told (.own (.called plan))) where
  tallies := books.tallies.announced (called_is_idle plan)
  accounts := by
    rw [announcements_told]
    exact books.accounts.told (called_is_neutral plan)

theorem released (books : InBooks setting opened debts ledger) {signal : Nat}
    {subscriber : Signal.Subscriber Effect} (knows : Knows ledger.happenings signal subscriber) :
    InBooks setting opened debts ((ledger.told (.released signal subscriber.number)).announcing
      (subscriber.release.opening fun script => some (.called script))) where
  tallies := books.tallies.released knows
  accounts := by
    have told : announcements (ledger.told (.released signal subscriber.number)).happenings =
        announcements ledger.happenings := by
      rw [Signal.Store.happenings_told, Signal.announcements_append]
      exact List.append_nil _
    have called : ∀ plan : Plan, Accounts debts (announcements
        ((ledger.told (.released signal subscriber.number)).told (.own (.called plan))).happenings)
        ledger.stage := by
      intro plan
      rw [announcements_told, told]
      exact books.accounts.told (called_is_neutral plan)
    cases subscriber.release with
    | nothing => exact told.symm ▸ books.accounts
    | call run => exact called run
    | destroy target => exact called _

end InBooks

def bookkeeping (setting : Setting) (opened : World) (debts : Debts) :
    Law Effect Announcement Stage where
  holds := InBooks setting opened debts
  opening plan := some (.called plan)
  knows := Knows
  grows books extension :=
    { tallies := books.tallies.extended extension
      accounts := by
        have same : ∀ {before after : Ledger}, after.host.host = before.host.host →
            after.stage = before.stage := id
        rw [extension.told, Signal.announcements_append,
          announcements_routine extension.routine, List.append_nil, same extension.host]
        exact books.accounts }
  logged _ _ _ books := books.rehosted rfl rfl rfl
  held books member := books.tallies.held _ _ member
  recalls books knows before := by
    obtain ⟨more, same⟩ := before
    rw [← same]
    exact knows.recalled (same ▸ books.tallies.apart)
  enters plan books := books.called plan
  releases books knows := books.released knows

/-- A run with a ledger does what the plain one does, and keeps signals in order and the books. -/
structure KeepsBooks (setting : Setting) (opened : World) (run : Run Ledger α)
    (plain : Run World α) : Prop where
  observes : Observes run plain
  proceeds : ∀ debts, Proceeds (bookkeeping setting opened debts) run

namespace KeepsBooks

variable {setting : Setting} {opened : World}

theorem pure (value : α) : KeepsBooks setting opened (Pure.pure value) (Pure.pure value) :=
  ⟨Recounts.pure value, fun _ => Proceeds.pure value⟩

theorem raise (failure : Failure) :
    KeepsBooks setting opened (Run.raise failure : Run Ledger α) (Run.raise failure) :=
  ⟨Recounts.raise failure, fun _ => Proceeds.raise failure⟩

theorem exhaust : KeepsBooks setting opened (Run.exhaust : Run Ledger α) Run.exhaust :=
  ⟨Recounts.exhaust, fun _ => Proceeds.exhaust⟩

theorem of_except (outcome : Except Failure α) :
    KeepsBooks setting opened (Run.ofExcept outcome : Run Ledger α) (Run.ofExcept outcome) :=
  ⟨Recounts.of_except outcome, fun _ => Proceeds.of_except outcome⟩

theorem bind {run : Run Ledger α} {plain : Run World α} {next : α → Run Ledger β}
    {following : α → Run World β} (first : KeepsBooks setting opened run plain)
    (continues : ∀ value, KeepsBooks setting opened (next value) (following value)) :
    KeepsBooks setting opened (run >>= next) (plain >>= following) :=
  ⟨Recounts.bind first.observes fun value => (continues value).observes,
    fun debts => Proceeds.bind (first.proceeds debts) fun value => (continues value).proceeds debts⟩

theorem attempt {run : Run Ledger α} {plain : Run World α}
    (keeps : KeepsBooks setting opened run plain) :
    KeepsBooks setting opened (Run.attempt run) (Run.attempt plain) :=
  ⟨keeps.observes.attempt, fun debts => (keeps.proceeds debts).attempt⟩

theorem get_bind {next : Ledger → Run Ledger α} {following : World → Run World α}
    (continues : ∀ ledger : Ledger, KeepsBooks setting opened (next ledger)
      (following (ledger.mapHost Observed.host))) :
    KeepsBooks setting opened (Run.get >>= next) (Run.get >>= following) :=
  ⟨Recounts.get_bind fun ledger => (continues ledger).observes,
    fun debts => Proceeds.get_bind fun ledger => (continues ledger).proceeds debts⟩

theorem for_each_indexed {step : Nat → α → Run Ledger Unit} {plain : Nat → α → Run World Unit}
    (keeps : ∀ index item, KeepsBooks setting opened (step index item) (plain index item))
    (start : Nat) (items : List α) :
    KeepsBooks setting opened (Run.forEachIndexed step start items)
      (Run.forEachIndexed plain start items) := by
  induction items generalizing start with
  | nil => exact pure ()
  | cons item rest ih => exact bind (keeps start item) fun _ => ih (start + 1)

theorem choose {test : Prop} [Decidable test] {run alternative : Run Ledger α}
    {plain otherwise : Run World α} (chosen : test → KeepsBooks setting opened run plain)
    (refused : ¬test → KeepsBooks setting opened alternative otherwise) :
    KeepsBooks setting opened (if test then run else alternative)
      (if test then plain else otherwise) := by
  by_cases holds : test
  · rw [if_pos holds, if_pos holds]
    exact chosen holds
  · rw [if_neg holds, if_neg holds]
    exact refused holds

theorem modify_stage (change : Stage → Stage)
    (promises : ∀ stage, (change stage).promises = stage.promises)
    (queue : ∀ stage, (change stage).queue = stage.queue)
    (loop : ∀ stage, (change stage).hasLoop = stage.hasLoop) :
    KeepsBooks setting opened (Run.modify (World.modifyStage change))
      (Run.modify (World.modifyStage change)) :=
  ⟨Recounts.modify fun _ => rfl,
    fun _ => Proceeds.rehost fun _ books => books.rehosted (promises _) (queue _) (loop _)⟩

theorem log (level : LogLevel) (message : String) :
    KeepsBooks setting opened (Run.modify (World.log level message))
      (Run.modify (World.log level message)) :=
  modify_stage (fun stage => { stage with machine := stage.machine.log level .execute message })
    (fun _ => rfl) (fun _ => rfl) fun _ => rfl

theorem warn (message : String) : KeepsBooks setting opened (Execute.warn message)
    (Execute.warn message) :=
  log .warning message

theorem on_machine (body : Run Machine α) :
    KeepsBooks setting opened (onMachine body) (onMachine body) where
  observes := by
    intro ledger
    change ((body ledger.host.host.machine).mapState _).mapState _ =
      (body ledger.host.host.machine).mapState _
    cases body ledger.host.host.machine <;> rfl
  proceeds := by
    intro debts agenda start orderly last left
    have settled : ∀ machine : Machine, World.setMachine machine start = last →
        last.IsOrderly (bookkeeping setting opened debts) agenda ∧
        start.happenings <+: last.happenings := by
      rintro machine rfl
      exact ⟨orderly.rehosted (orderly.lawful.rehosted rfl rfl rfl), List.prefix_refl _⟩
    change ((body start.host.host.machine).mapState fun machine => World.setMachine machine
      start).state? = some last at left
    cases ended : body start.host.host.machine with
    | done value machine =>
        rw [ended] at left
        exact settled machine (Option.some.inj left)
    | raised failure machine =>
        rw [ended] at left
        exact settled machine (Option.some.inj left)
    | exhausted =>
        rw [ended] at left
        cases left

theorem within {body : Run Ledger α} {plain : Run World α} (enter leave : Stage → Stage)
    (keeps : KeepsBooks setting opened body plain)
    (enters : ∀ stage, (enter stage).promises = stage.promises ∧ (enter stage).queue = stage.queue ∧
      (enter stage).hasLoop = stage.hasLoop)
    (leaves : ∀ stage, (leave stage).promises = stage.promises ∧ (leave stage).queue = stage.queue ∧
      (leave stage).hasLoop = stage.hasLoop) :
    KeepsBooks setting opened (Signal.within (Observed.modify enter) (Observed.modify leave) body)
      (Signal.within enter leave plain) :=
  ⟨Signal.observes_within enter leave keeps.observes,
    fun debts => Proceeds.within (keeps.proceeds debts)
    (fun _ books => books.rehosted (enters _).1 (enters _).2.1 (enters _).2.2)
    fun _ books => books.rehosted (leaves _).1 (leaves _).2.1 (leaves _).2.2⟩

theorem trail {body : Run Ledger α} {plain : Run World α} (number : Nat) (kind name : String)
    (keeps : KeepsBooks setting opened body plain) :
    KeepsBooks setting opened (onTrail number kind name body) (onTrail number kind name plain) :=
  within (fun stage => { stage with machine := stage.machine.pushStep number kind name })
    (fun stage => { stage with machine := stage.machine.popStep number }) keeps
    (fun _ => ⟨rfl, rfl, rfl⟩)
    fun _ => ⟨rfl, rfl, rfl⟩

theorem under_workflow_eq {υ : Type} [Staged υ] (number : Nat) (key : String)
    (body : Run (World υ) α) :
    underWorkflow number key body = Run.get >>= fun (world : World υ) =>
      Run.ofExcept ((world.workflows number).enter key) >>= fun entered => fun world =>
        Run.ensuring (World.modifyWorkflows number (Cycle.Workflow.leave key)) body
          (world.modifyWorkflows number fun _ => entered) := by
  funext world
  change underWorkflow number key body world = Run.bind
    (Run.ofExcept ((world.workflows number).enter key)) _ world
  unfold underWorkflow
  cases (world.workflows number).enter key <;> rfl

theorem workflow {body : Run Ledger α} {plain : Run World α} (number : Nat) (key : String)
    (keeps : KeepsBooks setting opened body plain) :
    KeepsBooks setting opened (underWorkflow number key body) (underWorkflow number key plain) := by
  rw [under_workflow_eq, under_workflow_eq]
  refine get_bind fun ledger => bind (of_except _) fun entered => ?_
  exact within (fun stage =>
    { stage with workflows := stage.workflows.modify number fun _ => entered })
    (fun stage =>
      { stage with workflows := stage.workflows.modify number (Cycle.Workflow.leave key) }) keeps
    (fun _ => ⟨rfl, rfl, rfl⟩) fun _ => ⟨rfl, rfl, rfl⟩

theorem timed {body : Run Ledger α} {plain : Run World α} (number : Nat)
    (name category budget : Value) (keeps : KeepsBooks setting opened body plain) :
    KeepsBooks setting opened (Execute.timed number name category budget body)
      (Execute.timed number name category budget plain) := by
  have closed : ∀ since, KeepsBooks setting opened
      (Run.followedBy (onMachine (Machine.finishTiming number name category budget since)) body)
      (Run.followedBy (onMachine (Machine.finishTiming number name category budget since)) plain) :=
    fun since =>
      have finishes := on_machine (Machine.finishTiming number name category budget since)
      ⟨Signal.observes_followed_by finishes.observes keeps.observes,
        fun debts => Proceeds.followed_by (finishes.proceeds debts) (keeps.proceeds debts)⟩
  change KeepsBooks setting opened
    (Run.get >>= fun (ledger : Ledger) =>
      Run.followedBy
        (onMachine (Machine.finishTiming number name category budget ledger.machine.now)) body)
    (Run.get >>= fun (world : World) =>
      Run.followedBy
        (onMachine (Machine.finishTiming number name category budget world.machine.now)) plain)
  exact get_bind fun ledger => closed ledger.machine.now

/-- An announcement that calls for nothing and says nothing of promises and deferred work. -/
theorem heed {announcement : Announcement} (idle : announcement.IsIdle)
    (neutral : announcement.IsNeutral) :
    KeepsBooks setting opened ((Means.written setting).heed announcement)
      ((Means.silent (υ := Stage) setting).heed announcement) where
  observes := fun _ => rfl
  proceeds := by
    intro debts agenda start orderly
    have accounts : Accounts debts (announcements (start.told (.own announcement)).happenings)
        (World.stage start) := by
      rw [announcements_told]
      exact orderly.lawful.accounts.told neutral
    exact Signal.leads_from_modify
      ⟨orderly.custody.announced announcement, orderly.turn.announced announcement,
      orderly.lawful.tallies.announced idle, accounts⟩ (List.prefix_append _ _)

end KeepsBooks

end Execute
end Interplay
