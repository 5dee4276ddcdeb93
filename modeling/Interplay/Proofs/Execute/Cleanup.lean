import Interplay.Proofs.Execute.Conduct

/-!
Cleanups run once.

Actions, continuations, promises, the queue and the life of signals may come in any order.  Whenever
one is over, each cleanup that was delivered is still held by a signal that is alive and was not
cleaned since, or it has run, and it never runs twice.
-/

namespace Interplay
namespace Execute

open Run
open Signal (Agenda LeadsFrom Observed Observes Proceeds announcements attachments
  leads_from_modify_bind releases)

section Operations

variable {setting : Setting} {opened : World} {first : Runners (Observed Announcement Stage)}
  {second : Runners} (keep : KeepBooks setting opened first second)

include keep

theorem observes_tick :
    Observes (tick setting ⟨.written setting, first⟩) (tick setting ⟨.silent setting, second⟩) := by
  have deferred : ∀ plan awaiting, Observes
      (runDeferred setting ⟨.written setting, first⟩ plan awaiting)
      (runDeferred setting ⟨.silent setting, second⟩ plan awaiting) := by
    intro plan awaiting
    refine Signal.observes_announce _ (Recounts.bind (keep.observes plan).attempt fun outcome => ?_)
    refine Signal.observes_announce _ (Recounts.bind (Recounts.of_except outcome) fun answer => ?_)
    cases awaiting with
    | none => exact Recounts.pure ()
    | some context =>
        cases callable? answer with
        | none => exact Recounts.pure ()
        | some cleanup => exact observes_on_destroy keep context cleanup
  refine Recounts.get_bind fun ledger => ?_
  rw [stage_of_plain]
  cases (World.stage ledger).queue with
  | nil => exact Recounts.pure ()
  | cons job rest =>
      refine Recounts.bind (Recounts.modify fun _ => rfl) fun _ => ?_
      cases job with
      | start plan awaiting =>
          refine Recounts.bind (deferred plan awaiting).attempt fun outcome => ?_
          cases outcome <;> exact Recounts.modify fun _ => rfl
      | finished failed =>
          exact Recounts.choose (fun _ => Recounts.modify fun _ => rfl) fun _ => Recounts.pure ()

theorem proceeds_tick : Proceeds (bookkeeping setting opened .none)
    (tick setting ⟨.written setting, first⟩) := by
  intro agenda start orderly
  refine Signal.leads_from_get_bind ?_
  cases queue : (World.stage start).queue with
  | nil => exact Signal.leads_from_pure () orderly
  | cons job rest =>
      refine leads_from_modify_bind (List.prefix_refl _) ?_
      cases job with
      | start plan awaiting =>
          refine Signal.leads_from_bind
            (Signal.leads_from_attempt (leads_from_deferred keep orderly queue))
            fun outcome => ?_
          cases outcome <;> exact (books_of_enqueue rfl).proceeds .none
      | finished failed =>
          have accounts := orderly.lawful.accounts
          have worked := accounts.worked
          rw [queue] at worked
          have taken :=
            ((IsTidy.of_orderly orderly).staged fun stage => { stage with queue := rest }).orderly
            ⟨accounts.pledged, worked.dequeued rfl⟩
          refine Signal.leads_from_choose (fun _ => ?_) fun _ => Signal.leads_from_pure () taken
          exact (KeepsBooks.log _ _).proceeds .none agenda _ taken

theorem observes_operation (operation : Operation) :
    Observes (operation.runWith setting ⟨.written setting, first⟩)
      (operation.runWith setting ⟨.silent setting, second⟩) := by
  cases operation with
  | execute entries context event dispatch depth =>
      exact (keep.executes entries context event dispatch depth).observes
  | resume number event payload => exact (books_of_resume keep number event payload).observes
  | settle number settlement => exact observes_settle keep number settlement
  | tick => exact observes_tick keep
  | clean signal => exact Signal.observes_tear_down keep.observes signal _
  | destroy signal => exact Signal.observes_destroy keep.observes signal
  | host plan => exact (books_of_perform keep plan).observes

theorem proceeds_operation (operation : Operation) :
    Proceeds (bookkeeping setting opened .none)
      (operation.runWith setting ⟨.written setting, first⟩) := by
  cases operation with
  | execute entries context event dispatch depth =>
      exact (keep.executes entries context event dispatch depth).proceeds .none
  | resume number event payload => exact (books_of_resume keep number event payload).proceeds .none
  | settle number settlement => exact (books_of_settle keep number settlement).proceeds .none
  | tick => exact proceeds_tick keep
  | clean signal => exact Signal.proceeds_tear_down (keep.answers .none) signal _
  | destroy signal => exact Signal.proceeds_destroy (keep.answers .none) signal
  | host plan => exact (books_of_perform keep plan).proceeds .none

end Operations

theorem observes_interleaving (setting : Setting) (opened : World) (fuel : Nat)
    (operations : List Operation) :
    Observes (interleaveWith setting (ledgerPowers setting fuel) operations)
      (interleave setting fuel operations) := by
  rw [interleave_eq]
  exact Recounts.for_each (fun operation => Recounts.bind
    (observes_operation (runners_keep_books setting opened fuel) operation).attempt fun _ =>
      Recounts.pure ()) operations

theorem proceeds_interleaving (setting : Setting) (opened : World) (fuel : Nat)
    (operations : List Operation) :
    Proceeds (bookkeeping setting opened .none)
      (interleaveWith setting (ledgerPowers setting fuel) operations) :=
  Proceeds.for_each (fun operation => Proceeds.bind
    (proceeds_operation (runners_keep_books setting opened fuel) operation).attempt fun _ =>
      Proceeds.pure ()) operations

/-- A world in which nothing happened yet. -/
def World.opened (world : World) : Ledger :=
  world.mapHost fun stage => { host := stage, happenings := [] }

/-- How a ledger accounts for cleanups when all work has come to rest. -/
structure Ledger.IsSettled (setting : Setting) (opened : World) (ledger : Ledger) : Prop where
  /-- A cleanup that is delivered subscribes to the signal of its instance before anything else
  happens, or is run where the life of the signal is over. -/
  registered : ∀ earlier announcement later context plan,
    ledger.happenings = earlier ++ .own announcement :: later → announcement.Delivers context plan →
      ∃ next rest, later = next :: rest ∧ Registers opened earlier
        (setting.instances context.host).signal plan next
  /-- Whoever is torn down runs the cleanup that he subscribed for. -/
  runs : ∀ earlier signal subscriber later plan, ledger.happenings = earlier ++
    .released signal subscriber :: later →
    Ties earlier signal subscriber plan → ∃ rest, later = .own (.called plan) :: rest
  /-- Every cleanup has a subscription of its own. -/
  apart : (attachments ledger.happenings).Nodup
  atMostOnce : (releases ledger.happenings).Nodup
  /-- Subscribers were torn down once their signal is destroyed or was cleaned since, unless host
  code took them off by numbers, and those of cleanups are told to nobody. -/
  exactlyOnce : ∀ earlier signal subscriber later,
    ledger.happenings = earlier ++ .attached signal subscriber true :: later →
      (ledger.cell signal).isDestroyed = true ∨ .emptied signal ∈ later →
      .left signal subscriber ∉ ledger.happenings →
      (releases ledger.happenings).count (signal, subscriber) = 1
  /-- Whoever returned a promise has learned how it was settled, once for each return. -/
  informed : ∀ number (found : Pledge), (pledges (announcements ledger.happenings))[number]? =
    some found →
    found.dues.Perm (informed number (announcements ledger.happenings))
  /-- Work that was returned starts in order, -/
  started : (World.stage ledger).hasLoop = true → deferrals (announcements ledger.happenings) =
    starts (announcements ledger.happenings) ++ (World.stage ledger).queue.filterMap Job.start?
  /-- is called when it starts, -/
  called : ∀ earlier plan awaiting later, ledger.happenings = earlier ++ .own
    (.begun plan awaiting) :: later →
    ∃ rest, later = .own (.called plan) :: rest
  /-- and comes to its end. -/
  completed : begunFor (announcements ledger.happenings) = completedFor
    (announcements ledger.happenings)
  /-- A signal that is destroyed keeps its content. -/
  frozen : ∀ signal content, .destroyed signal content ∈ ledger.happenings →
    (ledger.cell signal).content = content

/-- Where everything is in order and the books are kept, cleanups are accounted for. -/
theorem Ledger.settled_of_orderly {setting : Setting} {opened : World} {ledger : Ledger}
    (orderly : ledger.IsOrderly (bookkeeping setting opened .none) .nothing) :
    ledger.IsSettled setting opened where
  registered earlier announcement later context plan split delivers :=
    orderly.lawful.tallies.prompt earlier _ later _ split (.delivery delivers)
  runs := by
    intro earlier signal subscriber later plan split ties
    obtain ⟨next, rest, rfl, rfl⟩ :=
      orderly.lawful.tallies.prompt earlier _ later _ split (.teardown ties)
    exact ⟨rest, rfl⟩
  apart := orderly.lawful.tallies.apart
  atMostOnce := by
    have once := orderly.custody.once
    rwa [Agenda.nothing, List.append_nil] at once
  exactlyOnce := by
    intro earlier signal subscriber later split ended stayed
    have attached : .attached signal subscriber true ∈ ledger.happenings :=
      split ▸ List.mem_append_right _ List.mem_cons_self
    have dropped : ¬ledger.Holds signal subscriber := by
      intro holds
      rcases ended with destroyed | emptied
      · exact List.not_mem_nil (orderly.custody.closed signal subscriber attached holds destroyed)
      · obtain ⟨between, last, rfl⟩ := List.append_of_mem emptied
        refine orderly.custody.swept (earlier ++ .attached signal subscriber true :: between)
          signal last ?_ subscriber (List.mem_append_right _ List.mem_cons_self) holds
        rw [split, List.append_assoc]
        rfl
    rcases orderly.custody.kept signal subscriber attached with holds | (left | released) | loose
    · exact absurd holds dropped
    · exact absurd left stayed
    · have once := orderly.custody.once
      rw [Agenda.nothing, List.append_nil] at once
      exact List.count_eq_one_of_mem once (Signal.mem_releases.mpr released)
    · cases loose
  informed number found present := by
    have learned := orderly.lawful.accounts.pledged.learned number found present
    rwa [Debts.none, List.append_nil] at learned
  started := orderly.lawful.accounts.worked.queued
  called := by
    intro earlier plan awaiting later split
    obtain ⟨next, rest, rfl, rfl⟩ :=
      orderly.lawful.tallies.prompt earlier _ later _ split (.start earlier plan awaiting)
    exact ⟨rest, rfl⟩
  completed := by
    have finished := orderly.lawful.accounts.worked.finished
    rwa [Debts.none, List.append_nil] at finished
  frozen := fun signal content destroyed => (orderly.custody.fixed signal content destroyed).2.2

theorem World.opened_is_orderly {setting : Setting} {world : World}
    (present : ∀ number, (setting.instances number).signal < world.cells.size)
    (untouched : ∀ signal, world.numbers signal = []) (unpromised : world.stage.promises = #[])
    (idle : world.stage.queue = []) : world.opened.IsOrderly
    (bookkeeping setting world .none) .nothing := by
  refine .of_untouched rfl untouched ⟨?_, Accounts.opened unpromised idle⟩
  exact
    { present := present
      prompt := by
        intro earlier happening later demand split
        cases earlier <;> cases split
      numbered := fun _ _ _ member => absurd member List.not_mem_nil
      apart := List.nodup_nil
      held := by
        intro signal subscriber member
        have nobody : (world.cell signal).subscribers = [] :=
          List.map_eq_nil_iff.mp (untouched signal)
        exact absurd (nobody ▸ member : subscriber ∈ []) List.not_mem_nil
      ended := fun signal =>
        (or_iff_left fun some => absurd some.choose_spec List.not_mem_nil).symm }

/-- However operations interleave, no cleanup that is delivered runs twice, and it has run when its
signal is destroyed or cleaned since; it runs when it is delivered to a signal that is destroyed,
whose content nothing changes any more. -/
theorem cleanups_run_once (setting : Setting) (fuel : Nat)
    (operations : List Operation) (world : World)
    (present : ∀ number, (setting.instances number).signal < world.cells.size)
    (untouched : ∀ signal, world.numbers signal = []) (unpromised : world.stage.promises = #[])
    (idle : world.stage.queue = [])
    (finite : interleave setting fuel operations world ≠ .exhausted) :
    ∃ last, (interleaveWith setting (ledgerPowers setting fuel) operations world.opened).mapState
        (Signal.Store.mapHost Observed.host) = interleave setting fuel operations world ∧
      (interleaveWith setting (ledgerPowers setting fuel) operations world.opened).state? =
        some last ∧
      Ledger.IsSettled setting world last := by
  have observes := observes_interleaving setting world fuel operations
  have plain : world.opened.mapHost Observed.host = world := rfl
  have same := observes world.opened
  rw [plain] at same
  obtain ⟨last, left⟩ := observes.ends world.opened (plain ▸ finite)
  have start := World.opened_is_orderly present untouched unpromised idle
  exact ⟨last, same, left,
    Ledger.settled_of_orderly
      (proceeds_interleaving setting world fuel operations .nothing _ start last left).1⟩

def lease : ActionHandler := fun _ _ =>
  .finish (.cleanup (.record (.text "closed") .done))

def promisedLease : ActionHandler := fun _ _ =>
  .perform .promise fun _ => .finish (.promise 0)

def repeatedLease : ActionHandler := fun _ _ =>
  .finish (.promise 0)

def deferredLease : ActionHandler := fun _ _ =>
  .finish (.deferred
    (.finish (.cleanup (.record (.text "dismissed") (.fail (.mishap (.failed "too late")))))))

def reception : Setting :=
  { instances := fun _ =>
      { signal := 0
        registry :=
          { formulas := Catalog.empty
            actions :=
              { packages :=
                  [(Catalog.root,
                    [(.text "lease", some lease), (.text "promise", some promisedLease),
                      (.text "repeat", some repeatedLease), (.text "defer", some deferredLease)])]
                legacy := [] } }
        component := none, package := .null, apis := [], scope := none, triggerEvent := none
        setUrlParameters := none, root := .null, overlay := .mapping [], logErrors := false }
    formulaFuel := 2 }

def receptionWorld : World :=
  { cells := #[Signal.Cell.fresh (.mapping []) none]
    nextSubscription := 0
    host :=
      { machine :=
          { limits := Limits.standard, journal := Journal.empty
            hosts := #[{ HostState.blank with sink := Sink.ofCapacity (.int 5) }], cycleStacks := #[]
            closures := #[] }
        workflows := #[Cycle.Workflow.empty (.int 1)], continuations := #[], promises := #[], queue := []
        hasLoop := true, scopes := [] } }

def receptionDay (names : List String) : Operation :=
  .execute (names.map (fun name => Entry.action (.custom name .null [] [])) ++
      [.action (.setVariable "day" (some (.value (.int 1))))])
    (reception.contextOf 0) .null .none (.int 0)

/-- Two cleanups come before the signal is cleaned, two others before it is destroyed, and two after
that. -/
def receptionCourse : List Operation :=
  [receptionDay ["lease", "promise", "defer"], .tick, .clean 0, receptionDay ["lease"],
    .settle 0 (.value (.closure 0 "dismiss")), .destroy 0, receptionDay ["repeat", "lease"]]

/-- Four cleanups are torn down with the signal, each of them once; the others come late. -/
theorem reception_cleanups_run_once :
    (∀ number, (reception.instances number).signal < receptionWorld.cells.size) ∧
      (∀ signal, receptionWorld.numbers signal = []) ∧ receptionWorld.stage.promises = #[] ∧
      receptionWorld.stage.queue = [] ∧ interleave reception 4 receptionCourse receptionWorld ≠ .exhausted ∧
      (interleaveWith reception (ledgerPowers reception 4) receptionCourse receptionWorld.opened).state?.map
        (fun last => releases last.happenings) = some [(0, 0), (0, 1), (0, 2), (0, 3)] ∧
      ∃ last, (interleaveWith reception (ledgerPowers reception 4) receptionCourse receptionWorld.opened).mapState
          (Signal.Store.mapHost Observed.host) = interleave reception 4 receptionCourse receptionWorld ∧
        (interleaveWith reception (ledgerPowers reception 4) receptionCourse receptionWorld.opened).state? = some last ∧
        Ledger.IsSettled reception receptionWorld last := by
  have present : ∀ number, (reception.instances number).signal < receptionWorld.cells.size := fun _ => Nat.zero_lt_one
  have untouched : ∀ signal, receptionWorld.numbers signal = [] := by
    intro signal
    cases signal with
    | zero => rfl
    | succ signal => exact Signal.Store.numbers_of_absent (Nat.not_lt.mpr (Nat.succ_le_succ (Nat.zero_le signal)))
  have finite : interleave reception 4 receptionCourse receptionWorld ≠ .exhausted :=
    Result.not_exhausted_of_state (by decide +kernel)
  exact ⟨present, untouched, rfl, rfl, finite, by decide +kernel,
    cleanups_run_once reception 4 receptionCourse receptionWorld present untouched rfl rfl finite⟩

end Execute
end Interplay
