import Interplay.Proofs.Execute.Bookkeeping

/-!
Cleanups are registered.

What is delivered is registered before anything else happens, by returning, by settling a promise
and by ending deferred work alike.  The books are out of balance in the middle of such steps, and in
balance again when they are over.
-/

namespace Interplay
namespace Execute

open Run
open Signal (Agenda Answers Happening LeadsFrom Observed Observes Proceeds
  announcements leads_from_modify_bind)

/-- A ledger that is in order but for its accounts. -/
structure IsTidy (setting : Setting) (opened : World) (agenda : Agenda) (ledger : Ledger) :
    Prop where
  custody : ledger.InCustody agenda
  turn : ledger.InTurn agenda
  tallies : Tallies setting opened ledger

/-- Nested lists and host code that keep the books. -/
structure KeepBooks (setting : Setting) (opened : World)
    (first : Runners (Observed Announcement Stage)) (second : Runners) : Prop where
  observes : ∀ plan, Observes (first.call plan) (second.call plan)
  answers : ∀ debts, Answers (bookkeeping setting opened debts) first.call
  executes : ∀ entries context event dispatch depth, KeepsBooks setting opened
    (first.execute entries context event dispatch depth)
    (second.execute entries context event dispatch depth)

theorem returned_is_neutral (context : ActionContext) {answer : Signal.Answer Effect}
    (promise : ∀ number, answer ≠ .promise number) (deferred : ∀ plan, answer ≠ .deferred plan) :
    (Announcement.returned context answer).IsNeutral := by
  cases answer with
  | promise number => exact absurd rfl (promise number)
  | deferred plan => exact absurd rfl (deferred plan)
  | _ => exact ⟨fun _ => rfl, fun _ => rfl, rfl, rfl, rfl, rfl⟩

theorem returned_is_idle (context : ActionContext) {answer : Signal.Answer Effect}
    (nothing : callable? answer = none) :
    (Announcement.returned context answer).IsIdle := by
  refine ⟨fun other plan delivers => ?_, fun _ _ same => by cases same⟩
  rw [(Announcement.delivers_returned.mp delivers).2] at nothing
  cases nothing

section Registered

variable {setting : Setting} {opened : World} {debts : Debts}
    {agenda : Agenda} {ledger start : Ledger}

namespace IsTidy

theorem orderly (tidy : IsTidy setting opened agenda ledger)
    (accounts : Accounts debts (announcements ledger.happenings) ledger.stage) :
    ledger.IsOrderly (bookkeeping setting opened debts) agenda :=
  ⟨tidy.custody, tidy.turn, tidy.tallies, accounts⟩

theorem of_orderly (orderly : ledger.IsOrderly (bookkeeping setting opened debts) agenda) :
    IsTidy setting opened agenda ledger :=
  ⟨orderly.custody, orderly.turn, orderly.lawful.tallies⟩

theorem told (tidy : IsTidy setting opened agenda ledger) {announcement : Announcement}
    (tallies : Tallies setting opened (ledger.told (.own announcement))) :
    IsTidy setting opened agenda (ledger.told (.own announcement)) where
  custody := tidy.custody.announced announcement
  turn := tidy.turn.announced announcement
  tallies := tallies

theorem announced (tidy : IsTidy setting opened agenda ledger) {announcement : Announcement}
    (idle : announcement.IsIdle) : IsTidy setting opened agenda (ledger.told (.own announcement)) :=
  tidy.told (tidy.tallies.announced idle)

theorem called (tidy : IsTidy setting opened agenda ledger)
    {announcement : Announcement} (plan : Plan)
    (meets : ∀ demand, Demands setting opened ledger.happenings (.own announcement) demand →
      demand (.own (.called plan))) :
    IsTidy setting opened agenda
      ((ledger.told (.own announcement)).told (.own (.called plan))) where
  custody := (tidy.custody.announced announcement).announced (.called plan)
  turn := (tidy.turn.announced announcement).announced (.called plan)
  tallies := tidy.tallies.answered meets

theorem staged (tidy : IsTidy setting opened agenda ledger) (change : Stage → Stage) :
    IsTidy setting opened agenda (ledger.modifyStage change) where
  custody := tidy.custody.rehosted _
  turn := tidy.turn.quiet (List.append_nil _).symm (List.forall_mem_nil _)
    (fun _ => id) (fun _ _ => .inl) (Nat.le_refl _) fun _ _ => rfl
  tallies := tidy.tallies.rehosted _

end IsTidy

variable {first : Runners (Observed Announcement Stage)} {second : Runners}
  (keep : KeepBooks setting opened first second)

include keep

theorem KeepBooks.calls (plan : Plan) :
    KeepsBooks setting opened (first.call plan) (second.call plan) :=
  ⟨keep.observes plan, fun debts => (keep.answers debts).proceeds plan⟩

theorem books_of_perform (plan : Plan) :
    KeepsBooks setting opened (Powers.perform ⟨.written setting, first⟩ plan)
      (Powers.perform ⟨.silent setting, second⟩ plan) :=
  .bind (keep.calls plan) fun _ => .pure ()

theorem leads_from_delivery {announcement : Announcement} {context : ActionContext} {plan : Plan}
    (tidy : IsTidy setting opened agenda start) (delivers : announcement.Delivers context plan)
    (accounts : Accounts debts (announcements start.happenings ++ [announcement]) start.stage) :
    LeadsFrom (bookkeeping setting opened debts) agenda (start.told (.own announcement))
      (onDestroy setting ⟨.written setting, first⟩ context plan) := by
  let signal := (setting.instances context.host).signal
  have custody := tidy.custody.announced announcement
  have turn := tidy.turn.announced announcement
  change LeadsFrom _ _ _ (if (start.cell signal).isDestroyed then _ else _)
  refine Signal.leads_from_choose (fun destroyed => ?_) fun alive => ?_
  · refine Signal.leads_from_bind (keep.answers debts plan agenda _ ?_) fun _ => Proceeds.pure ()
    refine ⟨custody.announced (.called plan), turn.announced (.called plan),
      tidy.tallies.answered ?_, ?_⟩
    · intro demand demands
      cases demands with
      | delivery again =>
          obtain ⟨rfl, rfl⟩ := delivers.unique again
          exact .inr ⟨(tidy.tallies.ended _).mp destroyed, rfl⟩
      | start => cases delivers
    · have told : announcements
          ((start.told (.own announcement)).told (.own (.called plan))).happenings =
          announcements start.happenings ++ [announcement] ++ [.called plan] := by
        rw [announcements_told, announcements_told]
      exact told.symm ▸ accounts.told (called_is_neutral plan)
  · have joined := @Signal.Store.IsOrderly.joined _ _ _ _ (bookkeeping setting opened debts) agenda
      (start.told (.own announcement)) signal (.call fun _ => .done) (.call plan) custody turn
      ⟨tidy.tallies.attached delivers (Bool.eq_false_iff.mpr alive) _, by
        rw [Signal.Store.happenings_subscribed, Signal.announcements_append, announcements_told]
        exact (List.append_nil (announcements start.happenings ++ [announcement])).symm ▸ accounts⟩
    refine Signal.leads_from_bind (Signal.leads_from_attach (keep.answers debts) joined ?_)
      fun _ => Proceeds.pure ()
    exact fun away => Nat.lt_irrefl _ (custody.gone _ _ away).1

theorem observes_on_destroy (context : ActionContext) (cleanup : Plan) :
    Observes (onDestroy setting ⟨.written setting, first⟩ context cleanup)
      (onDestroy setting ⟨.silent setting, second⟩ context cleanup) := by
  refine Recounts.get_bind fun ledger => ?_
  dsimp only
  rw [Signal.Store.cell_map_host]
  refine Recounts.choose (fun _ => (books_of_perform keep cleanup).observes) fun _ => ?_
  exact Recounts.bind (Signal.observes_attach keep.observes _ _ _) fun _ => Recounts.pure ()

/-- A context that learns how a promise was settled registers what it was settled with. -/
theorem leads_from_inform {number : Nat} {settlement : Settlement} {context : ActionContext}
    (tidy : IsTidy setting opened agenda start)
    (accounts : Accounts debts
      (announcements start.happenings ++ [.informed number context settlement]) start.stage) :
    LeadsFrom (bookkeeping setting opened debts) agenda start
      (inform setting ⟨.written setting, first⟩ number settlement context) := by
  refine leads_from_modify_bind (List.prefix_append _ _) ?_
  unfold deliver
  cases found : settlement.result?.bind callable? with
  | some plan =>
      have delivers : (Announcement.informed number context settlement).Delivers context plan :=
        Announcement.delivers_informed.mpr ⟨rfl, found⟩
      exact Signal.leads_from_bind
        (Signal.leads_from_attempt (leads_from_delivery keep tidy delivers accounts)) fun _ =>
        Proceeds.pure ()
  | none =>
      have idle : (Announcement.informed number context settlement).IsIdle := by
        refine ⟨fun other plan delivers => ?_, fun _ _ same => by cases same⟩
        obtain ⟨_, known⟩ := Announcement.delivers_informed.mp delivers
        rw [found] at known
        cases known
      refine Signal.leads_from_pure () ((tidy.announced idle).orderly ?_)
      rw [announcements_told]
      exact accounts

theorem observes_inform (number : Nat) (settlement : Settlement) (context : ActionContext) :
    Observes (inform setting ⟨.written setting, first⟩ number settlement context)
      (inform setting ⟨.silent setting, second⟩ number settlement context) := by
  have delivered : Observes (deliver setting ⟨.written setting, first⟩ settlement context)
      (deliver setting ⟨.silent setting, second⟩ settlement context) := by
    unfold deliver
    cases settlement.result?.bind callable? with
    | some plan =>
        exact Recounts.bind (observes_on_destroy keep context plan).attempt
          fun _ => Recounts.pure ()
    | none => exact Recounts.pure ()
  exact Signal.observes_announce _ delivered

/-- Whoever returned a promise waits for it, or learns at once how it was settled. -/
theorem leads_from_await {context : ActionContext} {number : Nat}
    (tidy : IsTidy setting opened agenda start)
    (accounts : Accounts debts (announcements start.happenings) start.stage) :
    LeadsFrom (bookkeeping setting opened debts) agenda
      (start.told (.own (.returned context (.promise number))))
      (awaitPromise setting ⟨.written setting, first⟩ context number) := by
  have silent : callable? (.promise number) = none := rfl
  have returned := tidy.announced (returned_is_idle context silent)
  have worked : Worked debts.running
      (announcements start.happenings ++ [.returned context (.promise number)])
      start.stage.hasLoop start.stage.queue := accounts.worked.told rfl rfl rfl rfl
  refine Signal.leads_from_get_bind ?_
  rw [stage_told]
  cases settled : ((World.stage start).promises[number]?).bind Promise.settlement with
  | some settlement =>
      refine leads_from_inform keep returned ?_
      rw [announcements_told]
      have informed := (accounts.pledged.hears context settled).informs
      rw [Debts.owing_nil] at informed
      exact ⟨informed, worked.told rfl rfl rfl rfl⟩
  | none =>
      refine Signal.leads_from_modify ((returned.staged _).orderly ?_) (List.prefix_refl _)
      have told : announcements
          (start.told (.own (.returned context (.promise number)))).happenings =
          announcements start.happenings ++ [.returned context (.promise number)] :=
        announcements_told _ _
      exact ⟨told.symm ▸ accounts.pledged.waits context settled, told.symm ▸ worked⟩

omit keep in
/-- Deferred work that was returned waits in the queue, if there is a loop. -/
theorem leads_from_spawn {context : ActionContext} {plan : Plan}
    (tidy : IsTidy setting opened agenda start)
    (accounts : Accounts debts (announcements start.happenings) start.stage) :
    LeadsFrom (bookkeeping setting opened debts) agenda
      (start.told (.own (.returned context (.deferred plan)))) (spawn plan (some context)) := by
  have silent : callable? (.deferred plan) = none := rfl
  have returned := tidy.announced (returned_is_idle context silent)
  have told : announcements (start.told (.own (.returned context (.deferred plan)))).happenings =
      announcements start.happenings ++ [.returned context (.deferred plan)] :=
    announcements_told _ _
  have pledged : Pledged debts.informing
      (announcements start.happenings ++ [.returned context (.deferred plan)])
      start.stage.promises := accounts.pledged.told rfl fun _ => rfl
  change LeadsFrom _ _ _ (if start.stage.hasLoop then _ else _)
  refine Signal.leads_from_choose (fun loop => ?_) fun none => ?_
  · refine Signal.leads_from_modify ((returned.staged _).orderly ?_) (List.prefix_refl _)
    exact ⟨told.symm ▸ pledged, told.symm ▸ accounts.worked.spawned context plan⟩
  · have worked := accounts.worked
    have dropped : start.stage.hasLoop = false := Bool.eq_false_iff.mpr none
    rw [dropped] at worked
    have kept : Accounts debts
        (announcements (start.told (.own (.returned context (.deferred plan)))).happenings)
        start.stage :=
      ⟨told.symm ▸ pledged, told.symm ▸ dropped.symm ▸ worked.dropped context plan⟩
    exact (KeepsBooks.warn _).proceeds debts agenda _ (returned.orderly kept)

/-- What a custom action returned is taken care of. -/
theorem leads_from_answer {context : ActionContext} {answer : Signal.Answer Effect}
    (tidy : IsTidy setting opened agenda start)
    (accounts : Accounts debts (announcements start.happenings) start.stage) :
    LeadsFrom (bookkeeping setting opened debts) agenda
      (start.told (.own (.returned context answer)))
      (registerAnswer setting ⟨.written setting, first⟩ context answer) := by
  unfold registerAnswer
  cases called : callable? answer with
  | some plan =>
      have neutral : (Announcement.returned context answer).IsNeutral :=
        returned_is_neutral context (fun _ same => by subst same; cases called)
          fun _ same => by subst same; cases called
      exact leads_from_delivery keep tidy (Announcement.delivers_returned.mpr ⟨rfl, called⟩)
        (accounts.told neutral)
  | none =>
      have returned := tidy.announced (returned_is_idle context called)
      cases answer with
      | promise number => exact leads_from_await keep tidy accounts
      | deferred plan => exact leads_from_spawn tidy accounts
      | cleanup plan => cases called
      | value content =>
          refine Signal.leads_from_pure () (returned.orderly ?_)
          rw [announcements_told]
          exact accounts.told
            (returned_is_neutral context (fun _ same => by cases same) fun _ same => by cases same)

theorem observes_answer (context : ActionContext) (answer : Signal.Answer Effect) :
    Observes (registerAnswer setting ⟨.written setting, first⟩ context answer)
      (registerAnswer setting ⟨.silent setting, second⟩ context answer) := by
  unfold registerAnswer
  cases callable? answer with
  | some plan => exact observes_on_destroy keep context plan
  | none =>
      cases answer with
      | value content => exact Recounts.pure ()
      | cleanup plan => exact Recounts.pure ()
      | deferred plan =>
          have warned : KeepsBooks setting opened (warn _) (warn _) :=
            .warn "No running event loop; deferred action result dropped"
          exact Recounts.get_bind fun ledger =>
            Recounts.choose (fun _ => Recounts.modify fun _ => rfl) fun _ => warned.observes
      | promise number =>
          refine Recounts.get_bind fun ledger => ?_
          rw [stage_of_plain]
          cases ((World.stage ledger).promises[number]?).bind Promise.settlement with
          | some settlement => exact observes_inform keep number settlement context
          | none => exact Recounts.modify fun _ => rfl

omit keep in
theorem books_of_promise :
    KeepsBooks setting opened (performEffect ⟨.written setting, first⟩ .promise)
      (performEffect ⟨.silent setting, second⟩ .promise) where
  observes := fun _ => rfl
  proceeds := by
    intro debts agenda start orderly last left
    have idle : Announcement.promised.IsIdle :=
      ⟨fun _ _ delivers => (by cases delivers), fun _ _ same => by cases same⟩
    have told : announcements (start.told (.own .promised)).happenings =
        announcements start.happenings ++ [.promised] :=
      announcements_told _ _
    have accounts := orderly.lawful.accounts
    have made := ((IsTidy.of_orderly orderly).announced idle).staged fun stage =>
      { stage with promises := stage.promises.push { waiting := [], settlement := none } }
    cases left
    exact ⟨made.orderly
      ⟨told.symm ▸ accounts.pledged.promised, told.symm ▸ accounts.worked.told rfl rfl rfl rfl⟩,
      List.prefix_append _ _⟩

omit keep in
theorem inform_never_fails (number : Nat) (settlement : Settlement) (context : ActionContext) :
    NeverFails (inform setting ⟨.written setting, first⟩ number settlement context) := by
  refine bind_never_fails (modify_never_fails _) fun _ => ?_
  unfold deliver
  cases settlement.result?.bind callable? with
  | some plan => exact bind_never_fails (attempt_never_fails _) fun _ => pure_never_fails ()
  | none => exact pure_never_fails ()

/-- Everybody who waited learns how the promise was settled. -/
theorem leads_from_informing {number : Nat} {settlement : Settlement} {waiting : List ActionContext}
    (orderly : start.IsOrderly (bookkeeping setting opened
      (debts.owing number (waiting.map fun context => (context, settlement)))) agenda) :
    LeadsFrom (bookkeeping setting opened debts) agenda start
      (Run.forEach (inform setting ⟨.written setting, first⟩ number settlement) waiting) := by
  induction waiting generalizing start with
  | nil =>
      rw [List.map_nil, Debts.owing_nil] at orderly
      exact Signal.leads_from_pure () orderly
  | cons context rest ih =>
      have accounts := orderly.lawful.accounts
      have informed := leads_from_inform keep (.of_orderly orderly)
        ⟨accounts.pledged.informs, accounts.worked.told rfl rfl rfl rfl⟩
      exact Signal.leads_from_reached informed (inform_never_fails _ _ _)
        fun _ reached settled _ => ih settled

theorem observes_settle (number : Nat) (settlement : Settlement) :
    Observes (settle setting ⟨.written setting, first⟩ number settlement)
      (settle setting ⟨.silent setting, second⟩ number settlement) := by
  refine Signal.observes_announce _ (Recounts.get_bind fun ledger => ?_)
  rw [stage_of_plain]
  cases (World.stage ledger).promises[number]? with
  | none => exact Recounts.pure ()
  | some promise =>
      obtain ⟨waiting, before⟩ := promise
      cases before with
      | none =>
          exact Recounts.bind (Recounts.modify fun _ => rfl) fun _ =>
            Recounts.for_each
              (fun context => observes_inform keep number settlement context) waiting
      | some before => cases settlement <;> exact Recounts.raise _

theorem books_of_settle (number : Nat) (settlement : Settlement) :
    KeepsBooks setting opened (settle setting ⟨.written setting, first⟩ number settlement)
      (settle setting ⟨.silent setting, second⟩ number settlement) where
  observes := observes_settle keep number settlement
  proceeds := by
    intro debts agenda start orderly
    have idle : (Announcement.settled number settlement).IsIdle :=
      ⟨fun _ _ delivers => (by cases delivers), fun _ _ same => by cases same⟩
    have tried := (IsTidy.of_orderly orderly).announced idle
    have told : announcements (start.told (.own (.settled number settlement))).happenings =
        announcements start.happenings ++ [.settled number settlement] := announcements_told _ _
    have accounts := orderly.lawful.accounts
    have worked : Worked debts.running
        (announcements start.happenings ++ [.settled number settlement])
        (World.stage start).hasLoop (World.stage start).queue :=
      accounts.worked.told rfl rfl rfl rfl
    have refused : (∀ promise, (World.stage start).promises[number]? = some promise →
        promise.settlement ≠ none) →
        (start.told (.own (.settled number settlement))).IsOrderly
        (bookkeeping setting opened debts) agenda :=
      fun decided => tried.orderly
        ⟨told.symm ▸ accounts.pledged.refused settlement decided, told.symm ▸ worked⟩
    refine leads_from_modify_bind (List.prefix_append _ _) (Signal.leads_from_get_bind ?_)
    rw [stage_told]
    cases present : (World.stage start).promises[number]? with
    | none =>
        exact Signal.leads_from_pure ()
          (refused fun promise found => by cases present.symm.trans found)
    | some promise =>
        obtain ⟨waiting, before⟩ := promise
        cases before with
        | none =>
            refine leads_from_modify_bind (List.prefix_refl _)
              (leads_from_informing keep ((tried.staged _).orderly ?_))
            exact ⟨told.symm ▸ accounts.pledged.settled settlement present rfl, told.symm ▸ worked⟩
        | some before =>
            have decided := refused fun promise found => by
              cases present.symm.trans found
              exact Option.some_ne_none before
            cases settlement <;> exact Proceeds.raise _ agenda _ decided

/-- Deferred work comes to its end, and a cleanup that it returned is registered. -/
theorem leads_from_completed {awaiting : Option ActionContext}
    {outcome : Except Failure (Signal.Answer Effect)} (tidy : IsTidy setting opened agenda start)
    (accounts : Accounts debts
      (announcements start.happenings ++ [.completed awaiting outcome]) start.stage) :
    LeadsFrom (bookkeeping setting opened debts) agenda
      (start.told (.own (.completed awaiting outcome))) (do
      let answer ← Run.ofExcept outcome
      match awaiting, callable? answer with
      | some context, some cleanup => onDestroy setting ⟨.written setting, first⟩ context cleanup
      | _, _ => pure ()) := by
  have nothing :
      (∀ context plan, ¬(Announcement.completed awaiting outcome).Delivers context plan) →
      (start.told (.own (.completed awaiting outcome))).IsOrderly
      (bookkeeping setting opened debts) agenda := by
    intro silent
    refine (tidy.announced ⟨silent, fun _ _ same => by cases same⟩).orderly ?_
    rw [announcements_told]
    exact accounts
  cases outcome with
  | error failure =>
      refine Proceeds.raise failure agenda _ (nothing fun context plan delivers => ?_)
      obtain ⟨_, answer, impossible, _⟩ := Announcement.delivers_completed.mp delivers
      cases impossible
  | ok answer =>
      change LeadsFrom _ _ _ (match awaiting, callable? answer with
        | some context, some cleanup => _
        | _, _ => pure ())
      cases awaiting with
      | none =>
          refine Signal.leads_from_pure () (nothing fun context plan delivers => ?_)
          cases (Announcement.delivers_completed.mp delivers).1
      | some context =>
          cases called : callable? answer with
          | none =>
              refine Signal.leads_from_pure () (nothing fun context plan delivers => ?_)
              obtain ⟨_, found, same, known⟩ := Announcement.delivers_completed.mp delivers
              cases same
              cases called.symm.trans known
          | some plan =>
              exact leads_from_delivery keep tidy
                (Announcement.delivers_completed.mpr ⟨rfl, answer, rfl, called⟩) accounts

/-- The first job of the queue is work: it starts, and comes to its end. -/
theorem leads_from_deferred {plan : Plan} {awaiting : Option ActionContext} {rest : List Job}
    (orderly : start.IsOrderly (bookkeeping setting opened .none) agenda)
    (queue : (World.stage start).queue = .start plan awaiting :: rest) :
    LeadsFrom (bookkeeping setting opened .none) agenda
      (World.modifyStage (fun stage => { stage with queue := rest }) start)
      (runDeferred setting ⟨.written setting, first⟩ plan awaiting) := by
  have taken := (IsTidy.of_orderly orderly).staged fun stage => { stage with queue := rest }
  have accounts := orderly.lawful.accounts
  have worked := accounts.worked
  rw [queue] at worked
  have begun : Accounts (.working awaiting)
      (announcements start.happenings ++ [.begun plan awaiting])
      { World.stage start with queue := rest } :=
    ⟨accounts.pledged.told rfl fun _ => rfl, worked.begun⟩
  have meets : ∀ demand, Demands setting opened start.happenings
      (.own (.begun plan awaiting)) demand →
      demand (.own (.called plan)) := by
    intro demand demands
    cases demands with
    | delivery delivers => cases delivers
    | start => rfl
  have called := taken.called plan meets
  have running := keep.answers (.working awaiting) plan agenda
    ((World.modifyStage (fun stage => { stage with queue := rest }) start).told
      (.own (.begun plan awaiting)))
    (called.orderly (by
      rw [announcements_told, announcements_told]
      exact begun.told (called_is_neutral plan)))
  refine leads_from_modify_bind (List.prefix_append _ _) ?_
  refine Signal.leads_from_reached (Signal.leads_from_attempt running) (attempt_never_fails _)
    fun outcome reached settled _ => ?_
  have ended := settled.lawful.accounts
  exact leads_from_modify_bind (List.prefix_append _ _)
    (leads_from_completed keep (.of_orderly settled)
    ⟨ended.pledged.told rfl fun _ => rfl, ended.worked.completed outcome⟩)

end Registered

end Execute
end Interplay
