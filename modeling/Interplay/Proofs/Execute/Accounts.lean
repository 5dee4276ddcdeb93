import Interplay.Proofs.Execute.Ledger

/-!
Accounts of promises and deferred work.

What was announced and the stage go together: a promise stands as the announcements say, and whoever
returned it learns how it was settled, once for each return; deferred work that was returned has
started or waits in the queue, in order, and whatever started comes to its end.
-/

namespace Interplay
namespace Execute

structure Debts where
  /-- Who has yet to learn how a promise was settled. -/
  informing : Nat → List (ActionContext × Settlement)
  /-- Who awaits work that has started and not come to its end. -/
  running : List (Option ActionContext)

namespace Debts

def none : Debts :=
  { informing := fun _ => [], running := [] }

def owing (number : Nat) (others : List (ActionContext × Settlement)) (debts : Debts) : Debts :=
  { debts with
    informing := fun other => if number = other then others ++ debts.informing other
      else debts.informing other }

def working (awaiting : Option ActionContext) : Debts :=
  { none with running := [awaiting] }

theorem owing_nil (number : Nat) (debts : Debts) : debts.owing number [] = debts := by
  simp [owing]

end Debts

/-- How what was said goes together with the promises. -/
structure Pledged (informing : Nat → List (ActionContext × Settlement)) (said : List Announcement)
    (promises : Array Promise) : Prop where
  stand : promises = (pledges said).map Pledge.promise
  unmade : ∀ number, promises.size ≤ number → informed number said = [] ∧ informing number = []
  learned : ∀ number (found : Pledge), (pledges said)[number]? = some found →
    found.dues.Perm (informed number said ++ informing number)

/-- How what was said goes together with the queue. -/
structure Worked (running : List (Option ActionContext)) (said : List Announcement) (hasLoop : Bool)
    (queue : List Job) : Prop where
  queued : hasLoop = true → deferrals said = starts said ++ queue.filterMap Job.start?
  finished : begunFor said = completedFor said ++ running

structure Accounts (debts : Debts) (said : List Announcement) (stage : Stage) : Prop where
  pledged : Pledged debts.informing said stage.promises
  worked : Worked debts.running said stage.hasLoop stage.queue

section Reading

variable (said : List Announcement) (announcement : Announcement)

theorem filter_map_concat {α β : Type} (read : α → Option β) (items : List α) (item : α) :
    (items ++ [item]).filterMap read = items.filterMap read ++ (read item).toList := by
  rw [List.filterMap_append]
  cases found : read item <;> simp [found]

theorem pledges_concat : pledges (said ++ [announcement]) = pledge (pledges said) announcement :=
  List.foldl_concat ..

theorem informed_concat (number : Nat) :
    informed number (said ++ [announcement]) = informed number said ++
    (announcement.informed? number).toList :=
  filter_map_concat _ said announcement

theorem deferrals_concat :
    deferrals (said ++ [announcement]) = deferrals said ++ announcement.deferral?.toList :=
  filter_map_concat _ said announcement

theorem starts_concat : starts (said ++ [announcement]) = starts said ++
    announcement.start?.toList :=
  filter_map_concat _ said announcement

theorem begun_for_concat : begunFor (said ++ [announcement]) = begunFor said ++
    announcement.begun?.toList :=
  filter_map_concat _ said announcement

theorem completed_for_concat :
    completedFor (said ++ [announcement]) = completedFor said ++ announcement.completed?.toList :=
  filter_map_concat _ said announcement

end Reading

namespace Pledged

variable {informing : Nat → List (ActionContext × Settlement)} {said : List Announcement}
    {promises : Array Promise}

theorem told (pledged : Pledged informing said promises) {announcement : Announcement}
    (silent : pledge (pledges said) announcement = pledges said)
    (nobody : ∀ number, announcement.informed? number = none) :
    Pledged informing (said ++ [announcement]) promises := by
  have same : pledges (said ++ [announcement]) = pledges said := (pledges_concat ..).trans silent
  have heard : ∀ number, informed number (said ++ [announcement]) =
      informed number said := fun number => by
    rw [informed_concat, nobody]
    exact List.append_nil _
  exact
    { stand := same ▸ pledged.stand
      unmade := fun number absent => heard number ▸ pledged.unmade number absent
      learned := fun number found present => heard number ▸
      pledged.learned number found (same ▸ present) }

theorem standing (pledged : Pledged informing said promises) (number : Nat) :
    promises[number]? = ((pledges said)[number]?).map Pledge.promise := by
  rw [pledged.stand, Array.getElem?_map]

theorem promised (pledged : Pledged informing said promises) :
    Pledged informing (said ++ [.promised])
      (promises.push { waiting := [], settlement := none }) := by
  have size : promises.size = (pledges said).size := by rw [pledged.stand, Array.size_map]
  have heard : ∀ number, informed number (said ++ [.promised]) =
      informed number said := fun number => by
    rw [informed_concat]
    exact List.append_nil _
  exact
    { stand := by
        rw [pledges_concat, pledge, Array.map_push, ← pledged.stand]
        rfl
      unmade := by
        intro number absent
        rw [Array.size_push] at absent
        rw [heard]
        exact pledged.unmade number (by omega)
      learned := by
        intro number found present
        rw [pledges_concat, pledge, Array.getElem?_push] at present
        rw [heard]
        split at present
        · cases present
          obtain ⟨nobody, nothing⟩ := pledged.unmade number (by omega)
          rw [nobody, nothing]
          exact .nil
        · exact pledged.learned number found present }

theorem changed {owed : Nat → List (ActionContext × Settlement)}
    (pledged : Pledged informing said promises)
    {announcement : Announcement} {number : Nat} {before : Pledge} (after : Pledge)
    {change : Promise → Promise} (found : (pledges said)[number]? = some before)
    (only : ∀ other, (pledge (pledges said) announcement)[other]? =
      if number = other then some after else (pledges said)[other]?)
    (stands : change before.promise = after.promise)
    (elsewhere : ∀ other, number ≠ other → announcement.informed? other = none ∧
      owed other = informing other)
    (learned : before.dues.Perm (informed number said ++ informing number) →
      after.dues.Perm
        (informed number said ++ (announcement.informed? number).toList ++ owed number)) :
    Pledged owed (said ++ [announcement]) (promises.modify number change) where
  stand := by
    refine Array.ext_getElem? fun other => ?_
    rw [Array.getElem?_modify, Array.getElem?_map, pledges_concat, only, pledged.standing]
    split
    · rename_i here
      rw [← here, found]
      exact congrArg some stands
    · rfl
  unmade := by
    intro other absent
    rw [Array.size_modify] at absent
    have apart : number ≠ other := by
      rintro rfl
      have inside := (Array.getElem?_eq_some_iff.mp found).1
      rw [pledged.stand, Array.size_map] at absent
      omega
    rw [informed_concat, (elsewhere other apart).1, (elsewhere other apart).2]
    simpa using pledged.unmade other absent
  learned := by
    intro other now present
    rw [pledges_concat, only] at present
    rw [informed_concat]
    split at present
    · rename_i here
      subst here
      cases present
      exact learned (pledged.learned number before found)
    · rename_i apart
      rw [(elsewhere other apart).1, (elsewhere other apart).2, Option.toList_none, List.append_nil]
      exact pledged.learned other now present

theorem modify_absent {α : Type} {items : Array α} {number : Nat}
    (absent : items[number]? = none) (change : α → α) :
    items.modify number change = items := by
  refine Array.ext_getElem? fun other => ?_
  rw [Array.getElem?_modify]
  split
  · rename_i here
    rw [← here, absent]
    rfl
  · rfl

theorem modify_same {α : Type} (items : Array α) (number : Nat) :
    items.modify number id = items := by
  refine Array.ext_getElem? fun other => ?_
  rw [Array.getElem?_modify]
  split <;> simp

theorem waits (pledged : Pledged informing said promises) (context : ActionContext) {number : Nat}
    (unsettled : (promises[number]?).bind Promise.settlement = none) :
    Pledged informing (said ++ [.returned context (.promise number)])
      (promises.modify number fun promise =>
        { promise with waiting := promise.waiting ++ [context] }) := by
  cases found : (pledges said)[number]? with
  | none =>
      have absent : promises[number]? = none := by rw [pledged.standing, found]; rfl
      rw [modify_absent absent]
      exact pledged.told (modify_absent found _) fun _ => rfl
  | some before =>
      have verdict : before.verdict = none := by
        rw [pledged.standing, found] at unsettled
        exact unsettled
      refine pledged.changed { before with awaited := before.awaited ++ [context] }
        found (fun other => ?_) ?_ (fun other _ => ⟨rfl, rfl⟩) fun learned => ?_
      · rw [pledge, Array.getElem?_modify]
        split
        · rename_i here
          rw [← here, found]
          rfl
        · rfl
      · simp [Pledge.promise, verdict]
      · simpa [Pledge.dues, verdict, Announcement.informed?] using learned

/-- Whoever returns a promise that was settled has yet to learn of it. -/
theorem hears {debts : Debts} (pledged : Pledged debts.informing said promises)
    (context : ActionContext) {number : Nat}
    {settlement : Settlement}
    (settled : (promises[number]?).bind Promise.settlement = some settlement) :
    Pledged (debts.owing number [(context, settlement)]).informing
      (said ++ [.returned context (.promise number)]) promises := by
  obtain ⟨promise, present, known⟩ := Option.bind_eq_some_iff.mp settled
  rw [pledged.standing] at present
  obtain ⟨before, found, rfl⟩ := Option.map_eq_some_iff.mp present
  have verdict : before.verdict = some settlement := known
  rw [← modify_same promises number]
  refine pledged.changed { before with awaited := before.awaited ++ [context] }
    found (fun other => ?_) ?_ (fun other apart => ⟨rfl, if_neg apart⟩) fun learned => ?_
  · rw [pledge, Array.getElem?_modify]
    split
    · rename_i here
      rw [← here, found]
      rfl
    · rfl
  · simp [Pledge.promise, verdict]
  · simp only [Pledge.dues, verdict, List.map_append, List.map_cons, List.map_nil] at learned ⊢
    have owed : (debts.owing number [(context, settlement)]).informing number =
        [(context, settlement)] ++ debts.informing number := if_pos rfl
    have silent : (Announcement.returned context (.promise number)).informed? number = none := rfl
    rw [owed, silent, Option.toList_none, List.append_nil]
    refine (learned.append_right _).trans ?_
    rw [List.append_assoc]
    exact List.perm_append_comm.append_left _

/-- The next of those who have yet to learn of a promise does. -/
theorem informs {debts : Debts} {number : Nat} {context : ActionContext} {settlement : Settlement}
    {rest : List (ActionContext × Settlement)}
    (pledged : Pledged
      (debts.owing number ((context, settlement) :: rest)).informing said promises) :
    Pledged (debts.owing number rest).informing
      (said ++ [.informed number context settlement]) promises := by
  cases found : (pledges said)[number]? with
  | none =>
      have absent : promises[number]? = none := by rw [pledged.standing, found]; rfl
      have nothing := (pledged.unmade number (Array.getElem?_eq_none_iff.mp absent)).2
      simp [Debts.owing] at nothing
  | some before =>
      rw [← modify_same promises number]
      refine pledged.changed before found (fun other => ?_) rfl
        (fun other apart => ?_) fun learned => ?_
      · split
        · rename_i here
          rw [← here, ← found]
          rfl
        · rfl
      · exact ⟨if_neg apart, by simp [Debts.owing, apart]⟩
      · simpa [Debts.owing, Announcement.informed?] using learned

/-- Settling a promise that was settled, or is none, changes nothing. -/
theorem refused (pledged : Pledged informing said promises) {number : Nat} (settlement : Settlement)
    (decided : ∀ promise, promises[number]? = some promise → promise.settlement ≠ none) :
    Pledged informing (said ++ [.settled number settlement]) promises := by
  refine pledged.told (Array.ext_getElem? fun other => ?_) fun _ => rfl
  rw [pledge, Array.getElem?_modify]
  split
  · rename_i here
    subst here
    cases present : (pledges said)[number]? with
    | none => rfl
    | some found =>
        have known : found.verdict ≠ none :=
          decided found.promise (by rw [pledged.standing, present]; rfl)
        obtain ⟨awaited, verdict⟩ := found
        cases verdict with
        | none => exact absurd rfl known
        | some verdict => rfl
  · rfl

/-- Whoever waits for a promise that is settled has yet to learn of it. -/
theorem settled {debts : Debts} (pledged : Pledged debts.informing said promises)
    {number : Nat} {promise : Promise}
    (settlement : Settlement) (present : promises[number]? = some promise)
    (unsettled : promise.settlement = none) :
    Pledged (debts.owing number
      (promise.waiting.map fun context => (context, settlement))).informing
      (said ++ [.settled number settlement])
      (promises.modify number fun _ => { waiting := [], settlement := some settlement }) := by
  rw [pledged.standing] at present
  obtain ⟨before, found, rfl⟩ := Option.map_eq_some_iff.mp present
  have verdict : before.verdict = none := unsettled
  refine pledged.changed { before with verdict := some settlement } found (fun other => ?_) rfl
    (fun other apart => ⟨rfl, if_neg apart⟩) fun learned => ?_
  · rw [pledge, Array.getElem?_modify]
    split
    · rename_i here
      rw [← here, found]
      simp [verdict]
    · rfl
  · -- nobody could learn of a promise that was not settled
    rw [Pledge.dues, verdict] at learned
    obtain ⟨nobody, nothing⟩ := List.append_eq_nil_iff.mp learned.symm.eq_nil
    simp [Pledge.dues, Pledge.promise, Debts.owing, Announcement.informed?,
      verdict, nobody, nothing]

end Pledged

namespace Worked

variable {running : List (Option ActionContext)} {said : List Announcement}
    {hasLoop : Bool} {queue : List Job}

/-- An announcement that says nothing of deferred work. -/
theorem told (worked : Worked running said hasLoop queue) {announcement : Announcement}
    (defers : announcement.deferral? = none) (starts_ : announcement.start? = none)
    (begins : announcement.begun? = none) (completes : announcement.completed? = none) :
    Worked running (said ++ [announcement]) hasLoop queue where
  queued loop := by
    rw [deferrals_concat, starts_concat, defers, starts_]
    simpa using worked.queued loop
  finished := by
    rw [begun_for_concat, completed_for_concat, begins, completes]
    simpa using worked.finished

/-- Deferred work that is returned waits in the queue, if there is a loop. -/
theorem spawned (worked : Worked running said hasLoop queue)
    (context : ActionContext) (plan : Plan) :
    Worked running (said ++ [.returned context (.deferred plan)]) hasLoop
      (queue ++ [.start plan (some context)]) where
  queued loop := by
    rw [deferrals_concat, starts_concat, worked.queued loop, filter_map_concat]
    simp [Announcement.deferral?, Announcement.start?, Job.start?]
  finished := by
    rw [begun_for_concat, completed_for_concat]
    simpa [Announcement.begun?, Announcement.completed?] using worked.finished

theorem dropped (worked : Worked running said false queue) (context : ActionContext) (plan : Plan) :
    Worked running (said ++ [.returned context (.deferred plan)]) false queue where
  queued loop := by cases loop
  finished := by
    rw [begun_for_concat, completed_for_concat]
    simpa [Announcement.begun?, Announcement.completed?] using worked.finished

/-- A job that nobody awaits comes to the queue. -/
theorem enqueued (worked : Worked running said hasLoop queue) {job : Job}
    (nobody : job.start? = none) :
    Worked running said hasLoop (queue ++ [job]) where
  queued loop := by
    rw [worked.queued loop, filter_map_concat, nobody]
    simp
  finished := worked.finished

/-- A job that nobody awaits is taken from the queue. -/
theorem dequeued {job : Job} (worked : Worked running said hasLoop (job :: queue))
    (nobody : job.start? = none) :
    Worked running said hasLoop queue where
  queued loop := by
    rw [worked.queued loop, List.filterMap_cons_none nobody]
  finished := worked.finished

theorem begun {plan : Plan} {awaiting : Option ActionContext}
    (worked : Worked [] said hasLoop (.start plan awaiting :: queue)) :
    Worked [awaiting] (said ++ [.begun plan awaiting]) hasLoop queue where
  queued loop := by
    rw [deferrals_concat, starts_concat, worked.queued loop]
    cases awaiting with
    | none => simp [Announcement.deferral?, Announcement.start?, List.filterMap_cons, Job.start?]
    | some context => simp [Announcement.deferral?, Announcement.start?, Job.start?]
  finished := by
    rw [begun_for_concat, completed_for_concat, worked.finished]
    simp [Announcement.begun?, Announcement.completed?]

theorem completed {awaiting : Option ActionContext} (worked : Worked [awaiting] said hasLoop queue)
    (outcome : Except Failure (Signal.Answer Effect)) :
    Worked [] (said ++ [.completed awaiting outcome]) hasLoop queue where
  queued loop := by
    rw [deferrals_concat, starts_concat]
    simpa [Announcement.deferral?, Announcement.start?] using worked.queued loop
  finished := by
    rw [begun_for_concat, completed_for_concat, worked.finished]
    simp [Announcement.begun?, Announcement.completed?]

end Worked

/-- Announcements that say nothing of promises and of deferred work. -/
structure Announcement.IsNeutral (announcement : Announcement) : Prop where
  pledges : ∀ pledges, pledge pledges announcement = pledges
  informs : ∀ number, announcement.informed? number = none
  defers : announcement.deferral? = none
  starts : announcement.start? = none
  begins : announcement.begun? = none
  completes : announcement.completed? = none

theorem called_is_neutral (plan : Plan) : (Announcement.called plan).IsNeutral :=
  ⟨fun _ => rfl, fun _ => rfl, rfl, rfl, rfl, rfl⟩

theorem Accounts.told {debts : Debts} {said : List Announcement} {stage : Stage}
    (accounts : Accounts debts said stage)
    {announcement : Announcement} (neutral : announcement.IsNeutral) :
    Accounts debts (said ++ [announcement]) stage where
  pledged := accounts.pledged.told (neutral.pledges _) neutral.informs
  worked := accounts.worked.told neutral.defers neutral.starts neutral.begins neutral.completes

/-- In the beginning nothing was promised and nothing waits. -/
theorem Accounts.opened {stage : Stage} (promises : stage.promises = #[])
    (queue : stage.queue = []) :
    Accounts .none [] stage where
  pledged := ⟨promises.trans Array.map_empty.symm, fun _ _ => ⟨rfl, rfl⟩, by simp [pledges]⟩
  worked := ⟨fun _ => by simp [queue, deferrals, starts], rfl⟩

end Execute
end Interplay
