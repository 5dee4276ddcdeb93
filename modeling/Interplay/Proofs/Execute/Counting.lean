import Interplay.Proofs.Execute.Requests
import Interplay.Proofs.Execute.Siblings
import Interplay.Proofs.Metrics.Outcomes
import Interplay.Proofs.Metrics.Sums

/-!
Dispatches are counted.

An execution may be told to say in its log that a dispatch of some kind has come to its end, for
each instance and each way to end.  It is the same execution otherwise.  Every such dispatch is one
recording in the entry of its kind, a success or a failure, however deep it is nested and whatever
host code or workflow it is reached through.
-/

namespace Interplay

open Run

namespace Execute

/-- Dispatches to listen for: those of one kind, under the collector of one instance, that end in
one way. -/
structure Watch where
  host : Nat
  kind : String
  succeeded : Bool

namespace Watch

def reading (watch : Watch) (metrics : Metrics Value) : Nat :=
  metrics.outcomes watch.kind watch.succeeded

def hears (watch : Watch) (host : Nat) (kind : String) (succeeded : Bool) : Bool :=
  host == watch.host && kind == watch.kind && succeeded == watch.succeeded

/-- Says in the log that a dispatch has come to its end, if this is one to listen for. -/
def heed (watch : Watch) : Announcement → Run World Unit
  | .dispatched host kind succeeded =>
    if watch.hears host kind succeeded then
      Run.modify (World.log .warning ("Dispatched " ++ watch.kind))
    else pure ()
  | _ => pure ()

/-- Nested lists and host code that say what a watch listens for, with fuel for how deep they
nest. -/
def powers (setting : Setting) (watch : Watch) (fuel : Nat) : Powers :=
  powersWith setting { Means.silent setting with heed := watch.heed } fuel

end Watch

def executeAloud (setting : Setting) (watch : Watch) (fuel : Nat) (entries : List Entry)
    (context : ActionContext)
    (event : Value) (dispatch : Dispatch) (depth : Value) : Run World Unit :=
  (watch.powers setting fuel).execute entries context event dispatch depth

def executePersistedAloud (setting : Setting) (watch : Watch) (fuel : Nat) (source : Value)
    (context : ActionContext)
    (event : Value) (dispatch : Dispatch) (depth : Value) : Run World Unit :=
  executePersistedWith (watch.powers setting fuel) source context event dispatch depth

end Execute

theorem Action.kind_ne_execute (action : Action) : action.kind ≠ "execute" := by
  cases action <;> simp [Action.kind]

namespace Machine

def saying (logs : List LogRecord) (machine : Machine) : Machine :=
  machine.modifyJournal fun journal => { journal with logs := logs }

/-- A log repeats the log of a machine, and names as many dispatches as were recorded or are about
to be. -/
structure Hears (watch : Execute.Watch) (earlier : Metrics Value)
    (pending : Nat) (logs : List LogRecord)
    (metrics : Metrics Value) (machine : Machine) : Prop where
  collected : (machine.host watch.host).metrics = some metrics
  capacity : (machine.host watch.host).sink.capacity.IsNumber
  continues : metrics.Continues watch.kind earlier
  told : logs.length + watch.reading earlier = machine.journal.logs.length +
    watch.reading metrics + pending

def heard (watch : Execute.Watch) (earlier : Metrics Value) (pending : Nat) :
    Pairing Machine Machine where
  twin machine another := ∃ logs metrics, another = machine.saying logs ∧
    machine.Hears watch earlier pending logs metrics
  excused _ := False
  lost := False
  lenient _ _ _ := id

section Hearing

variable {watch : Execute.Watch} {earlier : Metrics Value} {pending : Nat}

theorem agrees_of_heard {α : Type} (view : Machine → α)
    (blind : ∀ logs machine, view (saying logs machine) = view machine) {machine another : Machine}
    (twin : (heard watch earlier pending).twin machine another) : view another = view machine := by
  obtain ⟨logs, _, rfl, _⟩ := twin
  exact blind logs machine

/-- A change that leaves logs and hosts alone. -/
theorem stays_silent {change : Machine → Machine}
    (same : ∀ logs machine, change (saying logs machine) = (change machine).saying logs)
    (silent : ∀ machine, (change machine).journal.logs = machine.journal.logs)
    (hosts : ∀ machine, (change machine).hosts = machine.hosts) :
    (heard watch earlier pending).Stays change change := by
  rintro machine _ ⟨logs, metrics, rfl, hears⟩
  have host : (change machine).host watch.host = machine.host watch.host := by
    unfold Machine.host
    rw [hosts]
  refine ⟨⟨logs, metrics, same logs machine, ?_, ?_, hears.continues, ?_⟩, id⟩
  · rw [host]
    exact hears.collected
  · rw [host]
    exact hears.capacity
  · rw [silent]
    exact hears.told

/-- A change of a host that leaves its collector and the capacity of its sink alone. -/
theorem Hears.modify_host {logs : List LogRecord} {metrics : Metrics Value} {machine : Machine}
    (hears : machine.Hears watch earlier pending logs metrics) {number : Nat}
    {change : HostState → HostState}
    (collected : (change (machine.host number)).metrics = (machine.host number).metrics)
    (capacity : (change (machine.host number)).sink.capacity =
      (machine.host number).sink.capacity) :
    (machine.modifyHost number change).Hears watch earlier pending logs metrics := by
  rcases host_modify_host_cases number watch.host machine change with same | ⟨rfl, changed⟩
  · refine ⟨?_, ?_, hears.continues, hears.told⟩
    · rw [same]
      exact hears.collected
    · rw [same]
      exact hears.capacity
  · refine ⟨?_, ?_, hears.continues, hears.told⟩
    · rw [changed, collected]
      exact hears.collected
    · rw [changed, capacity]
      exact hears.capacity

theorem stays_modify_host_heard (number : Nat) {change : HostState → HostState}
    (collected : ∀ state, (change state).metrics = state.metrics)
    (capacity : ∀ state, (change state).sink.capacity = state.sink.capacity) :
    (heard watch earlier pending).Stays (modifyHost number change) (modifyHost number change) := by
  rintro machine _ ⟨logs, metrics, rfl, hears⟩
  exact ⟨⟨logs, metrics, rfl, hears.modify_host (collected _) (capacity _)⟩, id⟩

theorem stays_log_heard (level : LogLevel) (source : LogSource) (message : String) :
    (heard watch earlier pending).Stays (log level source message) (log level source message) := by
  rintro machine _ ⟨logs, metrics, rfl, hears⟩
  refine ⟨⟨logs ++ [⟨level, source, message⟩], metrics, rfl, hears.collected, hears.capacity,
    hears.continues, ?_⟩, id⟩
  change (logs ++ [_]).length + _ = (machine.journal.logs ++ [_]).length + _ + _
  have told := hears.told
  simp only [List.length_append, List.length_singleton]
  omega

/-- A word in the second log only is a dispatch that is about to be recorded. -/
theorem twin_of_announced {machine another : Machine}
    (twin : (heard watch earlier pending).twin machine another)
    (level : LogLevel) (source : LogSource) (message : String) :
    (heard watch earlier (pending + 1)).twin machine (another.log level source message) := by
  obtain ⟨logs, metrics, rfl, hears⟩ := twin
  refine ⟨logs ++ [⟨level, source, message⟩], metrics, rfl, hears.collected,
    hears.capacity, hears.continues, ?_⟩
  have told := hears.told
  rw [List.length_append, List.length_singleton]
  omega

theorem pairs_add_fault_heard (number : Nat) (fault : Fault) :
    InStep (heard watch earlier pending) (addFault number fault) (addFault number fault) := by
  apply Pairs.of_matches fun _ => id
  rintro machine _ ⟨logs, metrics, rfl, hears⟩
  unfold addFault Run.update
  have same : (machine.saying logs).host number = machine.host number := rfl
  dsimp only
  rw [same]
  cases added : (machine.host number).sink.add fault with
  | error failure => exact ⟨rfl, logs, metrics, rfl, hears⟩
  | ok sink => exact ⟨rfl, logs, metrics, rfl, hears.modify_host rfl (Sink.capacity_add added)⟩

/-- Calls of a collector that change what a watch reads as much as what is about to be recorded;
other collectors are no matter. -/
theorem matches_on_metrics {number later : Nat} {body : Run (Metrics Value) Unit}
    {machine another : Machine}
    (twin : (heard watch earlier pending).twin machine another)
    (elsewhere : number ≠ watch.host → later = pending)
    (here : number = watch.host → ∀ metrics : Metrics Value, metrics.Continues watch.kind earlier →
      ∃ after, body metrics = .done () after ∧ after.Continues watch.kind earlier ∧
        watch.reading after + later = watch.reading metrics + pending) :
    (onMetrics number () body machine).Matches (heard watch earlier later)
      (onMetrics number () body another) := by
  obtain ⟨logs, metrics, rfl, hears⟩ := twin
  have same : (machine.saying logs).host number = machine.host number := rfl
  unfold onMetrics
  rw [same]
  by_cases own : number = watch.host
  · obtain ⟨after, done, continued, read⟩ := here own metrics hears.continues
    subst own
    rw [hears.collected]
    dsimp only
    rw [done]
    have host := host_modify_host_self (host_of_metrics hears.collected) fun state =>
      { state with metrics := some after }
    refine ⟨rfl, logs, after, rfl, ?_, ?_, continued, ?_⟩
    · rw [host]
    · rw [host]
      exact hears.capacity
    · have told := hears.told
      change _ = machine.journal.logs.length + _ + _
      omega
  · rw [elsewhere own]
    have others (found : Metrics Value) : (machine.modifyHost number fun state =>
        { state with metrics := some found }).Hears watch earlier pending logs metrics := by
      have host := host_modify_host_of_ne (Ne.symm own) machine fun state =>
        { state with metrics := some found }
      refine ⟨?_, ?_, hears.continues, hears.told⟩
      · rw [host]
        exact hears.collected
      · rw [host]
        exact hears.capacity
    cases (machine.host number).metrics with
    | none => exact ⟨rfl, logs, metrics, rfl, hears⟩
    | some found =>
        dsimp only
        cases body found with
        | done value after => exact ⟨rfl, logs, metrics, rfl, others after⟩
        | raised failure after => exact ⟨rfl, logs, metrics, rfl, others after⟩
        | exhausted => trivial

theorem pairs_on_metrics_heard (number : Nat) {body : Run (Metrics Value) Unit}
    (spares : Metrics.Spares watch.kind body) :
    InStep (heard watch earlier pending) (onMetrics number () body) (onMetrics number () body) := by
  refine Pairs.of_matches (fun _ => id) fun machine another twin => ?_
  refine matches_on_metrics twin (fun _ => rfl) fun _ metrics continues => ?_
  obtain ⟨after, done, continued, same⟩ := spares earlier metrics continues
  have read : watch.reading after = watch.reading metrics :=
    Metrics.outcomes_of_same same watch.succeeded
  exact ⟨after, done, continued, by rw [read]⟩

theorem pairs_finish_timing_heard (number : Nat) {name category : String}
    (different : ¬("action" = category ∧ watch.kind = name)) (budget started : Value) :
    InStep (heard watch earlier pending)
      (finishTiming number (.text name) (.text category) budget started)
      (finishTiming number (.text name) (.text category) budget started) := by
  refine .get_bind fun machine another twin => ?_
  have clock : another.now = machine.now := agrees_of_heard now (fun _ _ => rfl) twin
  dsimp only
  rw [clock]
  refine (pairs_on_metrics_heard number (Metrics.record_spares different _ _ _ _)).bind fun _ => ?_
  refine (Pairs.of_except _).bind fun exceeded => ?_
  cases exceeded with
  | true => exact .modify (stays_log_heard _ _ _)
  | false => exact .pure ()

theorem pairs_advance_heard (seconds : Value) :
    InStep (heard watch earlier pending) (advance seconds) (advance seconds) := by
  apply Pairs.of_matches fun _ => id
  rintro machine _ ⟨logs, metrics, rfl, hears⟩
  have clock : (machine.saying logs).journal.clock = machine.journal.clock := rfl
  unfold advance Run.update Journal.advance
  dsimp only
  rw [clock]
  cases seconds.addTo machine.journal.clock with
  | error failure => exact ⟨rfl, logs, metrics, rfl, hears⟩
  | ok later =>
      exact ⟨rfl, logs, metrics, rfl, hears.collected, hears.capacity, hears.continues, hears.told⟩

/-- How an action ended is recorded for a watch that listens for it, and is no matter to any
other. -/
theorem matches_record {number later : Nat} {kind : String} {succeeded : Bool}
    {machine another : Machine} (twin : (heard watch earlier pending).twin machine another)
    (counted : later +
      (if number = watch.host ∧ kind = watch.kind ∧ succeeded = watch.succeeded then 1 else 0) =
      pending) (now started finished : Value) :
    (onMetrics number ()
      (Metrics.record (.text kind) (.text "action") now (Measure.elapsed started finished)
      (some succeeded)) machine).Matches (heard watch earlier later)
      (onMetrics number ()
        (Metrics.record (.text kind) (.text "action") now (Measure.elapsed started finished)
        (some succeeded)) another) := by
  refine matches_on_metrics twin (fun other => ?_) fun own metrics continues => ?_
  · rw [if_neg fun same => other same.1] at counted
    exact counted
  · by_cases named : kind = watch.kind
    · subst named
      obtain ⟨after, recorded, continued, outcomes⟩ :=
        continues.record now started finished succeeded
      have read : watch.reading after = watch.reading metrics + _ := outcomes watch.succeeded
      refine ⟨after, recorded, continued, ?_⟩
      simp only [own, true_and] at counted
      omega
    · obtain ⟨after, recorded, continued, same⟩ :=
        Metrics.record_spares (fun both => named both.2.symm) now started
        finished (some succeeded) earlier metrics continues
      have read : watch.reading after = watch.reading metrics :=
        Metrics.outcomes_of_same same watch.succeeded
      rw [if_neg fun same => named same.2.1] at counted
      exact ⟨after, recorded, continued, by omega⟩

/-- Evaluation does not tell the machines apart, and records no actions. -/
theorem evaluate_accord_of_heard (environment : Environment) (proper : watch.kind ≠ "execute") :
    Evaluate.Accord (heard watch earlier pending) Failure.none
      (fun _ => True) environment environment where
  formulas _ := rfl
  components _ := rfl
  cycles _ _ twin := agrees_of_heard cycleStacks (fun _ _ => rfl) twin
  closures _ _ twin := agrees_of_heard closures (fun _ _ => rfl) twin
  entries _ _ twin := agrees_of_heard (fun machine => machine.journal.entries) (fun _ _ => rfl) twin
  trails _ _ twin number :=
    agrees_of_heard (fun machine => (machine.host number).trail) (fun _ _ => rfl) twin
  memos _ _ twin number :=
    agrees_of_heard (fun machine => (machine.host number).memo) (fun _ _ => rfl) twin
  totals machine counterpart after later twin paired number := by
    have total :=
      agrees_of_heard (fun machine => (machine.host number).sink.total) (fun _ _ => rfl) twin
    have last := agrees_of_heard (fun machine => (machine.host number).sink.total)
        (fun _ _ => rfl) paired
    rw [total, last]
  handles _ _ _ _ _ _ := trivial
  checks _ _ twin category value := .inl (agrees_of_heard
    (fun machine => machine.limits.check category "max_depth" value) (fun _ _ => rfl) twin)
  handlers _ _ _ := .inr fun _ _ twin => agrees_of_heard limits (fun _ _ => rfl) twin
  faults _ := False.elim
  restacked change := stays_silent (fun _ _ => rfl) (fun _ => rfl) fun _ => rfl
  enclosed closure _ := stays_silent (fun _ _ => rfl) (fun _ => rfl) fun _ => rfl
  trailed number _ := stays_modify_host_heard number (fun _ => rfl) fun _ => rfl
  memorized number _ := stays_modify_host_heard number (fun _ => rfl) fun _ => rfl
  noted change := stays_silent (fun _ _ => rfl) (fun _ => rfl) fun _ => rfl
  logged level source message := stays_log_heard level source message
  spoken number message := .choose (fun _ => .modify (stays_log_heard _ _ _)) fun _ => .pure ()
  added number fault _ := pairs_add_fault_heard number fault
  cut _ _ _ _ _ := False.elim
  advanced := pairs_advance_heard
  looked number name hit := pairs_on_metrics_heard number (Metrics.record_cache_spares _ name hit)
  closed number name category budget opened counterpart _ whole twin := by
    have clock : counterpart.now = opened.now := agrees_of_heard now (fun _ _ => rfl) twin
    have limits : counterpart.limits = opened.limits := agrees_of_heard limits (fun _ _ => rfl) twin
    have metrics : counterpart.hasMetrics number = opened.hasMetrics number :=
      agrees_of_heard (hasMetrics number) (fun _ _ => rfl) twin
    have different : ¬("action" = category ∧ watch.kind = name) :=
      fun same => proper (same.2.trans (whole same.1.symm))
    unfold closing
    rw [clock, limits, metrics]
    exact .choose (fun _ => pairs_finish_timing_heard _ different _ _) fun _ => .pure ()

end Hearing
end Machine

namespace Execute

theorem accord_of_heard (watch : Watch) (earlier : Metrics Value)
    (pending : Nat) (setting : Setting)
    (proper : watch.kind ≠ "execute") : Accord
    (Bond.over (Machine.heard watch earlier pending)) setting
      fun number => (setting.instances number).logErrors :=
  accord_over (Machine.evaluate_accord_of_heard setting.environment proper)

abbrev heard (watch : Watch) (earlier : Metrics Value) (pending : Nat) : Pairing World World :=
  (Bond.over (Machine.heard watch earlier pending)).worlds

section Dispatches

variable {setting : Setting} {context : ActionContext} {index : Nat} {kind : String}

def conclude (setting : Setting) (context : ActionContext) (kind : String)
    (index : Nat) (started : Value) (outcome : Except Failure Unit) : Run World Unit := do
  let succeeded ← Run.ensuring (World.modifyMachine (Machine.popStep context.stackHost))
    (keepOutcome setting context kind index outcome)
  let after ← Run.get
  onMachine (Machine.onMetrics context.host () (Metrics.record (.text kind) (.text "action")
    after.machine.now (Measure.elapsed started after.machine.now) (some succeeded)))

theorem outcome_kept {outcome : Except Failure Unit} {world after : World} {succeeded : Bool}
    (ended : keepOutcome setting context kind index outcome world = .done succeeded after) :
    succeeded = outcome.isOk := by
  cases outcome with
  | ok =>
      cases ended
      rfl
  | error failure =>
      obtain ⟨_, _, _, ended⟩ := done_of_bind ended
      cases ended
      rfl

/-- A failure is kept wherever the capacity of the sink is a number. -/
theorem keep_outcome_done {world : World}
    (capacity : (world.machine.host context.host).sink.capacity.IsNumber)
    (outcome : Except Failure Unit) :
    ∃ succeeded after, keepOutcome setting context kind index outcome world =
    .done succeeded after := by
  cases outcome with
  | ok => exact ⟨_, _, rfl⟩
  | error failure =>
      have recorded : ∃ after, recordFailure setting context kind index failure world = .done
          () after := by
        cases failure with
        | fault fault =>
            have logged :
                ((world.log .warning fault.text).machine.host
                  context.host).sink.capacity.IsNumber := capacity
            obtain ⟨after, added⟩ := Machine.add_fault_done logged
              (fault.stamp (world.machine.trailSteps context.stackHost))
            exact ⟨_, congrArg (Result.mapState _) added⟩
        | mishap mishap =>
            have logged : ((world.log .error ("Action execution error in " ++ kind)).machine.host
                context.host).sink.capacity.IsNumber := capacity
            obtain ⟨after, added⟩ :=
              Machine.add_fault_done logged (Fault.action (.text kind) (.ofNat index)
              (.text ("Action execution error: " ++ mishap.message))
                (world.machine.trailSteps context.stackHost)
              (componentName setting context.host) (some mishap))
            exact ⟨_, congrArg (Result.mapState _) added⟩
      obtain ⟨after, recorded⟩ := recorded
      exact ⟨false, after, bind_of_done recorded⟩

/-- The boundary around an action, where what is announced inside does not fail. -/
theorem behind_boundary_eq {powers : Powers} (body : Run World Unit)
    (calm : ∀ outcome : Except Failure Unit, ∀ next : Run World Bool,
      Run.ensuring (World.modifyMachine (Machine.popStep context.stackHost))
          (powers.heed (.dispatched context.host kind outcome.isOk) >>= fun _ => next) =
        powers.heed (.dispatched context.host kind outcome.isOk) >>= fun _ =>
          Run.ensuring (World.modifyMachine (Machine.popStep context.stackHost)) next) :
    behindBoundary setting powers context kind index body = (do
      let before ← Run.get
      Run.modify (World.modifyMachine (Machine.pushStep context.stackHost "action" kind))
      let outcome ← Run.attempt body
      powers.heed (.dispatched context.host kind outcome.isOk)
      conclude setting context kind index before.machine.now outcome) := by
  funext world
  have inside :=
    ensuring_attempt_bind (World.modifyMachine (Machine.popStep context.stackHost)) body
      fun outcome => powers.heed (.dispatched context.host kind outcome.isOk) >>= fun _ =>
        keepOutcome setting context kind index outcome
  change (Run.ensuring _ (Run.attempt _ >>= fun outcome =>
    powers.heed (.dispatched context.host kind outcome.isOk) >>= fun _ =>
      keepOutcome setting context kind index outcome) >>= fun _ => _) _ = _
  rw [inside, Run.bind_assoc]
  simp only [calm, Run.bind_assoc]
  rfl

theorem ensuring_heed_bind {β : Type} (watch : Watch) (succeeded : Bool) (next : Run World β) :
    Run.ensuring (World.modifyMachine (Machine.popStep context.stackHost))
        (watch.heed (.dispatched context.host kind succeeded) >>= fun _ => next) =
      watch.heed (.dispatched context.host kind succeeded) >>= fun _ =>
        Run.ensuring (World.modifyMachine (Machine.popStep context.stackHost)) next := by
  unfold Watch.heed
  dsimp only
  split <;> rfl

variable {watch : Watch} {earlier : Metrics Value} {pending later : Nat}

theorem pairs_keep_outcome (proper : watch.kind ≠ "execute") (outcome : Except Failure Unit) :
    InStep (heard watch earlier pending) (keepOutcome setting context kind index outcome)
      (keepOutcome setting context kind index outcome) := by
  cases outcome with
  | ok => exact .pure true
  | error failure =>
      exact (pairs_record_failure (accord_of_heard watch earlier pending setting proper)
        trivial _ _ failure).bind
        fun _ => .pure false

/-- What a watch was told of an action is recorded when the action is left behind. -/
theorem conclude_matches (proper : watch.kind ≠ "execute") {world counterpart : World}
    (twin : (heard watch earlier pending).twin world counterpart) (started : Value)
    {outcome : Except Failure Unit}
    (counted : later + (if watch.hears context.host kind outcome.isOk = true then 1 else 0) =
      pending) :
    (conclude setting context kind index started outcome world).Matches (heard watch earlier later)
      (conclude setting context kind index started outcome counterpart) := by
  have accord := accord_of_heard watch earlier pending setting proper
  have leaves := stays_modify_machine (accord.formulas.trailed context.stackHost Trail.pop)
  have keeps : InStep (heard watch earlier pending) (keepOutcome setting context kind index outcome)
      (keepOutcome setting context kind index outcome) := pairs_keep_outcome proper outcome
  have kept := Result.matches_of_unexcused ((keeps.ensuring leaves).follows world counterpart twin)
      (fun _ => id) id
  have listens : watch.hears context.host kind outcome.isOk = true ↔
      context.host = watch.host ∧ kind = watch.kind ∧ outcome.isOk = watch.succeeded := by
    simp [Watch.hears, and_assoc]
  refine Pairs.matches_bind kept (fun succeeded after last ended paired => ?_)
    fun failure after last ended paired => ?_
  · have value : succeeded = outcome.isOk := by
      obtain ⟨_, inside⟩ := done_of_ensuring ended
      exact outcome_kept inside
    have clock : last.machine.now = after.machine.now :=
      Machine.agrees_of_heard Machine.now (fun _ _ => rfl) paired.machine
    rw [← value] at counted listens
    simp only [listens] at counted
    have recorded :=
      Machine.matches_record paired.machine counted after.machine.now started after.machine.now
    change (onMachine (Machine.onMetrics context.host () _) after).Matches _
      (onMachine (Machine.onMetrics context.host () (Metrics.record _ _ last.machine.now
        (Measure.elapsed started last.machine.now) _)) last)
    rw [clock]
    exact recorded.map_state fun _ _ machines => twin_over_set_machine paired machines
  · by_cases told : watch.hears context.host kind outcome.isOk = true
    · obtain ⟨logs, metrics, _, hears⟩ := twin.machine
      have capacity : (world.machine.host context.host).sink.capacity.IsNumber := by
        rw [(listens.mp told).1]
        exact hears.capacity
      obtain ⟨flag, middle, done⟩ : ∃ succeeded after,
          keepOutcome setting context kind index outcome world = .done succeeded after :=
        keep_outcome_done capacity outcome
      unfold Run.ensuring at ended
      rw [done] at ended
      cases ended
    · rw [if_neg told] at counted
      obtain rfl : later = pending := counted
      exact paired

theorem pairs_boundary_aloud (proper : watch.kind ≠ "execute") {first second : Powers}
    (silent : first.IsSilent) (aloud : second.heed = watch.heed) {body other : Run World Unit}
    (pairs : InStep (heard watch earlier 0) body other) :
    InStep (heard watch earlier 0) (behindBoundary setting first context kind index body)
      (behindBoundary setting second context kind index other) := by
  have accord := accord_of_heard watch earlier 0 setting proper
  rw [behind_boundary_eq body fun outcome next => by rw [silent _]; rfl,
    behind_boundary_eq other fun outcome next =>
      by rw [aloud]; exact ensuring_heed_bind watch outcome.isOk next]
  refine .get_bind fun before began twin => ?_
  have clock : began.machine.now = before.machine.now :=
    Machine.agrees_of_heard Machine.now (fun _ _ => rfl) twin.machine
  rw [clock]
  refine (Pairs.modify (stays_modify_machine (accord.formulas.trailed context.stackHost
    (Trail.pushNamed "action" kind)))).bind fun _ => pairs.attempt.bind fun outcome => ?_
  rw [silent _, aloud]
  refine Pairs.of_matches (fun _ => id) fun world counterpart paired => ?_
  unfold Watch.heed
  dsimp only
  by_cases told : watch.hears context.host kind outcome.isOk = true
  · rw [if_pos told]
    have announced :=
      twin_over_set_machine paired (Machine.twin_of_announced paired.machine .warning .execute
      ("Dispatched " ++ watch.kind))
    exact conclude_matches proper announced _ (by rw [if_pos told])
  · rw [if_neg told]
    exact conclude_matches proper paired _ (by rw [if_neg told])

end Dispatches

theorem accompanied_aloud {setting : Setting} {watch : Watch} {earlier : Metrics Value}
    (proper : watch.kind ≠ "execute") (fuel : Nat) :
    Accompanied (Bond.over (Machine.heard watch earlier 0)) (powers setting fuel)
      (watch.powers setting fuel) := by
  have accord := accord_of_heard watch earlier 0 setting proper
  have silent := attuned_silent accord
  have attuned : Attuned (Bond.over (Machine.heard watch earlier 0)) (.silent setting)
      { Means.silent setting with heed := watch.heed } :=
    ⟨silent.evaluates, silent.invokes, fun announcement other => by
      cases announcement with
      | dispatched host kind succeeded => exact absurd trivial other
      | _ => exact .pure ()⟩
  induction fuel with
  | zero => exact ⟨attuned, fun _ _ _ _ _ _ _ => .exhaust, fun _ => .exhaust⟩
  | succ fuel ih =>
      refine ⟨attuned, fun entries context event dispatch depth _ _ => ?_,
        Signal.pairs_script accord.signals ih.calls (pairs_effect accord ih)⟩
      refine pairs_run_list accord trivial depth
        (.for_each_indexed entries 0 fun index => pairs_entry_with accord ?_)
      exact fun action => pairs_boundary_aloud proper (fun _ => rfl) rfl
        (pairs_action accord ih trivial dispatch.is_within_all action)

def World.withoutLogs (world : World) : World :=
  world.modifyMachine (Machine.saying [])

def logged (result : Result World Unit) : Nat :=
  (result.state?.map fun last => last.machine.journal.logs.length).getD 0

def dispatches (run aloud : Run World Unit) (world : World) : Nat :=
  logged (aloud world) - logged (run world)

/-- Collectors count what a run dispatches.  The run goes on alike when it announces its
dispatches. -/
def CountsDispatches (run : Run World Unit) (aloud : Watch → Run World Unit) : Prop :=
  ∀ (world last : World) (number : Nat) (metrics : Metrics Value),
    (world.machine.host number).metrics = some metrics →
    metrics.enabled = true → metrics.IsMeasured →
    (world.machine.host number).sink.capacity.IsNumber → (run world).state? = some last →
    ∃ after, (last.machine.host number).metrics = some after ∧ after.enabled =
    true ∧ ∀ action : Action,
      let successes := dispatches run (aloud ⟨number, action.kind, true⟩) world
      let failures := dispatches run (aloud ⟨number, action.kind, false⟩) world
      (after.actions action.kind).count = (metrics.actions action.kind).count + successes +
      failures ∧
      (after.actions action.kind).successCount = (metrics.actions action.kind).successCount +
      successes ∧
      (after.actions action.kind).failureCount = (metrics.actions action.kind).failureCount +
      failures ∧
      ∀ succeeded, (aloud ⟨number, action.kind, succeeded⟩ world).mapState World.withoutLogs =
        (run world).mapState World.withoutLogs

theorem without_logs_of_twin {watch : Watch} {earlier : Metrics Value} {pending : Nat}
    {world counterpart : World} (twin : (heard watch earlier pending).twin world counterpart) :
    counterpart.withoutLogs = world.withoutLogs := by
  rw [twin.counterpart_eq, lifted_over]
  exact congrArg (fun machine => world.setMachine machine)
    (Machine.agrees_of_heard (Machine.saying []) (fun _ _ => rfl) twin.machine)

theorem reading_of_pairs {run aloud : Run World Unit} {watch : Watch} {metrics : Metrics Value}
    (pairs : InStep (heard watch metrics 0) run aloud) {world last : World}
    (collected : (world.machine.host watch.host).metrics = some metrics)
    (enabled : metrics.enabled = true)
    (measured : metrics.IsMeasured)
    (capacity : (world.machine.host watch.host).sink.capacity.IsNumber)
    (left : (run world).state? = some last) :
    ∃ after, (last.machine.host watch.host).metrics = some after ∧
    after.Continues watch.kind metrics ∧
      watch.reading after = watch.reading metrics + dispatches run aloud world ∧
      (aloud world).mapState World.withoutLogs = (run world).mapState World.withoutLogs := by
  have twin : (heard watch metrics 0).twin world world :=
    twin_over ⟨world.machine.journal.logs, metrics, rfl, collected, capacity,
      .start watch.kind enabled measured, rfl⟩
  have matched := Result.matches_of_unexcused (pairs.follows world world twin) (fun _ => id) id
  obtain ⟨counterpart, reached, paired⟩ := Result.counterpart_of_matches matched left
  obtain ⟨logs, after, spoken, hears⟩ := paired.machine
  refine ⟨after, hears.collected, hears.continues, ?_,
    Result.map_state_of_matches matched fun _ _ =>
    without_logs_of_twin⟩
  have told := hears.told
  have grown : watch.reading metrics ≤ watch.reading after := hears.continues.grown watch.succeeded
  have heard : counterpart.machine.journal.logs = logs := by
    rw [spoken]
    rfl
  unfold dispatches logged
  rw [reached, left]
  simp only [Option.map_some, Option.getD_some, heard]
  omega

theorem counts_of_pairs {run : Run World Unit} {aloud : Watch → Run World Unit}
    (pairs : ∀ watch earlier, watch.kind ≠ "execute" →
      InStep (heard watch earlier 0) run (aloud watch)) :
    CountsDispatches run aloud := by
  intro world last number metrics collected enabled measured capacity left
  have reads (action : Action) (succeeded : Bool) := reading_of_pairs
    (pairs ⟨number, action.kind, succeeded⟩ metrics action.kind_ne_execute) collected
    enabled measured capacity left
  obtain ⟨after, found, _⟩ := reads (.abortFetch "") true
  have known (action : Action) (succeeded : Bool) : after.Continues action.kind metrics ∧
      after.outcomes action.kind succeeded = metrics.outcomes action.kind succeeded +
        dispatches run (aloud ⟨number, action.kind, succeeded⟩) world ∧
      (aloud ⟨number, action.kind, succeeded⟩ world).mapState World.withoutLogs =
        (run world).mapState World.withoutLogs := by
    obtain ⟨other, present, continues, read, alike⟩ := reads action succeeded
    obtain rfl : other = after := Option.some.inj (present.symm.trans found)
    exact ⟨continues, read, alike⟩
  refine ⟨after, found, (known (.abortFetch "") true).1.enabled, fun action => ?_⟩
  have settled := (known action true).1.settled
  have successes := (known action true).2.1
  have failures := (known action false).2.1
  refine ⟨?_, successes, failures, fun succeeded => (known action succeeded).2.2⟩
  rw [successes, failures] at settled
  omega

theorem executions_count (setting : Setting) (fuel : Nat) (entries : List Entry)
    (context : ActionContext) (event : Value) (dispatch : Dispatch) (depth : Value) :
    CountsDispatches (execute setting fuel entries context event dispatch depth) fun watch =>
      executeAloud setting watch fuel entries context event dispatch depth :=
  counts_of_pairs fun _ _ proper =>
    (accompanied_aloud proper fuel).executes entries context event dispatch depth
      trivial dispatch.is_within_all

theorem persisted_executions_count (setting : Setting) (fuel : Nat) (source : Value)
    (context : ActionContext) (event : Value) (dispatch : Dispatch) (depth : Value) :
    CountsDispatches (executePersisted setting fuel source context event dispatch depth)
      fun watch => executePersistedAloud setting watch fuel source context event dispatch depth :=
  counts_of_pairs fun watch earlier proper => pairs_persisted
    (accord_of_heard watch earlier 0 setting proper)
    (accompanied_aloud proper fuel) trivial dispatch.is_within_all source event depth

end Execute

/-- Entries sum up what was recorded under their names since the collector was last cleared, in
whatever order the calls come, and executions record each action that they dispatch once, as a
success or a failure. -/
theorem collectors_keep_count :
    (∀ (δ : Type) [AddCommGroup δ] [LinearOrder δ] (code : Timekeeping δ) (now : δ),
      ∃ last, code.run (Stopwatch.opened now) = Run.ofExcept (code.tell (Diary.blank now)).1 last ∧
        last.metrics.Accounts (code.tell (Diary.blank now)).2.history) ∧
    (∀ setting fuel entries context event dispatch depth, Execute.CountsDispatches
      (Execute.execute setting fuel entries context event dispatch depth) fun watch =>
        Execute.executeAloud setting watch fuel entries context event dispatch depth) ∧
    ∀ setting fuel source context event dispatch depth, Execute.CountsDispatches
      (Execute.executePersisted setting fuel source context event dispatch depth) fun watch =>
        Execute.executePersistedAloud setting watch fuel source context event dispatch depth :=
  ⟨fun _ _ _ code now => collectors_account code now, Execute.executions_count,
    Execute.persisted_executions_count⟩

/-- Timings that overlap, one of them started again and ended twice, in a block that is left by a
failure. -/
def overlapping : Timekeeping Int :=
  .recordCache "total" true <| .time "total" "formula" 0
    (.start "first" "total" "formula" <| .wait 2 <| .start "second" "total" "formula" <| .wait 1 <|
      .start "first" "total" "formula" <| .wait 1 <| .finish "first" (some true) fun _ =>
      .finish "first" none fun _ => .finish "second" (some false) fun _ => .leave
        (.error (.mishap (.failed "stop"))))
    fun _ => .leave (.ok ())

/-- The muted world with a new collector. -/
def collecting : Execute.World :=
  Execute.mutedWorld.modifyMachine fun machine =>
    { machine with
      hosts := #[{ HostState.blank with
        sink := Sink.ofCapacity (.int 5), metrics := some (Metrics.empty true (.ofFloat 0 0.0)) }] }

namespace Execute

def untakenEvent : List Entry :=
  [.action (.triggerEvent "seen" none)]

def runUntaken : Run World Unit :=
  execute muted 2 untakenEvent (muted.contextOf 0) .null .none (.int 1)

def runUntakenAloud (watch : Watch) : Run World Unit :=
  executeAloud muted watch 2 untakenEvent (muted.contextOf 0) .null .none (.int 1)

def untaken (powers : Powers) : Run World Bool :=
  onTrail 0 "action" "TriggerEvent" <| contain muted powers (muted.contextOf 0) "TriggerEvent" 0 <|
    runAction muted powers (muted.contextOf 0) .null .none (.int 1) (.triggerEvent "seen" none)

/-- What was said by the end of an action is still in the log when the action has been recorded. -/
theorem logged_of_recorded (body : Run World Bool) (spoken : Nat) {succeeded : Bool}
    (ends : ∃ middle, body collecting = .done succeeded middle ∧
      middle.machine.journal.logs.length = spoken ∧
      (middle.machine.host 0).metrics = some (Metrics.empty true (.ofFloat 0 0.0))) :
    ∃ last, ((do
      let before ← Run.get
      let succeeded ← body
      let after ← Run.get
      onMachine (Machine.onMetrics 0 () (Metrics.record (.text "TriggerEvent") (.text "action")
        after.machine.now (Measure.elapsed before.machine.now after.machine.now)
          (some succeeded)))) :
          Run World Unit) collecting = .done () last ∧
          last.machine.journal.logs.length = spoken := by
  obtain ⟨middle, ended, told, collected⟩ := ends
  have measured : (Metrics.empty true (.ofFloat 0 0.0) : Metrics Value).IsMeasured := nofun
  obtain ⟨after, recorded, _⟩ := Metrics.record_measured "TriggerEvent" "action" middle.machine.now
    (elapsed_is_double collecting.machine.now middle.machine.now) (some succeeded) measured
  have kept : Machine.onMetrics 0 ()
      (Metrics.record (.text "TriggerEvent") (.text "action") middle.machine.now
      (Measure.elapsed collecting.machine.now middle.machine.now) (some succeeded)) middle.machine =
        .done () (middle.machine.modifyHost 0 fun state =>
          { state with metrics := some after }) := by
    unfold Machine.onMetrics
    rw [collected]
    dsimp only
    rw [recorded]
    rfl
  have noted : onMachine
      (Machine.onMetrics 0 () (Metrics.record (.text "TriggerEvent") (.text "action")
      middle.machine.now (Measure.elapsed collecting.machine.now middle.machine.now)
        (some succeeded))) middle =
        .done () (middle.setMachine
          (middle.machine.modifyHost 0 fun state => { state with metrics := some after })) :=
    congrArg (Result.mapState fun machine => middle.setMachine machine) kept
  exact ⟨_, (Run.bind_of_done ended).trans noted, told⟩

theorem run_untaken_ends :
    ∃ last, runUntaken collecting = .done () last ∧ last.machine.journal.logs.length = 1 := by
  obtain ⟨last, ended, quiet⟩ := logged_of_recorded (untaken (powers muted 1)) 1 ⟨_, rfl, rfl, rfl⟩
  have single : runUntaken collecting =
      (runGuarded muted (powers muted 1) (muted.contextOf 0) .null .none (.int 1) 0
      (.triggerEvent "seen" none) >>= fun _ => pure ()) collecting := rfl
  exact ⟨last, single.trans (Run.bind_of_done ended), quiet⟩

theorem run_untaken_aloud_ends (succeeded : Bool) :
    ∃ last, runUntakenAloud ⟨0, "TriggerEvent", succeeded⟩ collecting = .done () last ∧
      last.machine.journal.logs.length = if succeeded then 1 else 2 := by
  let watch : Watch := ⟨0, "TriggerEvent", succeeded⟩
  have inside : ∃ middle, untaken (watch.powers muted 1) collecting = .done false middle ∧
        middle.machine.journal.logs.length = (if succeeded then 1 else 2) ∧
        (middle.machine.host 0).metrics = some (Metrics.empty true (.ofFloat 0 0.0)) := by
    cases succeeded with
    | true => exact ⟨_, rfl, rfl, rfl⟩
    | false => exact ⟨_, rfl, rfl, rfl⟩
  obtain ⟨last, ended, spoken⟩ := logged_of_recorded _ _ inside
  have single : runUntakenAloud watch collecting =
      (runGuarded muted (watch.powers muted 1) (muted.contextOf 0) .null
      .none (.int 1) 0 (.triggerEvent "seen" none) >>= fun _ => pure ()) collecting := rfl
  exact ⟨last, single.trans (Run.bind_of_done ended), spoken⟩

theorem dispatches_untaken (succeeded : Bool) :
    dispatches runUntaken (runUntakenAloud ⟨0, "TriggerEvent", succeeded⟩) collecting =
    if succeeded then 0 else 1 := by
  obtain ⟨last, plain, quiet⟩ := run_untaken_ends
  obtain ⟨other, aloud, spoken⟩ := run_untaken_aloud_ends succeeded
  unfold dispatches
  rw [plain, aloud]
  change other.machine.journal.logs.length - last.machine.journal.logs.length = _
  rw [quiet, spoken]
  cases succeeded <;> rfl

end Execute

/-- Three timings sum up, and an event that nobody takes is a failed dispatch. -/
theorem overlapping_timings_and_failed_dispatch_are_kept :
    (∃ last metric, overlapping.run (Stopwatch.opened 0) = .done () last ∧
      last.metrics.get? (.text "total") (.text "formula") = some metric ∧ metric.count = 3 ∧
      metric.totalDuration = 7000 ∧ metric.minDuration = 1000 ∧ metric.maxDuration = 4000) ∧
    ∃ last after, (Execute.runUntaken collecting).state? = some last ∧
      (last.machine.host 0).metrics = some after ∧
      (after.actions "TriggerEvent").count = 1 ∧ (after.actions "TriggerEvent").successCount = 0 ∧
      (after.actions "TriggerEvent").failureCount = 1 := by
  constructor
  · obtain ⟨last, ended, accounts⟩ := collectors_keep_count.1 Int overlapping 0
    have recorded :
        (recordingsOf "formula" "total" (overlapping.tell (Diary.blank 0)).2.history).map
        Recording.duration = [4000, 2000, 1000] := by rfl
    have some : recordingsOf "formula" "total" (overlapping.tell (Diary.blank 0)).2.history ≠
        [] := by
      intro none
      rw [none] at recorded
      cases recorded
    cases found : last.metrics.get? (.text "total") (.text "formula") with
    | none => exact absurd ((accounts.absent _ _).mp found).1 some
    | some metric =>
        obtain ⟨sums, _⟩ := accounts.present _ _ metric found
        have least := sums.least some
        have greatest := sums.greatest some
        have total := sums.total
        rw [recorded] at least greatest total
        refine ⟨last, metric, ended, found, ?_, total, ?_, ?_⟩
        · rw [sums.count, ← List.length_map Recording.duration, recorded]
          rfl
        · exact least.unique ⟨by simp, by simp [mem_lowerBounds]⟩
        · exact greatest.unique ⟨by simp, by simp [mem_upperBounds]⟩
  · have counts : Execute.CountsDispatches Execute.runUntaken Execute.runUntakenAloud :=
      collectors_keep_count.2.1 Execute.muted 2 Execute.untakenEvent
        (Execute.muted.contextOf 0) .null .none (.int 1)
    obtain ⟨last, ended, _⟩ := Execute.run_untaken_ends
    have left := congrArg Result.state? ended
    obtain ⟨after, found, _, counted⟩ :=
      counts collecting last 0 _ rfl rfl nofun (Value.is_number_int 5) left
    obtain ⟨count, successes, failures, _⟩ := counted (.triggerEvent "seen" none)
    have never := Execute.dispatches_untaken true
    have once := Execute.dispatches_untaken false
    refine ⟨last, after, left, found, count.trans ?_, successes.trans ?_, failures.trans ?_⟩
    · exact congrArg₂ (fun first second => 0 + first + second) never once
    · exact congrArg (0 + ·) never
    · exact congrArg (0 + ·) once

end Interplay
