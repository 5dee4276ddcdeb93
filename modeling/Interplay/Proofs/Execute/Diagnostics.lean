import Interplay.Proofs.Execute.Requests
import Interplay.Proofs.Execute.Siblings

/-!
Diagnostics are inert.

Metrics, logs, the clock and what sinks hold are diagnostics.  Nothing that is asked of a world
depends on them: worlds that differ in nothing else answer alike, and differ in nothing else
afterwards.  Faults are told apart from sinks by counting: a sink that is full counts another fault
as one that is empty does, and a result is memoized by the count.
-/

namespace Interplay

open Run

/-- A host without metrics, whose sink only counts, from some number of faults on. -/
def HostState.withoutDiagnostics (counted : Nat) (state : HostState) : HostState :=
  { state with
    sink := { capacity := .int 0, kept := [], dropped := state.sink.total - counted }
    metrics := none }

namespace Machine

/-- How many faults the sinks have counted. -/
def counts (machine : Machine) (number : Nat) : Nat :=
  (machine.host number).sink.total

/-- What is left of a machine without its diagnostics; sinks count from given numbers on. -/
def withoutDiagnostics (counted : Nat → Nat) (machine : Machine) : Machine :=
  { machine with
    journal := { machine.journal with logs := [], clock := 0.0 }
    hosts := machine.hosts.mapIdx fun number state => state.withoutDiagnostics (counted number) }

def CountsFrom (counted : Nat → Nat) (machine : Machine) : Prop :=
  ∀ number, counted number ≤ machine.counts number

variable {counted : Nat → Nat} {machine after : Machine}

theorem host_without_diagnostics (counted : Nat → Nat) (machine : Machine) (number : Nat) :
    (machine.withoutDiagnostics counted).host number =
      (machine.host number).withoutDiagnostics (counted number) := by
  unfold host withoutDiagnostics
  rw [Array.getElem?_mapIdx]
  cases machine.hosts[number]? with
  | some state => rfl
  | none => simp [HostState.withoutDiagnostics, HostState.blank, Sink.total, Sink.ofCapacity]

theorem without_diagnostics_modify_host {number : Nat} {change shown : HostState → HostState}
    (same : ∀ state, machine.hosts[number]? = some state →
      (change state).withoutDiagnostics (counted number) =
        shown (state.withoutDiagnostics (counted number))) :
    (machine.modifyHost number change).withoutDiagnostics counted =
      (machine.withoutDiagnostics counted).modifyHost number shown := by
  unfold modifyHost withoutDiagnostics
  exact congrArg (fun hosts => ({ machine with journal := { machine.journal with logs := [], clock := 0.0 }
                                               hosts := hosts } : Machine)) (map_idx_modify same)

/-- A run that is done where books can be kept, and changes what is not diagnostic in a given
way. -/
def Performs (shown : Machine → Machine) (run : Run Machine Unit) : Prop :=
  ∀ counted (machine : Machine), machine.IsReady → machine.CountsFrom counted →
    ∃ after, run machine = .done () after ∧ after.IsReady ∧ after.CountsFrom counted ∧
      after.withoutDiagnostics counted = shown (machine.withoutDiagnostics counted)

/-- Machines that differ in diagnostics only, and in how much was counted before they started. -/
def inert (counted others : Nat → Nat) : Pairing Machine Machine where
  twin machine another := machine.IsReady ∧ another.IsReady ∧ machine.CountsFrom counted ∧
    another.CountsFrom others ∧
    another.withoutDiagnostics others = machine.withoutDiagnostics counted
  excused _ := False
  lost := False
  lenient _ _ _ := id

section Performing

variable {shown : Machine → Machine} {run other : Run Machine Unit} {others : Nat → Nat}

theorem pairs_of_performs (first : Performs shown run) (second : Performs shown other) :
    InStep (inert counted others) run other where
  follows machine another := by
    rintro ⟨ready, otherReady, since, otherSince, same⟩
    obtain ⟨after, done, stillReady, stillSince, left⟩ := first counted machine ready since
    obtain ⟨later, otherDone, otherStill, otherStillSince, right⟩ :=
      second others another otherReady otherSince
    rw [done, otherDone]
    exact .inl ⟨rfl, stillReady, otherStill, stillSince, otherStillSince, by rw [left, right, same]⟩
  keeps _ _ _ := False.elim

theorem stays_of_performs (shown : Machine → Machine) {change : Machine → Machine}
    (performs : Performs shown (Run.modify change)) :
    (inert counted others).Stays change change := by
  rintro machine beside ⟨ready, otherReady, since, otherSince, same⟩
  obtain ⟨_, ⟨⟩, stillReady, stillSince, left⟩ := performs counted machine ready since
  obtain ⟨_, ⟨⟩, otherStill, otherStillSince, right⟩ := performs others beside otherReady otherSince
  exact ⟨⟨stillReady, otherStill, stillSince, otherStillSince, by rw [left, right, same]⟩, id⟩

theorem performs_pure : Performs id (pure ()) :=
  fun _ machine ready since => ⟨machine, rfl, ready, since, rfl⟩

theorem performs_bind {further : Machine → Machine} (first : Performs shown run)
    (second : Performs further other) :
    Performs (further ∘ shown) (run >>= fun _ => other) := by
  intro counted machine ready since
  obtain ⟨middle, done, middleReady, middleSince, left⟩ := first counted machine ready since
  obtain ⟨after, finished, lastReady, lastSince, right⟩ :=
    second counted middle middleReady middleSince
  exact ⟨after, (bind_of_done done).trans finished, lastReady, lastSince, by rw [right, left]; rfl⟩

theorem performs_modify {change : Machine → Machine}
    (hosts : ∀ machine, (change machine).hosts = machine.hosts)
    (limits : ∀ machine, (change machine).limits = machine.limits)
    (same : ∀ counted machine,
      (change machine).withoutDiagnostics counted = shown (machine.withoutDiagnostics counted)) :
    Performs shown (Run.modify change) := by
  intro counted machine ready since
  refine ⟨change machine, rfl, ready.of_same (limits machine) (hosts machine),
    fun number => ?_, same counted machine⟩
  unfold counts host
  rw [hosts]
  exact since number

theorem performs_log (level : LogLevel) (source : LogSource) (message : String) :
    Performs id (Run.modify (log level source message)) :=
  performs_modify (fun _ => rfl) (fun _ => rfl) fun _ _ => rfl

/-- A change of a host that leaves its sink and its metrics alone. -/
theorem performs_modify_host (number : Nat) {change : HostState → HostState}
    (sinks : ∀ state, (change state).sink = state.sink)
    (metrics : ∀ state, (change state).metrics = state.metrics)
    (same : ∀ state counted, (change state).withoutDiagnostics counted =
      change (state.withoutDiagnostics counted)) :
    Performs (modifyHost number change) (Run.modify (modifyHost number change)) := by
  intro counted machine ready since
  have kept (other : Nat) : ((machine.modifyHost number change).host other).sink =
      (machine.host other).sink ∧
      ((machine.modifyHost number change).host other).metrics = (machine.host other).metrics := by
    rcases host_modify_host_cases number other machine change with same | ⟨_, changed⟩
    · rw [same]
      exact ⟨rfl, rfl⟩
    · rw [changed]
      exact ⟨sinks _, metrics _⟩
  refine ⟨machine.modifyHost number change, rfl, ⟨ready.limits, fun other => ?_, fun other => ?_⟩,
    fun other => ?_, ?_⟩
  · rw [(kept other).1]
    exact ready.capacities other
  · unfold HostState.IsMeasured
    rw [(kept other).2]
    exact ready.measured other
  · unfold counts
    rw [(kept other).1]
    exact since other
  · exact without_diagnostics_modify_host fun state _ => same state _

/-- A fault that is put into a sink is counted, whether it is kept or dropped. -/
theorem performs_add_fault (number : Nat) (fault : Fault) :
    Performs
      (modifyHost number fun state =>
        { state with sink := { state.sink with dropped := state.sink.dropped + 1 } })
      (addFault number fault) := by
  intro counted machine ready since
  obtain ⟨sink, added⟩ := Sink.add_of_number (ready.capacities number) fault
  have done : addFault number fault machine =
      .done () (machine.modifyHost number fun state => { state with sink := sink }) := by
    unfold addFault Run.update
    dsimp only
    rw [added]
    rfl
  have booked : Booked number machine
      (machine.modifyHost number fun state => { state with sink := sink }) :=
    booked_modify_host machine (Sink.capacity_add added) rfl rfl
      (by rw [Sink.total_add added]; exact Nat.le_succ _)
  have still := IsReady.tolerant number _ _ booked ready
  refine ⟨_, done, still, fun other => (since other).trans (booked.totals other), ?_⟩
  refine without_diagnostics_modify_host fun state present => ?_
  have own : machine.host number = state := by
    unfold host
    rw [present]
    rfl
  have once := Sink.total_add added
  have enough := since number
  unfold counts at enough
  rw [own] at once enough
  -- subtraction is cut off at zero, so the count must not start beyond the faults that there are
  have counts : sink.total - counted number = state.sink.total - counted number + 1 := by omega
  unfold HostState.withoutDiagnostics
  dsimp only
  rw [counts]

theorem modify_host_id (number : Nat) (machine : Machine) :
    machine.modifyHost number id = machine := by
  have hosts : machine.hosts.modify number id = machine.hosts := by
    apply Array.ext_getElem?
    intro index
    rw [Array.getElem?_modify]
    split
    · exact Option.map_id_apply
    · rfl
  unfold modifyHost
  rw [hosts]

theorem performs_on_metrics (number : Nat) {body : Run (Metrics Value) Unit}
    (measures : ∀ metrics, metrics.IsMeasured →
      ∃ after, body metrics = .done () after ∧ after.IsMeasured) :
    Performs id (onMetrics number () body) := by
  intro counted machine ready since
  unfold onMetrics
  cases found : (machine.host number).metrics with
  | none => exact ⟨machine, rfl, ready, since, rfl⟩
  | some metrics =>
      obtain ⟨left, done, measured⟩ := measures metrics (ready.measured number metrics found)
      have booked : Booked number machine
          (machine.modifyHost number fun state => { state with metrics := some left }) :=
        booked_modify_metrics number number fun _ _ same => Option.some.inj same ▸ measured
      have still := IsReady.tolerant number _ _ booked ready
      have same : (machine.modifyHost number fun state =>
          { state with metrics := some left }).withoutDiagnostics
          counted = (machine.withoutDiagnostics counted).modifyHost number id :=
        without_diagnostics_modify_host fun _ _ => rfl
      dsimp only
      rw [done]
      exact ⟨_, rfl, still, fun other => (since other).trans (booked.totals other),
        same.trans (modify_host_id number _)⟩

theorem performs_record (number : Nat) (name category : String) (now started finished : Value)
    (success : Option Bool) : Performs id (onMetrics number ()
      (Metrics.record (.text name) (.text category) now
        (Measure.elapsed started finished) success)) :=
  performs_on_metrics number fun _ =>
    Metrics.record_measured name category now (elapsed_is_double started finished) success

theorem performs_record_cache (number : Nat) (name : String) (hit : Bool) :
    Performs id (onMetrics number () (Metrics.recordCache (.text name) hit)) :=
  performs_on_metrics number fun _ => Metrics.enter_measured rfl rfl
    (Metrics.record_cache_measures hit)

theorem performs_finish_timing (number : Nat) (name category : String) {budget : Value}
    (budgeted : budget.IsNumber ∨ budget = .null) (started : Value) :
    Performs id (finishTiming number (.text name) (.text category) budget started) := by
  intro counted machine
  obtain ⟨exceeded, known⟩ := over_budget_ok budgeted (elapsed_is_double started machine.now)
  have warns : Performs id (do
      if ← Run.ofExcept (overBudget budget (Measure.elapsed started machine.now)) then
        Run.modify (log .warning .metrics (budgetMessage (.text category) (.text name) budget
          (Measure.elapsed started machine.now)))) := by
    rw [known]
    cases exceeded with
    | true => exact performs_log _ _ _
    | false => exact performs_pure
  exact performs_bind
    (performs_record number name category machine.now started machine.now none) warns counted
    machine

theorem performs_closing (number : Nat) (name category budget : String) {opened : Machine}
    (ready : opened.IsReady) :
    Performs id (closing number name category budget opened) := by
  unfold closing
  split
  · exact performs_finish_timing number name category (ready.limits category budget) opened.now
  · exact performs_pure

/-- What the clock shows does not decide whether it can be advanced. -/
theorem advance_cases (seconds : Value) :
    Performs id (advance seconds) ∨ ∃ failure, advance seconds = Run.raise failure := by
  have adds : (∀ total, ∃ sum, seconds.addTo total = .ok sum) ∨
      ∃ failure, ∀ total, seconds.addTo total = .error failure := by
    cases seconds with
    | scalar content =>
        cases known : content.number? with
        | none =>
            refine .inr ⟨.mishap (.notSummable "+=" "float" content.typeName), fun total => ?_⟩
            simp only [Value.addTo, known]
        | some number =>
            cases fits : number.toFloat? with
            | none =>
                refine .inr ⟨.mishap .tooLarge, fun total => ?_⟩
                simp only [Value.addTo, known, fits]
            | some addend =>
                refine .inl fun total => ⟨total + addend, ?_⟩
                simp only [Value.addTo, known, fits]
    | _ => exact .inr ⟨_, fun _ => rfl⟩
  rcases adds with sums | ⟨failure, fails⟩
  · refine .inl fun counted machine ready since => ?_
    obtain ⟨sum, added⟩ := sums machine.journal.clock
    refine ⟨{ machine with journal := { machine.journal with clock := sum } }, ?_,
      ready.of_same rfl rfl, since, rfl⟩
    unfold advance Run.update Journal.advance
    dsimp only
    rw [added]
    rfl
  · refine .inr ⟨failure, funext fun machine => ?_⟩
    unfold advance Run.update Journal.advance
    dsimp only
    rw [fails]
    rfl

end Performing

section Accords

variable {counted others : Nat → Nat} {machine another : Machine}

theorem agrees_of_inert {α : Type} (view : Machine → α)
    (blind : ∀ counted machine, view (machine.withoutDiagnostics counted) = view machine)
    (twin : (inert counted others).twin machine another) : view another = view machine := by
  rw [← blind others another, twin.2.2.2.2, blind]

theorem hosts_of_inert (twin : (inert counted others).twin machine another) (number : Nat) :
    (another.host number).withoutDiagnostics (others number) =
      (machine.host number).withoutDiagnostics (counted number) := by
  rw [← host_without_diagnostics others another number, twin.2.2.2.2, host_without_diagnostics]

theorem counts_of_inert (twin : (inert counted others).twin machine another) (number : Nat) :
    another.counts number + counted number = machine.counts number + others number := by
  have same : another.counts number - others number = machine.counts number - counted number :=
    congrArg (fun state => state.sink.dropped) (hosts_of_inert twin number)
  have since := twin.2.2.1 number
  have otherSince := twin.2.2.2.1 number
  omega

theorem evaluate_accord_of_inert (setting : Execute.Setting) (flags : Nat → Bool)
    (counted others : Nat → Nat) :
    Evaluate.Accord (inert counted others) Failure.none (fun _ => True) setting.environment
      (setting.logging flags).environment where
  formulas _ := rfl
  components _ := rfl
  cycles _ _ twin := agrees_of_inert cycleStacks (fun _ _ => rfl) twin
  closures _ _ twin := agrees_of_inert closures (fun _ _ => rfl) twin
  entries _ _ twin := agrees_of_inert (fun machine => machine.journal.entries) (fun _ _ => rfl) twin
  trails _ _ twin number := agrees_of_inert (fun machine => (machine.host number).trail)
    (fun counted machine => by rw [host_without_diagnostics]; rfl) twin
  memos _ _ twin number := agrees_of_inert (fun machine => (machine.host number).memo)
    (fun counted machine => by rw [host_without_diagnostics]; rfl) twin
  totals machine counterpart after later twin paired number := by
    have before := counts_of_inert twin number
    have afterwards := counts_of_inert paired number
    unfold counts at before afterwards
    omega
  handles _ _ _ _ _ _ := trivial
  checks _ _ twin category value := .inl (agrees_of_inert
    (fun machine => machine.limits.check category "max_depth" value) (fun _ _ => rfl) twin)
  handlers _ _ _ := .inr fun _ _ twin => agrees_of_inert limits (fun _ _ => rfl) twin
  faults _ := False.elim
  restacked change :=
    stays_of_performs (fun machine => { machine with cycleStacks := change machine.cycleStacks })
    (performs_modify (fun _ => rfl) (fun _ => rfl) fun _ _ => rfl)
  enclosed closure _ := stays_of_performs (fun machine => (machine.newClosure closure).2)
    (performs_modify (fun _ => rfl) (fun _ => rfl) fun _ _ => rfl)
  trailed number _ := stays_of_performs _
    (performs_modify_host number (fun _ => rfl) (fun _ => rfl) fun _ _ => rfl)
  memorized number _ := stays_of_performs _
    (performs_modify_host number (fun _ => rfl) (fun _ => rfl) fun _ _ => rfl)
  noted change :=
    stays_of_performs (modifyJournal fun journal => journal.withEntries (change journal.entries))
    (performs_modify (fun _ => rfl) (fun _ => rfl) fun _ _ => rfl)
  logged level source message := stays_of_performs id (performs_log level source message)
  spoken number message := by
    have speaks (flag : Bool) : Performs id
        (if flag then Run.modify (log .error .evaluate message) else pure
          () : Run Machine Unit) := by
      cases flag with
      | true => exact performs_log _ _ _
      | false => exact performs_pure
    exact pairs_of_performs (speaks _) (speaks _)
  added number fault _ :=
    pairs_of_performs (performs_add_fault number fault) (performs_add_fault number fault)
  cut _ _ _ _ _ := False.elim
  advanced seconds := by
    rcases advance_cases seconds with performs | ⟨failure, fails⟩
    · exact pairs_of_performs performs performs
    · rw [fails]
      exact .raise failure
  looked number name hit :=
    pairs_of_performs (performs_record_cache number name hit)
      (performs_record_cache number name hit)
  closed number name category budget opened counterpart _ _ twin :=
    pairs_of_performs (performs_closing number name category budget twin.1)
      (performs_closing number name category budget twin.2.1)

end Accords

end Machine

namespace Execute

def Bond.inert (counted others : Nat → Nat) : Bond where
  machines := Machine.inert counted others
  pardons := Failure.none
  known _ := True
  lift _ ceiling := ceiling
  fits _ _ := True

theorem lifted_inert (counted others : Nat → Nat) (workflows : Array (Cycle.Workflow String)) :
    workflows.mapIdx (Bond.inert counted others).lifted = workflows :=
  lifted_over (Machine.inert counted others) workflows

theorem accord_of_inert (setting : Setting) (flags : Nat → Bool) (counted others : Nat → Nat) :
    Accord (Bond.inert counted others) setting flags :=
  accord_over (Machine.evaluate_accord_of_inert setting flags counted others)

instance (counted others : Nat → Nat) : (Bond.inert counted others).TimesAlike where
  measured number name success _ _ _ _ _ _ :=
    Machine.pairs_of_performs (Machine.performs_record number name "action" _ _ _ success)
      (Machine.performs_record number name "action" _ _ _ success)

theorem Request.is_within_all (request : Request) : request.IsWithin fun _ => True := by
  cases request with
  | inquire inquiry => cases inquiry <;> trivial
  | execute _ _ _ dispatch => exact ⟨trivial, dispatch.is_within_all⟩
  | operate operation =>
      cases operation with
      | execute _ _ _ dispatch => exact ⟨trivial, dispatch.is_within_all⟩
      | _ => trivial

/-- What is left of a world without diagnostics: signals, memos, cycle stacks, running workflows,
what host code was asked for, and how many faults were counted from given numbers on. -/
def World.withoutDiagnostics (counted : Nat → Nat) (world : World) : World :=
  world.modifyMachine (Machine.withoutDiagnostics counted)

theorem agrees_of_without_diagnostics {α : Type} {counted others : Nat → Nat}
    {world counterpart : World}
    (view : World → α)
    (blind : ∀ counted world, view (World.withoutDiagnostics counted world) = view world)
    (same : counterpart.withoutDiagnostics others = world.withoutDiagnostics counted) :
    view counterpart = view world := by
  rw [← blind others counterpart, same, blind]

theorem twin_of_without_diagnostics {world counterpart : World} (ready : world.IsReady)
    (otherReady : counterpart.IsReady)
    (same : counterpart.withoutDiagnostics counterpart.machine.counts =
      world.withoutDiagnostics world.machine.counts) :
    (Bond.inert world.machine.counts counterpart.machine.counts).Twin world counterpart where
  machine := ⟨ready, otherReady, fun _ => Nat.le_refl _, fun _ => Nat.le_refl _,
    congrArg World.machine same⟩
  cells := agrees_of_without_diagnostics (fun world => world.cells) (fun _ _ => rfl) same
  numbers := agrees_of_without_diagnostics
    (fun world => world.nextSubscription) (fun _ _ => rfl) same
  workflows := by
    have running :=
      agrees_of_without_diagnostics (fun world => world.host.workflows) (fun _ _ => rfl) same
    exact running.trans (lifted_inert _ _ _).symm
  fits _ _ _ := trivial
  continuations :=
    agrees_of_without_diagnostics (fun world => world.host.continuations) (fun _ _ => rfl) same
  within _ continuation _ := continuation.is_within_all
  promises := agrees_of_without_diagnostics (fun world => world.host.promises) (fun _ _ => rfl) same
  queue := agrees_of_without_diagnostics (fun world => world.host.queue) (fun _ _ => rfl) same
  loop := agrees_of_without_diagnostics (fun world => world.host.hasLoop) (fun _ _ => rfl) same
  scopes := agrees_of_without_diagnostics (fun world => world.host.scopes) (fun _ _ => rfl) same

theorem without_diagnostics_of_twin {counted others : Nat → Nat} {world counterpart : World}
    (twin : (Bond.inert counted others).Twin world counterpart) :
    counterpart.withoutDiagnostics others = world.withoutDiagnostics counted := by
  have machines : counterpart.machine.withoutDiagnostics others =
      world.machine.withoutDiagnostics counted :=
    twin.machine.2.2.2.2
  rw [twin.counterpart_eq, lifted_inert]
  exact congrArg (fun machine => world.setMachine machine) machines

/-- Diagnostics do not influence results.  Two worlds in which books can be kept, and that are the
same but for their diagnostics, serve the same requests with the same answers and end the same but
for diagnostics, whichever instances log their errors.  Each of them has counted as many faults
meanwhile as the other one. -/
theorem diagnostics_are_inert (setting : Setting) (flags : Nat → Bool) (fuel : Nat)
    (requests : List Request)
    {world counterpart : World} (ready : world.IsReady) (otherReady : counterpart.IsReady)
    (same : counterpart.withoutDiagnostics counterpart.machine.counts =
      world.withoutDiagnostics world.machine.counts) :
    (serve (setting.logging flags) fuel requests counterpart).mapState
        (World.withoutDiagnostics counterpart.machine.counts) =
      (serve setting fuel requests world).mapState
        (World.withoutDiagnostics world.machine.counts) := by
  have accord := accord_of_inert setting flags world.machine.counts counterpart.machine.counts
  have served : InStep _ (serve setting fuel requests)
      (serve (setting.logging flags) fuel requests) :=
    pairs_serve accord fuel fun request _ => request.is_within_all
  have paired :=
    served.follows world counterpart (twin_of_without_diagnostics ready otherReady same)
  have unexcused : ¬(serve setting fuel requests world).Excused
      (Bond.inert world.machine.counts counterpart.machine.counts).worlds := by
    cases serve setting fuel requests world with
    | done answers after => exact fun shown => shown.1
    | raised failure after => exact fun shown => shown.1
    | exhausted => exact id
  exact Result.map_state_of_matches (Result.matches_of_pairs paired unexcused)
    fun _ _ twin => without_diagnostics_of_twin twin

/-- The muted world after a while: its clock has moved, it has metrics and logs, and its sink is
full. -/
def worn : World :=
  mutedWorld.modifyMachine fun machine =>
    { machine with
      journal :=
        { machine.journal with
          logs := [{ level := .error, source := .execute, message := "earlier" }], clock := 2.5 }
      hosts := #[{ HostState.blank with
        sink := { capacity := .int 0, kept := [], dropped := 7 }
        metrics := some (Metrics.empty true (.ofFloat 0 2.5)) }] }

/-- A formula that nobody knows, and a list with an event that nobody takes. -/
def troubledRequests : List Request :=
  [.inquire (.evaluate (some (.apply "unknown" [])) (Context.lone .null) (.int 0)),
    .operate (.execute troubledEntries (muted.contextOf 0) .null .none (.int 0))]

theorem worn_is_ready : worn.IsReady where
  limits := Limits.standard_are_numeric
  capacities
    | 0 => Value.is_number_int 0
    | _ + 1 => Value.is_number_int 0
  measured
    | 0 => by
        rintro metrics ⟨⟩ metric member
        cases member
    | _ + 1 => nofun

/-- The worn world counts two faults as the muted one does, though it keeps none of them. -/
theorem worn_world_serves_alike :
    (serve muted 2 troubledRequests mutedWorld).state?.map (fun last =>
        ((last.machine.host 0).sink.kept.length,
          (((last.cell 0).content.field "Variables").field "after").display)) = some (2, "1") ∧
    (serve (muted.logging fun _ => true) 2 troubledRequests worn).mapState
        (World.withoutDiagnostics worn.machine.counts) =
      (serve muted 2 troubledRequests mutedWorld).mapState
        (World.withoutDiagnostics mutedWorld.machine.counts) :=
  ⟨by decide +kernel,
    diagnostics_are_inert muted
      (fun _ => true) 2 troubledRequests muted_world_is_ready worn_is_ready rfl⟩

end Execute
end Interplay
