import Interplay.Proofs.Execute.Diagnostics
import Interplay.Proofs.Traversal.Reading

/-!
Lists read beforehand.

A persisted list may be read as a whole before any of it runs, or entry by entry while it runs.
Reading looks at the entry alone, so both ways run the same actions; unknown entries are left out
silently in the first way and with a warning in the second.  They still count there, so the faults
of the actions behind them name another position.
-/

namespace Interplay

open Run

def Fault.withoutIndex (fault : Fault) : Fault :=
  match fault.source with
  | .action type _ => { fault with source := .action type .null }
  | _ => fault

namespace Sink

def withoutIndices (sink : Sink Fault) : Sink Fault :=
  { sink with kept := sink.kept.map Fault.withoutIndex }

/-- Sinks that differ in positions only take faults that differ in their positions only. -/
theorem add_without_indices {sink other : Sink Fault} {fault another : Fault}
    (same : other.withoutIndices = sink.withoutIndices)
    (alike : another.withoutIndex = fault.withoutIndex) :
    (other.add another).map withoutIndices = (sink.add fault).map withoutIndices := by
  have capacity : other.capacity = sink.capacity := congrArg (fun sink => sink.capacity) same
  have kept : other.kept.map Fault.withoutIndex = sink.kept.map Fault.withoutIndex :=
    congrArg (fun sink => sink.kept) same
  have dropped : other.dropped = sink.dropped := congrArg (fun sink => sink.dropped) same
  have length : other.kept.length = sink.kept.length := by
    rw [← List.length_map Fault.withoutIndex, kept, List.length_map]
  have full : other.isFull = sink.isFull := by
    unfold isFull
    rw [length, capacity]
  unfold add
  rw [full]
  cases sink.isFull with
  | error failure => rfl
  | ok full =>
      cases full with
      | true => simp only [Except.map, withoutIndices, capacity, kept, dropped]
      | false =>
          simp only [Except.map, withoutIndices, capacity, dropped, List.map_append,
            kept, List.map_cons, alike]

end Sink

def HostState.withoutIndices (state : HostState) : HostState :=
  { state with sink := state.sink.withoutIndices }

def unknownWarning (source : Value) : LogRecord :=
  { level := .warning, source := .execute, message := "Unknown action type: " ++
    Execute.unknownKind source }

/-- A log that is another one with warnings about unknown items of a list in it. -/
inductive Interspersed (items : List Value) : List LogRecord → List LogRecord → Prop
  | same (records : List LogRecord) : Interspersed items records records
  | both {longer shorter : List LogRecord} (record : LogRecord)
      (before : Interspersed items longer shorter) :
      Interspersed items (longer ++ [record]) (shorter ++ [record])
  | warned {longer shorter : List LogRecord} {source : Value} (listed : source ∈ items)
      (unknown : Action.read source = .ok none) (before : Interspersed items longer shorter) :
      Interspersed items (longer ++ [unknownWarning source]) shorter

namespace Machine

/-- What is left of a machine without its log and the positions in its faults. -/
def withoutIndices (machine : Machine) : Machine :=
  { machine with
    journal := { machine.journal with logs := [] }
    hosts := machine.hosts.mapIdx fun _ state => state.withoutIndices }

/-- Machines that differ in the positions in their faults only, and in warnings that only the first
one has. -/
def apart (items : List Value) : Pairing Machine Machine where
  twin machine another := another.withoutIndices = machine.withoutIndices ∧
    Interspersed items machine.journal.logs another.journal.logs
  excused _ := False
  lost := False
  lenient _ _ _ := id

variable {items : List Value} {machine another : Machine}

theorem host_without_indices (machine : Machine) (number : Nat) :
    machine.withoutIndices.host number = (machine.host number).withoutIndices := by
  unfold host withoutIndices
  rw [Array.getElem?_mapIdx]
  cases machine.hosts[number]? with
  | some state => rfl
  | none => rfl

theorem without_indices_modify_host {number : Nat} {change shown : HostState → HostState}
    (same : ∀ state, (change state).withoutIndices = shown state.withoutIndices) :
    (machine.modifyHost number change).withoutIndices =
    machine.withoutIndices.modifyHost number shown := by
  unfold modifyHost withoutIndices
  exact congrArg (fun hosts => ({ machine with journal := { machine.journal with logs := [] }
                                               hosts := hosts } : Machine))
                                                 (map_idx_modify fun state _ => same state)

/-- What does not look at positions and logs sees the same. -/
theorem agrees_of_apart {α : Type} (view : Machine → α)
    (blind : ∀ machine, view machine.withoutIndices = view machine)
    (twin : (apart items).twin machine another) : view another = view machine := by
  rw [← blind another, twin.1, blind]

theorem hosts_of_apart (twin : (apart items).twin machine another) (number : Nat) :
    (another.host number).withoutIndices = (machine.host number).withoutIndices := by
  rw [← host_without_indices, twin.1, host_without_indices]

theorem total_of_apart (twin : (apart items).twin machine another) (number : Nat) :
    (another.host number).sink.total = (machine.host number).sink.total := by
  have total (sink : Sink Fault) : sink.withoutIndices.total = sink.total := by
    unfold Sink.total Sink.withoutIndices
    rw [List.length_map]
  rw [← total (another.host number).sink, ← total (machine.host number).sink]
  exact congrArg (fun state => state.sink.total) (hosts_of_apart twin number)

/-- A change that leaves the log alone and does not look at positions. -/
theorem stays_of_shown {change : Machine → Machine} (shown : Machine → Machine)
    (same : ∀ machine, (change machine).withoutIndices = shown machine.withoutIndices)
    (logs : ∀ machine, (change machine).journal.logs = machine.journal.logs) :
    (apart items).Stays change change := by
  rintro machine another ⟨alike, spoken⟩
  refine ⟨⟨by rw [same, alike, same], ?_⟩, id⟩
  rw [logs, logs]
  exact spoken

theorem stays_modify_host (number : Nat) {change : HostState → HostState}
    (same : ∀ state, (change state).withoutIndices = change state.withoutIndices) :
    (apart items).Stays (modifyHost number change) (modifyHost number change) :=
  stays_of_shown _ (fun _ => without_indices_modify_host same) fun _ => rfl

theorem stays_log (level : LogLevel) (source : LogSource) (message : String) :
    (apart items).Stays (log level source message) (log level source message) := by
  rintro machine another ⟨alike, spoken⟩
  exact ⟨⟨alike, .both _ spoken⟩, id⟩

theorem pairs_add_fault (number : Nat) {fault other : Fault}
    (alike : other.withoutIndex = fault.withoutIndex) :
    InStep (apart items) (addFault number fault) (addFault number other) := by
  apply Pairs.of_matches fun _ => id
  intro machine another twin
  have sinks : (another.host number).sink.withoutIndices =
      (machine.host number).sink.withoutIndices :=
    congrArg (fun state => state.sink) (hosts_of_apart twin number)
  have sums := Sink.add_without_indices sinks alike
  unfold addFault Run.update
  dsimp only
  cases taken : (machine.host number).sink.add fault with
  | error failure =>
      cases took : (another.host number).sink.add other with
      | error answer =>
          rw [taken, took] at sums
          cases sums
          exact ⟨rfl, twin⟩
      | ok later =>
          rw [taken, took] at sums
          cases sums
  | ok after =>
      cases took : (another.host number).sink.add other with
      | error answer =>
          rw [taken, took] at sums
          cases sums
      | ok later =>
          rw [taken, took] at sums
          have same : later.withoutIndices = after.withoutIndices := Except.ok.inj sums
          have shows (sink : Sink Fault) (machine : Machine) :
              (machine.modifyHost number fun state => { state with sink := sink }).withoutIndices =
                machine.withoutIndices.modifyHost number fun state =>
                  { state with sink := sink.withoutIndices } :=
            without_indices_modify_host fun _ => rfl
          refine ⟨rfl, ?_, twin.2⟩
          rw [shows, shows, same, twin.1]

theorem pairs_on_metrics (number : Nat) (body : Run (Metrics Value) Unit) :
    InStep (apart items) (onMetrics number () body) (onMetrics number () body) := by
  apply Pairs.of_matches fun _ => id
  intro machine another twin
  have same : (another.host number).metrics = (machine.host number).metrics :=
    congrArg (fun state => state.metrics) (hosts_of_apart twin number)
  have stays (metrics : Metrics Value) : (apart items).Stays
      (modifyHost number fun state => { state with metrics := some metrics })
      (modifyHost number fun state => { state with metrics := some metrics }) :=
    stays_modify_host number fun _ => rfl
  unfold onMetrics
  rw [same]
  cases (machine.host number).metrics with
  | none => exact ⟨rfl, twin⟩
  | some metrics =>
      dsimp only
      cases body metrics with
      | done value after => exact ⟨rfl, (stays after machine another twin).1⟩
      | raised failure after => exact ⟨rfl, (stays after machine another twin).1⟩
      | exhausted => trivial

theorem pairs_finish_timing (number : Nat) (name category budget started : Value) :
    InStep (apart items) (finishTiming number name category budget started)
      (finishTiming number name category budget started) := by
  refine .get_bind fun machine another twin => ?_
  have clock : another.now = machine.now := agrees_of_apart now (fun _ => rfl) twin
  dsimp only
  rw [clock]
  refine (pairs_on_metrics number _).bind fun _ => (Pairs.of_except _).bind fun exceeded => ?_
  cases exceeded with
  | true => exact .modify (stays_log _ _ _)
  | false => exact .pure ()

theorem pairs_advance (seconds : Value) :
    InStep (apart items) (advance seconds) (advance seconds) := by
  apply Pairs.of_matches fun _ => id
  intro machine another twin
  have clock : another.journal.clock = machine.journal.clock :=
    agrees_of_apart (fun machine => machine.journal.clock) (fun _ => rfl) twin
  unfold advance Run.update Journal.advance
  dsimp only
  rw [clock]
  cases seconds.addTo machine.journal.clock with
  | error failure => exact ⟨rfl, twin⟩
  | ok later =>
      have stays : (apart items).Stays
          (fun machine => { machine with journal := { machine.journal with clock := later } })
          fun machine => { machine with journal := { machine.journal with clock := later } } :=
        stays_of_shown
          (fun machine => { machine with journal := { machine.journal with clock := later } })
          (fun _ => rfl) fun _ => rfl
      exact ⟨rfl, (stays machine another twin).1⟩

theorem evaluate_accord_of_apart (items : List Value) (environment : Environment) :
    Evaluate.Accord (apart items) Failure.none (fun _ => True) environment environment where
  formulas _ := rfl
  components _ := rfl
  cycles _ _ twin := agrees_of_apart cycleStacks (fun _ => rfl) twin
  closures _ _ twin := agrees_of_apart closures (fun _ => rfl) twin
  entries _ _ twin := agrees_of_apart (fun machine => machine.journal.entries) (fun _ => rfl) twin
  trails _ _ twin number := congrArg (fun state => state.trail) (hosts_of_apart twin number)
  memos _ _ twin number := congrArg (fun state => state.memo) (hosts_of_apart twin number)
  totals machine counterpart after later twin paired number := by
    rw [total_of_apart twin, total_of_apart paired]
  handles _ _ _ _ _ _ := trivial
  checks _ _ twin category value := .inl (agrees_of_apart
    (fun machine => machine.limits.check category "max_depth" value) (fun _ => rfl) twin)
  handlers _ _ _ := .inr fun _ _ twin => agrees_of_apart limits (fun _ => rfl) twin
  faults _ := False.elim
  restacked change :=
    stays_of_shown (fun machine => { machine with cycleStacks := change machine.cycleStacks })
    (fun _ => rfl) fun _ => rfl
  enclosed closure _ :=
    stays_of_shown (fun machine => (machine.newClosure closure).2) (fun _ => rfl) fun _ => rfl
  trailed number _ := stays_modify_host number fun _ => rfl
  memorized number _ := stays_modify_host number fun _ => rfl
  noted change :=
    stays_of_shown (modifyJournal fun journal => journal.withEntries (change journal.entries))
    (fun _ => rfl) fun _ => rfl
  logged level source message := stays_log level source message
  spoken number message := .choose (fun _ => .modify (stays_log _ _ _)) fun _ => .pure ()
  added number fault _ := pairs_add_fault number rfl
  cut _ _ _ _ _ := False.elim
  advanced := pairs_advance
  looked number name hit := pairs_on_metrics number _
  closed number name category budget opened counterpart _ _ twin := by
    have clock : counterpart.now = opened.now := agrees_of_apart now (fun _ => rfl) twin
    have limits : counterpart.limits = opened.limits := agrees_of_apart limits (fun _ => rfl) twin
    have metrics : counterpart.hasMetrics number = opened.hasMetrics number :=
      congrArg (fun state => state.metrics.isSome) (hosts_of_apart twin number)
    unfold closing
    rw [clock, limits, metrics]
    exact .choose (fun _ => pairs_finish_timing _ _ _ _ _) fun _ => .pure ()

end Machine

namespace Execute

theorem accord_of_apart (items : List Value) (setting : Setting) :
    Accord (Bond.over (Machine.apart items)) setting fun number =>
      (setting.instances number).logErrors :=
  accord_over (Machine.evaluate_accord_of_apart items setting.environment)

instance (items : List Value) : (Bond.over (Machine.apart items)).TimesAlike where
  measured number name success before earlier after later twin paired := by
    have began : earlier.now = before.now := Machine.agrees_of_apart Machine.now (fun _ => rfl) twin
    have ended : later.now = after.now := Machine.agrees_of_apart Machine.now (fun _ => rfl) paired
    rw [began, ended]
    exact Machine.pairs_on_metrics number _

theorem twin_of_same (items : List Value) (world : World) :
    (Bond.over (Machine.apart items)).Twin world world :=
  twin_over ⟨rfl, .same _⟩

/-- What is left of a world without its log and the positions in its faults. -/
def World.withoutIndices (world : World) : World :=
  world.modifyMachine Machine.withoutIndices

theorem without_indices_of_twin {items : List Value} {world counterpart : World}
    (twin : (Bond.over (Machine.apart items)).Twin world counterpart) :
    counterpart.withoutIndices = world.withoutIndices := by
  rw [twin.counterpart_eq, lifted_over]
  exact congrArg (fun machine => world.setMachine machine) twin.machine.1

section Lists

variable {items : List Value} {setting : Setting} {fuel : Nat}
  {context : ActionContext} {event : Value} {dispatch : Dispatch} {depth : Value}

theorem pairs_record_failure_apart (kind : String) (index other : Nat) (failure : Failure) :
    InStep (Bond.over (Machine.apart items)).worlds
      (recordFailure setting context kind index failure)
      (recordFailure setting context kind other failure) := by
  have accord := accord_of_apart items setting
  refine .get_bind fun world counterpart twin => ?_
  have same : counterpart.machine.trailSteps context.stackHost =
      world.machine.trailSteps context.stackHost :=
    accord.formulas.steps twin.machine context.stackHost
  dsimp only
  rw [same]
  cases failure with
  | fault fault =>
      exact (pairs_warn accord _).bind fun _ => pairs_on_machine (Machine.pairs_add_fault _ rfl)
  | mishap mishap =>
      exact (pairs_log accord _ _).bind fun _ => pairs_on_machine (Machine.pairs_add_fault _ rfl)

/-- A warning about an unknown entry does not tell the worlds apart. -/
theorem pairs_of_warned {source : Value} (listed : source ∈ items)
    (unknown : Action.read source = .ok none)
    {run other : Run World Unit}
    (pairs : InStep (Bond.over (Machine.apart items)).worlds run other) :
    InStep (Bond.over (Machine.apart items)).worlds
      (warn ("Unknown action type: " ++ unknownKind source) >>= fun _ => run) other where
  follows world counterpart twin := by
    have warned : (Machine.apart items).twin
        (world.machine.log .warning .execute ("Unknown action type: " ++ unknownKind source))
        counterpart.machine :=
      ⟨twin.machine.1, .warned listed unknown twin.machine.2⟩
    exact pairs.follows _ counterpart (twin.set_machine warned)
  keeps _ _ _ := False.elim

def runFound (setting : Setting) (powers : Powers) (context : ActionContext)
    (event : Value) (dispatch : Dispatch)
    (depth : Value) (index : Nat) (source : Value) : Option Action → Run World Unit
  | some action => runGuarded setting powers context event dispatch depth index action
  | none => warn ("Unknown action type: " ++ unknownKind source)

theorem run_entry_of_read {source : Value} {found : Option Action}
    (known : Action.read source = .ok found) (index : Nat) :
    runEntry setting (powers setting fuel) context event dispatch depth index (.persisted source) =
      runFound setting (powers setting fuel) context event dispatch depth index source found := by
  change (Run.ofExcept (Action.read source) >>= fun found => _) = _
  rw [known]
  cases found with
  | some action => rfl
  | none => rfl

/-- Entries run in step with the actions that were read from them, by induction on the entries. -/
theorem pairs_read_items {entries : List Value} {actions : List Action}
    (listed : ∀ source ∈ entries, source ∈ items)
    (reads : Action.readItems entries = .ok actions) (index other : Nat) :
    InStep (Bond.over (Machine.apart items)).worlds
      (Run.forEachIndexed
        (runEntry setting (powers setting fuel) context event dispatch depth) index
        (entries.map Entry.persisted))
      (Run.forEachIndexed
        (runEntry setting (powers setting fuel) context event dispatch depth) other
        (actions.map Entry.action)) := by
  induction entries generalizing actions index other with
  | nil =>
      cases reads
      exact .pure ()
  | cons source rest ih =>
      obtain ⟨member, later⟩ := List.forall_mem_cons.mp listed
      rw [Action.readItems] at reads
      obtain ⟨first, known, reads⟩ := ok_of_bind reads
      obtain ⟨others, continues, reads⟩ := ok_of_bind reads
      cases reads
      change InStep _
        (runEntry setting (powers setting fuel) context event dispatch depth
          index (.persisted source) >>=
        fun _ => Run.forEachIndexed
          (runEntry setting (powers setting fuel) context event dispatch depth) (index + 1)
          (rest.map Entry.persisted)) _
      rw [run_entry_of_read known]
      cases first with
      | none => exact pairs_of_warned member known (ih later continues (index + 1) other)
      | some action =>
          have guarded :
              InStep _ (runGuarded setting (powers setting fuel) context event
                dispatch depth index action)
              (runGuarded setting (powers setting fuel) context event
                dispatch depth other action) :=
            pairs_guarded_at (accord_of_apart items setting)
              (accompanied_powers (accord_of_apart items setting) fuel)
              (fun _ => rfl) (fun _ => rfl) trivial dispatch.is_within_all
              (pairs_record_failure_apart action.kind index other)
          exact guarded.bind fun _ => ih later continues (index + 1) (other + 1)

end Lists

/-- Nothing excuses the first run for falling out of step. -/
theorem matches_of_apart {α : Type} {items : List Value} {result other : Result World α}
    (pairs : result.Pairs (Bond.over (Machine.apart items)).worlds Failure.none other) :
    result.Matches (Bond.over (Machine.apart items)).worlds other :=
  Result.matches_of_unexcused pairs (fun _ => id) id

/-- A persisted list that can be read runs as the actions that are read from it beforehand.  Both
runs come to the same end and leave the same world, with the same signals, memos, cycle stacks,
metrics, calls and faults, but for the positions in faults and for warnings about unknown entries,
which only the first run logs. -/
theorem persisted_lists_run_as_read (setting : Setting) (fuel : Nat)
    {items : List Value} {actions : List Action}
    (reads : Action.readList (.list items) = .ok actions) (context : ActionContext) (event : Value)
    (dispatch : Dispatch) (depth : Value) (world : World) :
    (executePersisted setting fuel (.list items) context event dispatch depth world).mapState
    World.withoutIndices =
        (execute setting fuel (actions.map Entry.action) context event
          dispatch depth world).mapState World.withoutIndices ∧
      ∀ last reached,
        (executePersisted setting fuel (.list items) context event dispatch depth world).state? =
        some last →
        (execute setting fuel (actions.map Entry.action) context event dispatch depth
          world).state? = some reached →
        Interspersed items last.machine.journal.logs reached.machine.journal.logs := by
  have served : InStep (Bond.over (Machine.apart items)).worlds
      (executePersisted setting fuel (.list items) context event dispatch depth)
      (execute setting fuel (actions.map Entry.action) context event dispatch depth) := by
    cases fuel with
    | zero => exact .exhaust
    | succ fuel =>
        exact pairs_run_list (accord_of_apart items setting) trivial depth
          (pairs_read_items (fun _ => id) reads 0 0)
  have matched := matches_of_apart (served.follows world world (twin_of_same items world))
  refine ⟨(Result.map_state_of_matches matched fun _ _ twin => without_indices_of_twin twin).symm,
    ?_⟩
  intro last reached left shown
  exact (Result.twin_of_matches matched left shown).machine.2

/-- Nobody knows the first entry and nobody takes the event of the second. -/
def troubledSources : List Value :=
  [.mapping [(.text "type", .text "Teleport")],
    .mapping [(.text "type", .text "TriggerEvent"), (.text "name", .text "seen")],
    .mapping [(.text "type", .text "SetVariable"), (.text "name", .text "after"),
      (.text "data", .mapping [(.text "type", .text "value"), (.text "value", .int 1)])]]

def troubledActions : List Action :=
  [.triggerEvent "seen" none, .setVariable "after" (some (.value (.int 1)))]

/-- The positions that the faults of the first instance name. -/
def World.positions (world : World) : List String :=
  (world.machine.host 0).sink.kept.map fun fault =>
    match fault.source with
    | .action _ index => index.display
    | _ => ""

theorem troubled_sources_run_as_read :
    Action.readList (.list troubledSources) = .ok troubledActions ∧
      (executePersisted muted 2 (.list troubledSources) (muted.contextOf 0) .null .none
        (.int 0) mutedWorld).state?.map
          World.positions = some ["1"] ∧
      (execute muted 2 (troubledActions.map Entry.action) (muted.contextOf 0) .null .none (.int 0)
          mutedWorld).state?.map World.positions = some ["0"] ∧
      (executePersisted muted 2 (.list troubledSources) (muted.contextOf 0) .null .none (.int 0)
          mutedWorld).mapState World.withoutIndices =
        (execute muted 2 (troubledActions.map Entry.action) (muted.contextOf 0) .null .none (.int 0)
          mutedWorld).mapState World.withoutIndices :=
  ⟨rfl, by decide +kernel, by decide +kernel,
    (persisted_lists_run_as_read muted 2 rfl (muted.contextOf 0) .null .none (.int 0) mutedWorld).1⟩

end Execute
end Interplay
