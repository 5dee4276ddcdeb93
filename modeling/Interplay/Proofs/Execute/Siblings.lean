import Interplay.Proofs.Execute.Frame

/-!
Actions and their siblings.

The boundary around an action keeps its failure from the ones after it: the failure goes into a log
and a sink, and the duration into metrics.  None of that fails as long as ceilings, capacities and
recorded durations are numbers.  Reading an entry is outside of the boundary.  So a list takes its
course entry by entry, whatever its actions do, up to the first entry that cannot be read.
-/

namespace Interplay

open Run

def Limits.AreNumeric (limits : Limits) : Prop :=
  ∀ category name, (limits.ceiling category name).IsNumber ∨ limits.ceiling category name = .null

theorem Limits.numeric_of_listed {limits : Limits}
    (listed : ∀ group ∈ limits.groups, ∀ ceiling ∈ group.2.ceilings, ceiling.2.IsNumber ∨
      ceiling.2 = .null) :
    limits.AreNumeric := by
  intro category name
  unfold ceiling ceiling? group?
  cases known : Keyed.find? category limits.groups with
  | none => exact .inr rfl
  | some group =>
      obtain ⟨label, member⟩ := Keyed.mem_of_find? known
      cases found : Keyed.find? name group.ceilings with
      | none =>
          right
          change ((Keyed.find? name group.ceilings).getD .null : Value) = .null
          rw [found]
          rfl
      | some ceiling =>
          obtain ⟨spelled, stands⟩ := Keyed.mem_of_find? found
          have numeric := listed _ member _ stands
          change ((Keyed.find? name group.ceilings).getD .null : Value).IsNumber ∨
            ((Keyed.find? name group.ceilings).getD .null : Value) = .null
          rw [found]
          exact numeric

theorem Limits.standard_are_numeric : Limits.standard.AreNumeric := by
  apply numeric_of_listed
  simp only [standard, List.forall_mem_cons, List.not_mem_nil, false_imp_iff,
    implies_true, Value.is_number_int, true_or, and_self]

theorem Sink.add_of_number {α : Type} {sink : Sink α}
    (capacity : sink.capacity.IsNumber) (item : α) :
    ∃ after, sink.add item = .ok after := by
  obtain ⟨full, compared⟩ :=
    Value.compare_of_numbers .atLeast (Value.is_number_int sink.kept.length) capacity
  have known : sink.isFull = .ok full := compared
  unfold Sink.add
  rw [known]
  cases full with
  | true => exact ⟨_, rfl⟩
  | false => exact ⟨_, rfl⟩

namespace Machine

/-- Machines whose books can be kept. -/
structure IsReady (machine : Machine) : Prop where
  limits : machine.limits.AreNumeric
  capacities : ∀ number, (machine.host number).sink.capacity.IsNumber
  measured : ∀ number, (machine.host number).IsMeasured

variable {machine before after : Machine}

theorem IsReady.of_same (ready : before.IsReady) (limits : after.limits = before.limits)
    (hosts : after.hosts = before.hosts) : after.IsReady := by
  have same : ∀ number, after.host number = before.host number := by
    intro number
    rw [host, hosts, host]
  exact
    { limits := limits ▸ ready.limits
      capacities := fun number => same number ▸ ready.capacities number
      measured := fun number => same number ▸ ready.measured number }

theorem IsReady.tolerant (number : Nat) : Tolerant number IsReady := by
  intro before after booked ready
  exact
    { limits := booked.limits ▸ ready.limits
      capacities := fun other => booked.capacity other ▸ ready.capacities other
      measured := fun other => booked.durations other (ready.measured other) }

theorem IsReady.trailing : Trailing IsReady := by
  intro number change machine ready
  constructor
  case limits => exact ready.limits
  case capacities =>
    intro other
    rcases host_modify_host_cases number other machine _ with same | ⟨_, same⟩
    · rw [same]
      exact ready.capacities other
    · rw [same]
      exact ready.capacities other
  case measured =>
    intro other
    rcases host_modify_host_cases number other machine _ with same | ⟨_, same⟩
    · rw [same]
      exact ready.measured other
    · rw [same]
      exact ready.measured other

theorem ready_steady : Evaluate.Steady (fun _ => True) IsReady where
  tolerant number _ := IsReady.tolerant number
  trailing := IsReady.trailing
  closures _ _ _ ready := ready.of_same rfl rfl
  handles _ _ _ _ _ := trivial
  entering _ _ _ ready := ready.of_same rfl rfl

theorem record_done (ready : machine.IsReady) (number : Nat) (name category : String)
    (now started finished : Value) (success : Option Bool) :
    ∃ after, onMetrics number ()
      (Metrics.record (.text name) (.text category) now (Measure.elapsed started finished)
      success) machine = .done () after := by
  unfold onMetrics
  split
  · exact ⟨machine, rfl⟩
  · rename_i metrics found
    obtain ⟨after, recorded, _⟩ :=
      Metrics.record_measured name category now (elapsed_is_double started finished)
      success (ready.measured number metrics found)
    rw [recorded]
    exact ⟨_, rfl⟩

theorem add_fault_done {number : Nat} (capacity : (machine.host number).sink.capacity.IsNumber)
    (fault : Fault) :
    ∃ after, addFault number fault machine = .done () after := by
  obtain ⟨sink, added⟩ := Sink.add_of_number capacity fault
  refine ⟨machine.modifyHost number fun state => { state with sink := sink }, ?_⟩
  unfold addFault Run.update
  dsimp only
  rw [added]
  rfl

theorem over_budget_ok {budget duration : Value} (budgeted : budget.IsNumber ∨ budget = .null)
    (double : duration.IsDouble) : ∃ exceeded, overBudget budget duration = .ok exceeded := by
  unfold overBudget
  split
  · rename_i filled
    rcases budgeted with number | rfl
    · exact Value.compare_of_numbers .above double.number number
    · cases filled
  · exact ⟨false, rfl⟩

theorem finish_timing_done (ready : machine.IsReady) (number : Nat)
    (name category : String) {budget : Value}
    (budgeted : budget.IsNumber ∨ budget = .null) (started : Value) :
    ∃ after, finishTiming number (.text name) (.text category) budget started machine = .done
      () after := by
  obtain ⟨recorded, done⟩ :=
    record_done ready number name category machine.now started machine.now none
  obtain ⟨exceeded, known⟩ := over_budget_ok budgeted (elapsed_is_double started machine.now)
  change ∃ after, (onMetrics number () _ >>= fun _ => _) machine = .done () after
  rw [bind_of_done done, known]
  cases exceeded with
  | true => exact ⟨_, rfl⟩
  | false => exact ⟨_, rfl⟩

end Machine

namespace Execute

/-- Worlds in which the books of all instances can be kept. -/
def World.IsReady (world : World) : Prop :=
  world.machine.IsReady

namespace World.IsReady

theorem upholds (setting : Setting) : Frame.whole.Upholds setting World.IsReady where
  signals :=
    { logged := fun _ _ ready => Machine.IsReady.of_same ready rfl rfl
      numbered := fun _ _ ready => ready
      stored := fun _ _ _ => Frame.whole_spares_cell _
      changed := fun _ _ _ ready _ _ => ready
      written := fun _ _ _ ready _ => ready
      added := fun _ _ _ ready _ => ready
      fresh := fun _ _ => trivial }
  books host _ _ _ before after booked kept :=
    Machine.IsReady.tolerant host before after booked kept
  noted _ _ ready := Machine.IsReady.of_same ready rfl rfl
  stacked _ ready := Machine.IsReady.of_same ready rfl rfl
  assigned _ _ _ _ _ ready _ _ _ := ready
  continued _ _ ready _ := ready
  resumed _ _ continuation _ _ := Frame.whole_resumes continuation
  promised _ ready := ready
  awaited _ _ _ ready := ready
  settled _ _ _ ready _ := ready
  cleanups _ _ _ plan _ _ _ := Frame.whole_spares plan
  enqueued _ _ ready _ := ready
  queued _ job _ _ := Frame.whole_queues job
  dequeued _ _ _ ready _ := ready

theorem backing (setting : Setting) : Backing True setting Frame.whole World.IsReady where
  upholds := upholds setting
  governs := Frame.whole_governs setting
  evaluates _ formula _ := tracks_on_machine fun _ _ =>
    Evaluate.evaluate_of_more_fuel Machine.ready_steady (Nat.le_refl _) formula trivial _
  invokes handle arguments := tracks_on_machine fun _ _ =>
    Evaluate.invoke_of_more_fuel Machine.ready_steady (Nat.le_refl _) handle arguments
  heeds _ := tracks_pure ()

theorem indifferent : Indifferent World.IsReady where
  trails world number change ready := Machine.IsReady.trailing number change world.machine ready
  workflows _ _ _ ready := ready

theorem handover (setting : Setting) (fuel : Nat) :
    Handover True setting Frame.whole World.IsReady (powers setting fuel) (powers setting fuel) :=
  powers_handover (backing setting) indifferent fuel

end World.IsReady

variable {α β : Type}

def Contained (run : Run World α) : Prop :=
  ∀ world, world.IsReady → ∀ failure last, run world ≠ .raised failure last

abbrev Readies (run : Run World α) : Prop :=
  Tracks True World.IsReady run run

theorem contained_pure (value : α) : Contained (pure value : Run World α) :=
  fun _ _ _ _ => nofun

theorem contained_attempt (body : Run World α) : Contained (Run.attempt body) := by
  intro world ready failure last
  unfold Run.attempt
  cases body world with
  | done value after => exact nofun
  | raised failure after => exact nofun
  | exhausted => exact nofun

theorem contained_bind {run : Run World α} {next : α → Run World β}
    (readies : Readies run) (first : Contained run)
    (continues : ∀ value, Contained (next value)) : Contained (run >>= next) := by
  intro world ready failure last ended
  rcases raised_of_bind ended with failed | ⟨value, middle, reached, failed⟩
  · exact first world ready failure last failed
  · exact continues value middle
      (Result.holds_of_tracks (readies world ready) (congrArg Result.state? reached))
      failure last failed

theorem contained_get_bind {next : World → Run World β}
    (continues : ∀ world, Contained (next world)) : Contained (Run.get >>= next) :=
  fun world ready failure last => continues world world ready failure last

theorem contained_modify_bind {change : World → World} {next : Unit → Run World β}
    (kept : ∀ world, world.IsReady → (change world).IsReady) (continues : Contained (next ())) :
    Contained (Run.modify change >>= next) :=
  fun world ready failure last => continues (change world) (kept world ready) failure last

theorem contained_on_machine {body : Run Machine α}
    (done : ∀ machine : Machine, machine.IsReady →
      ∃ value after, body machine = .done value after) :
    Contained (onMachine body) := by
  intro world ready failure last
  obtain ⟨value, after, ended⟩ := done world.machine ready
  unfold onMachine Run.zoom
  rw [ended]
  exact nofun

theorem contained_on_trail {body : Run World α} (number : Nat) (kind name : String)
    (contained : Contained body) :
    Contained (onTrail number kind name body) := by
  intro world ready failure last ended
  have pushed := World.IsReady.indifferent.trails world number (Trail.pushNamed kind name) ready
  cases inner : body (world.modifyMachine (Machine.pushStep number kind name)) with
  | done value after =>
      rw [onTrail, ensuring, inner] at ended
      cases ended
  | raised error after => exact contained _ pushed error after inner
  | exhausted =>
      rw [onTrail, ensuring, inner] at ended
      cases ended

theorem contained_record_failure {setting : Setting} (context : ActionContext)
    (kind : String) (index : Nat)
    (failure : Failure) : Contained (recordFailure setting context kind index failure) := by
  have kept : ∀ fault, Contained (onMachine (Machine.addFault context.host fault)) := by
    intro fault
    apply contained_on_machine
    intro machine ready
    obtain ⟨after, added⟩ := Machine.add_fault_done (ready.capacities context.host) fault
    exact ⟨(), after, added⟩
  apply contained_get_bind
  intro world
  cases failure with
  | fault fault =>
      exact contained_modify_bind (fun _ ready => Machine.IsReady.of_same ready rfl rfl) (kept _)
  | mishap mishap =>
      exact contained_modify_bind (fun _ ready => Machine.IsReady.of_same ready rfl rfl) (kept _)

section Courses

variable (setting : Setting) (powers : Powers) (context : ActionContext)
  (event : Value) (dispatch : Dispatch) (depth : Value)

/-- The action that an entry is, if it is any. -/
def Entry.read : Entry → Except Failure (Option Action)
  | .persisted source => Action.read source
  | .action given => .ok (some given)

/-- How a list takes its course from a world on.  Every entry that is an action is dispatched once,
whatever the other entries are and do, until there are no more entries or there is one that cannot
be read. -/
inductive Course : Nat → List Entry → World → Result World Unit → Prop
  | finished {index : Nat} {world : World} : Course index [] world (.done () world)
  | dispatched {index : Nat} {entry : Entry} {rest : List Entry}
      {action : Action} {world after : World}
      {result : Result World Unit} (reads : entry.read = .ok (some action))
      (ended : runGuarded setting powers context event dispatch depth index action world = .done
        () after)
      (continues : Course (index + 1) rest after result) : Course index (entry :: rest) world result
  | unknown {index : Nat} {entry : Entry} {rest : List Entry} {message : String} {world : World}
      {result : Result World Unit} (reads : entry.read = .ok none)
      (continues : Course (index + 1) rest (world.log .warning message) result) :
      Course index (entry :: rest) world result
  | unreadable {index : Nat} {entry : Entry} {rest : List Entry} {failure : Failure} {world : World}
      (fails : entry.read = .error failure) : Course index
      (entry :: rest) world (.raised failure world)
  | endless {index : Nat} {entry : Entry} {rest : List Entry} {action : Action} {world : World}
      (reads : entry.read = .ok (some action))
      (lost : runGuarded setting powers context event dispatch depth index action world =
        .exhausted) :
      Course index (entry :: rest) world .exhausted

end Courses

section Lists

variable {setting : Setting} {fuel index : Nat} {context : ActionContext}
  {event : Value} {dispatch : Dispatch} {depth : Value} {world : World}

theorem readies_guarded (action : Action) :
    Readies (runGuarded setting (powers setting fuel) context event dispatch depth index action) :=
  tracks_guarded (World.IsReady.handover setting fuel) World.IsReady.indifferent
    (Frame.whole_permits _ _) (Frame.whole_sends dispatch) index

theorem contained_guarded (action : Action) :
    Contained (runGuarded setting (powers setting fuel) context event dispatch
      depth index action) := by
  have handover := World.IsReady.handover setting fuel
  have indifferent := World.IsReady.indifferent
  have acts : Readies
      (runAction setting (powers setting fuel) context event dispatch depth action) :=
    tracks_any_action handover indifferent (Frame.whole_permits _ _) (Frame.whole_sends dispatch)
  have records : ∀ failure, Readies (recordFailure setting context action.kind index failure) :=
    fun failure => tracks_record_failure handover.upholds trivial _ _ _
  apply contained_get_bind
  intro before
  apply contained_bind
  case readies =>
    refine tracks_on_trail indifferent _ _ _ (tracks_bind (tracks_attempt acts) fun outcome => ?_)
    cases outcome with
    | ok => exact tracks_pure true
    | error failure =>
        exact tracks_bind (tracks_pure ()) fun _ => tracks_bind (records failure)
          fun _ => tracks_pure false
  case first =>
    apply contained_on_trail
    apply contained_bind (tracks_attempt acts) (contained_attempt _)
    intro outcome
    cases outcome with
    | ok => exact contained_pure true
    | error failure =>
        refine contained_bind (tracks_pure ()) (contained_pure ()) fun _ => ?_
        exact contained_bind (records failure) (contained_record_failure _ _ _ _)
          fun _ => contained_pure false
  case continues =>
    intro succeeded
    apply contained_get_bind
    intro after
    apply contained_on_machine
    intro machine ready
    obtain ⟨last, recorded⟩ :=
      Machine.record_done ready context.host action.kind "action" after.machine.now
      before.machine.now after.machine.now (some succeeded)
    exact ⟨(), last, recorded⟩

theorem run_entry_of_action {entry : Entry} {action : Action}
    (reads : entry.read = .ok (some action)) :
    runEntry setting (powers setting fuel) context event dispatch depth index entry world =
      runGuarded setting (powers setting fuel) context event dispatch depth index action world := by
  cases entry with
  | action given =>
      cases reads
      rfl
  | persisted source =>
      change (Run.ofExcept (Action.read source) >>= fun found => _) world = _
      rw [show Action.read source = .ok (some action) from reads]
      rfl

theorem run_entry_of_unknown {entry : Entry} (reads : entry.read = .ok none) :
    ∃ message, runEntry setting (powers setting fuel) context event dispatch
      depth index entry world = .done () (world.log .warning message) := by
  cases entry with
  | action given => cases reads
  | persisted source =>
      refine ⟨"Unknown action type: " ++ unknownKind source, ?_⟩
      change (Run.ofExcept (Action.read source) >>= fun found => _) world = _
      rw [show Action.read source = .ok none from reads]
      rfl

theorem run_entry_of_unreadable {entry : Entry} {failure : Failure}
    (fails : entry.read = .error failure) :
    runEntry setting (powers setting fuel) context event dispatch depth index entry world =
    .raised failure world := by
  cases entry with
  | action given => cases fails
  | persisted source =>
      change (Run.ofExcept (Action.read source) >>= fun found => _) world = _
      rw [show Action.read source = .error failure from fails]
      rfl

theorem run_entries_cons (entry : Entry) (rest : List Entry) :
    Run.forEachIndexed (runEntry setting (powers setting fuel) context event dispatch depth) index
      (entry :: rest)
        world =
      (runEntry setting (powers setting fuel) context event dispatch depth index entry >>= fun _ =>
        Run.forEachIndexed (runEntry setting (powers setting fuel) context event dispatch depth)
          (index + 1) rest)
        world :=
  rfl

/-- Running the entries of a list is its course, by induction on the entries; every entry leaves a
world in which books can be kept. -/
theorem course_of_entries (entries : List Entry) (ready : world.IsReady) :
    Course setting (powers setting fuel) context event dispatch depth index entries world
      (Run.forEachIndexed
        (runEntry setting (powers setting fuel) context event dispatch depth) index entries
        world) := by
  induction entries generalizing index world with
  | nil => exact .finished
  | cons entry rest ih =>
      rw [run_entries_cons]
      cases reads : entry.read with
      | error failure =>
          rw [bind_of_raised (run_entry_of_unreadable reads)]
          exact .unreadable reads
      | ok found =>
          cases found with
          | none =>
              obtain ⟨message, ended⟩ := run_entry_of_unknown reads
              rw [bind_of_done ended]
              exact .unknown reads (ih (Machine.IsReady.of_same ready rfl rfl))
          | some action =>
              have ended :=
                @run_entry_of_action setting fuel index context event dispatch
                  depth world entry action
                reads
              cases guarded : runGuarded setting (powers setting fuel) context event
                  dispatch depth index action world with
              | done value after =>
                  rw [bind_of_done (ended.trans guarded)]
                  have left : after.IsReady :=
                    Result.holds_of_tracks (readies_guarded action world ready)
                      (congrArg Result.state? guarded)
                  exact .dispatched reads guarded (ih left)
              | raised failure after =>
                  exact absurd guarded (contained_guarded action world ready failure after)
              | exhausted =>
                  rw [bind_of_exhausted (ended.trans guarded)]
                  exact .endless reads guarded

theorem Course.leaves_ready {entries : List Entry} {result : Result World Unit}
    (course : Course setting (powers setting fuel) context event dispatch depth
      index entries world result)
    (ready : world.IsReady) : ∀ last, result.state? = some last → last.IsReady := by
  induction course with
  | finished =>
      intro last left
      cases left
      exact ready
  | dispatched reads ended continues ih =>
      exact ih (Result.holds_of_tracks (readies_guarded _ _ ready) (congrArg Result.state? ended))
  | unknown reads continues ih => exact ih (Machine.IsReady.of_same ready rfl rfl)
  | unreadable fails =>
      intro last left
      cases left
      exact ready
  | endless reads lost => exact nofun

theorem Course.does_not_fail {entries : List Entry} {result : Result World Unit}
    (course : Course setting (powers setting fuel) context event dispatch depth
      index entries world result)
    (readable : ∀ entry ∈ entries, ∃ found, entry.read = .ok found) :
    ∀ failure last, result ≠ .raised failure last := by
  induction course with
  | finished =>
      intro failure last ended
      cases ended
  | dispatched _ _ _ ih =>
      exact ih fun entry member => readable entry (List.mem_cons_of_mem _ member)
  | unknown _ _ ih => exact ih fun entry member => readable entry (List.mem_cons_of_mem _ member)
  | unreadable fails =>
      obtain ⟨found, reads⟩ := readable _ List.mem_cons_self
      cases fails.symm.trans reads
  | endless reads lost =>
      intro failure last ended
      cases ended

/-- Closing the time of a list changes nothing but the machine, and how the list ended stays. -/
theorem timed_closes {body : Run World Unit} (name category : String) {budget : Value}
    (budgeted : budget.IsNumber ∨ budget = .null)
    (left : ∀ last, (body world).state? = some last → last.IsReady) :
    ∃ machine, timed context.host (.text name) (.text category) budget body world =
      (body world).mapState (World.setMachine machine) := by
  have closes : ∀ last, (body world).state? = some last → ∃ machine,
      onMachine (Machine.finishTiming context.host (.text name)
        (.text category) budget world.machine.now) last = .done () (last.setMachine machine) := by
    intro last reached
    obtain ⟨machine, ended⟩ :=
      Machine.finish_timing_done (left last reached) context.host name category budgeted
      world.machine.now
    refine ⟨machine, ?_⟩
    unfold onMachine zoom
    rw [ended]
    rfl
  unfold timed followedBy
  cases ended : body world with
  | done value last =>
      obtain ⟨machine, closed⟩ := closes last (congrArg Result.state? ended)
      exact ⟨machine, bind_of_done closed⟩
  | raised failure last =>
      obtain ⟨machine, closed⟩ := closes last (congrArg Result.state? ended)
      exact ⟨machine, bind_of_done closed⟩
  | exhausted => exact ⟨world.machine, rfl⟩

theorem run_list_closes {body : Run World Unit} (ready : world.IsReady)
    (within : world.machine.limits.check "action" "max_depth" depth = .ok ())
    (left : ∀ last, (body world).state? = some last → last.IsReady) :
    ∃ machine, runList context depth body world = (body world).mapState
      (World.setMachine machine) := by
  have opened : runList context depth body world =
      (if depth.same (.int 0) ∧ world.machine.hasMetrics context.host then
        timed context.host (.text "execute") (.text "action")
          (world.machine.limits.ceiling "action" "max_execution_time") body
      else body) world := by
    unfold runList
    rw [bind_of_done (rfl : (Run.get : Run World World) world = .done world world), within]
  rw [opened]
  split
  · exact timed_closes "execute" "action" (ready.limits _ _) left
  · cases ended : body world with
    | done value last => exact ⟨last.machine, rfl⟩
    | raised failure last => exact ⟨last.machine, rfl⟩
    | exhausted => exact ⟨world.machine, rfl⟩

end Lists

/-- A list within the depth ceiling takes its course and ends as the course does, but for the
machine, where its time is kept.  It fails only where an entry cannot be read, and leaves a world
for the next list. -/
theorem siblings_take_their_course (setting : Setting) (fuel : Nat) (entries : List Entry)
    (context : ActionContext)
    (event : Value) (dispatch : Dispatch) (depth : Value) {world : World} (ready : world.IsReady)
    (within : world.machine.limits.check "action" "max_depth" depth = .ok ()) :
    (∃ course machine,
      Course setting (powers setting fuel) context event dispatch depth 0 entries world course ∧
        execute setting (fuel + 1) entries context event dispatch depth world =
          course.mapState (World.setMachine machine)) ∧
      ((∀ entry ∈ entries, ∃ found, entry.read = .ok found) → ∀ failure last,
        execute setting (fuel + 1) entries context event dispatch depth world ≠
        .raised failure last) ∧
      ∀ last, (execute setting (fuel + 1) entries context event dispatch depth world).state? =
        some last →
        last.IsReady := by
  have course : Course setting (powers setting fuel) context event dispatch depth 0 entries world
      (Run.forEachIndexed
        (runEntry setting (powers setting fuel) context event dispatch depth) 0 entries world) :=
    course_of_entries entries ready
  have closes : ∃ machine, execute setting (fuel + 1) entries context event dispatch depth world =
      (Run.forEachIndexed
        (runEntry setting (powers setting fuel) context event dispatch depth) 0 entries
        world).mapState (World.setMachine machine) :=
    run_list_closes ready within (course.leaves_ready ready)
  have keeps : Readies (execute setting (fuel + 1) entries context event dispatch depth) :=
    (World.IsReady.handover setting (fuel + 1)).executes entries context event dispatch depth
      ⟨trivial, fun _ _ _ _ => (Frame.whole_permits _ _).2⟩ (Frame.whole_sends dispatch)
  obtain ⟨machine, closed⟩ := closes
  refine ⟨⟨_, machine, course, closed⟩, fun readable failure last ended => ?_, fun last left => ?_⟩
  · rw [closed] at ended
    cases taken : Run.forEachIndexed
        (runEntry setting (powers setting fuel) context event dispatch depth) 0 entries world with
    | done value after => rw [taken] at ended; cases ended
    | raised error after => exact course.does_not_fail readable error after taken
    | exhausted => rw [taken] at ended; cases ended
  · exact Result.holds_of_tracks (keeps world ready) left

/-- An instance whose events nobody can take. -/
def muted : Setting :=
  { instances := fun _ =>
      { signal := 0, registry := Registry.empty, component := none, package := .null, apis := [], scope := none
        triggerEvent := some fun _ _ => .fail (.mishap (.failed "muted")), setUrlParameters := none, root := .null
        overlay := .mapping [], logErrors := false }
    formulaFuel := 2 }

def mutedWorld : World :=
  { cells := #[Signal.Cell.fresh (.mapping []) none]
    nextSubscription := 0
    host :=
      { machine := Machine.lone Limits.standard 5
        workflows := #[Cycle.Workflow.empty (.int 1)]
        continuations := #[], promises := #[], queue := [], hasLoop := false, scopes := [] } }

/-- The entry that sets a variable to one. -/
def settingEntry (name : String) : Entry :=
  .persisted (.mapping [(.text "type", .text "SetVariable"), (.text "name", .text name),
    (.text "data", .mapping [(.text "type", .text "value"), (.text "value", .int 1)])])

/-- Nobody knows the first entry and nobody takes the event of the second. -/
def troubledEntries : List Entry :=
  [.persisted (.mapping [(.text "type", .text "Teleport")]),
    .action (.triggerEvent "seen" none), settingEntry "after"]

theorem muted_world_is_ready : mutedWorld.IsReady where
  limits := Limits.standard_are_numeric
  capacities
    | 0 => Value.is_number_int 5
    | _ + 1 => Value.is_number_int 0
  measured
    | 0 => nofun
    | _ + 1 => nofun

theorem troubled_entries_take_their_course :
    (execute muted 2 troubledEntries (muted.contextOf 0) .null .none (.int 0) mutedWorld).state?.map (fun last =>
        ((last.machine.host 0).sink.kept.length,
          (((last.cell 0).content.field "Variables").field "after").display)) = some (1, "1") ∧
    ∀ failure last,
      execute muted 2 troubledEntries (muted.contextOf 0) .null .none (.int 0) mutedWorld ≠ .raised failure last := by
  have readable : ∀ entry ∈ troubledEntries, ∃ found, entry.read = .ok found := by
    simp only [troubledEntries, List.forall_mem_cons, List.not_mem_nil, false_imp_iff, implies_true, and_true]
    exact ⟨⟨none, rfl⟩, ⟨some (.triggerEvent "seen" none), rfl⟩,
      ⟨some (.setVariable "after" (some (.value (.int 1)))), rfl⟩⟩
  exact ⟨by decide +kernel, (siblings_take_their_course muted 1 troubledEntries (muted.contextOf 0) .null .none
    (.int 0) muted_world_is_ready rfl).2.1 readable⟩

/-- Cases that are not a list, before an entry that sets a variable. -/
def brokenEntries : List Entry :=
  [.persisted (.mapping [(.text "type", .text "Switch"), (.text "cases", .int 5)]),
    settingEntry "x"]

/-- The list fails at its first entry; the second is an action and is not dispatched. -/
theorem broken_entry_stops_siblings :
    (settingEntry "x").read = .ok (some (.setVariable "x" (some (.value (.int 1))))) ∧
      execute muted 2 brokenEntries (muted.contextOf 0) .null .none (.int 0) mutedWorld =
        .raised (.mishap (.notIterable "int")) mutedWorld :=
  ⟨rfl, rfl⟩

end Execute
end Interplay
