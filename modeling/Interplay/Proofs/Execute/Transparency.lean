import Interplay.Proofs.Execute.Caching

/-!
Memos change nothing that can be seen from outside.

Powers with any fuel are in concord, so a sequence of calls that is done without memos and adds no
fault is done with memos as well.  All signals hold alike values then, and host code has noted alike
values: what it was sent as events and URL parameters, and what its handlers and APIs were given.
This takes memoized formulas that do not depend on the event, on workflow parameters or on other
slots in which contexts differ.  Only an assignment makes an instance forget, so a formula that
reads the event is answered from a memo that is out of date.
-/

namespace Interplay

theorem Machine.advance_eq (seconds : Value) (machine : Machine) :
    Machine.advance seconds machine = match seconds.addTo machine.journal.clock with
      | .ok clock => .done () { machine with journal := { machine.journal with clock := clock } }
      | .error failure => .raised failure machine := by
  unfold Machine.advance Run.update Journal.advance
  dsimp only
  cases seconds.addTo machine.journal.clock <;> rfl

namespace Execute

open Run

section Scripts

variable {company : Company} {powers : Powers} (concord : Concord company powers)

/-- Clocks that show the same time are advanced alike. -/
theorem follows_advance (seconds : Value) :
    Follows (Twins company) (fun content another => content = .null ∧ another = .null)
      (performEffect powers (.advance seconds))
      (performEffect powers (.advance seconds)) := by
  intro world beside twin value after ended _
  obtain ⟨_, middle, moved, left⟩ := done_of_bind ended
  cases left
  obtain ⟨last, advanced, rfl⟩ := done_of_on_machine moved
  rw [Machine.advance_eq] at advanced
  cases shown : seconds.addTo world.machine.journal.clock with
  | error failure =>
      rw [shown] at advanced
      cases advanced
  | ok clock =>
      rw [shown] at advanced
      cases advanced
      have journals := twin.machine.journal
      have both : Journal.Alike { world.machine.journal with clock := clock }
          { beside.machine.journal with clock := clock } := ⟨rfl, journals.trace, journals.notes⟩
      refine ⟨.null, _, ?_, twin.journal both, rfl, rfl⟩
      have reached : Machine.advance seconds beside.machine =
          .done () { beside.machine with journal :=
            { beside.machine.journal with clock := clock } } := by
        rw [Machine.advance_eq, journals.clock, shown]
      exact bind_of_done (on_machine_of_done reached)

include concord

theorem accrues_effect (effect : Effect) : Accrues (performEffect powers effect) :=
  fun size least => tracks_effect (concord.handover size least) effect

theorem accrues_script (plan : Plan) :
    Accrues (Signal.runScript powers.call (performEffect powers) plan) :=
  fun size least => (script_serves (concord.handover size least)).tracks plan
    (Frame.whole_spares plan)

theorem follows_resume_effect (number : Nat) {event another payload reply : Value}
    (events : event.Alike another) (payloads : payload.Alike reply) :
    Follows (Twins company) (fun content other => content = .null ∧ other = .null)
      (performEffect powers (.resume number event payload))
      (performEffect powers (.resume number another reply)) :=
  follows_bind (fun size least => tracks_resume (concord.handover size least) _ _ _)
    (fun _ _ _ => tracks_pure Value.null) (follows_resume concord number events payloads)
    fun _ _ _ => follows_pure ⟨rfl, rfl⟩

theorem follows_script {plan other : Plan} (courteous : Courteous plan other) :
    Follows (Twins company) (fun answer reply => Courteous (.finish answer) (.finish reply))
      (Signal.runScript powers.call (performEffect powers) plan)
      (Signal.runScript powers.call (performEffect powers) other) := by
  obtain ⟨means, runners⟩ := powers
  obtain rfl : means = .silent company.setting := concord.silent
  -- host code that passes a failure on is not done
  have passed : ∀ {next : Except Failure Value → Plan},
      (∀ failure, ∃ passed, next (.error failure) = .fail passed) →
      ∀ failure middle value last, Signal.runScript runners.call
        (performEffect ⟨.silent company.setting, runners⟩)
        (next (.error failure)) middle ≠ .done value last := by
    intro next passes failure middle value last ended
    obtain ⟨other, failed⟩ := passes failure
    rw [failed] at ended
    cases ended
  induction courteous with
  | value alike => exact follows_pure (.value alike)
  | cleanup courteous => exact follows_pure (.cleanup courteous)
  | promise number => exact follows_pure (.promise number)
  | deferred plan other => exact follows_pure (.deferred plan other)
  | fail failure other => exact follows_raise failure _
  | note alike continues ih =>
      intro world beside twin
      obtain ⟨answers, journals⟩ := twin.machine.journal.apply alike
      exact ih _ _ answers _ _ (twin.journal journals)
  | advance seconds continues passes ih =>
      refine follows_attempt_bind (accrues_effect concord _) (fun _ => accrues_script concord _)
        (follows_advance seconds) ?_ ?_
      · rintro _ _ ⟨rfl, rfl⟩
        exact ih
      · exact fun _ _ _ failure middle _ value last ended _ =>
          passed passes failure middle value last ended
  | pledge continues ih =>
      intro world beside twin value after ended clean
      obtain ⟨answer, later, answered, known⟩ :=
        ih world.stage.promises.size _ _ twin.new_promise value after ended clean
      rw [← twin.stage.promises] at answered
      exact ⟨answer, later, answered, known⟩
  | resume number events payloads continues passes ih =>
      refine follows_attempt_bind (accrues_effect concord _) (fun _ => accrues_script concord _)
        (follows_resume_effect concord number events payloads) ?_ ?_
      · rintro _ _ ⟨rfl, rfl⟩
        exact ih
      · exact fun _ _ _ failure middle _ value last ended _ =>
          passed passes failure middle value last ended

end Scripts

/-- With any fuel, host code and nested lists of twins are followed. -/
theorem concord_powers {company : Company} (orderly : company.IsOrderly) (fuel : Nat) :
    Concord company (powers company.setting fuel) := by
  induction fuel with
  | zero =>
      exact ⟨rfl, fun _ _ => above_handover company.setting 0, fun _ _ _ _ => mirrors_exhaust _,
        fun _ _ _ => follows_exhaust _, fun _ _ _ _ _ _ _ _ _ _ _ _ => follows_exhaust _⟩
  | succ fuel ih =>
      exact ⟨rfl, fun _ _ => above_handover company.setting (fuel + 1), script_observes ih.observes,
        fun _ _ courteous => follows_script ih courteous,
        fun _ _ _ _ _ _ _ _ ordinary contexts events dispatches =>
          follows_entries orderly ih contexts events dispatches ordinary⟩

/-- A call of `execute`. -/
structure Invocation where
  entries : List Entry
  context : ActionContext
  event : Value
  dispatch : Dispatch
  depth : Value

def Invocation.run (setting : Setting) (fuel : Nat) (call : Invocation) : Run World Unit :=
  execute setting fuel call.entries call.context call.event call.dispatch call.depth

/-- Calls, one after another. -/
def executeAll (setting : Setting) (fuel : Nat) (calls : List Invocation) : Run World Unit :=
  Run.forEach (Invocation.run setting fuel) calls

/-- A call with ordinary formulas and a JSON event, in a context of the company. -/
structure Invocation.IsOrdinary (company : Company) (call : Invocation) : Prop where
  entries : OrdinaryEntries call.entries
  context : call.context.Twin company call.context
  event : call.event.Alike call.event
  dispatch : call.dispatch.Twin company call.dispatch

section Calls

variable {company : Company} (orderly : company.IsOrderly) (fuel : Nat)

theorem accrues_run (call : Invocation) : Accrues (call.run company.setting fuel) :=
  fun _ _ => (above_handover company.setting fuel).executes _ _ _ _ _
    ⟨trivial, fun _ _ _ _ _ _ => trivial⟩ (Frame.whole_sends _)

theorem accrues_calls (calls : List Invocation) : Accrues (executeAll company.setting fuel calls) :=
  fun size least => tracks_for_each fun call _ => accrues_run fuel call size least

include orderly

theorem follows_run {call : Invocation} (ordinary : call.IsOrdinary company) :
    Follows (Twins company) (fun _ _ => True) (call.run company.setting fuel)
      (call.run company.setting fuel) :=
  (concord_powers orderly fuel).executes _ _ _ _ _ _ _ _ ordinary.entries
    ordinary.context ordinary.event ordinary.dispatch

theorem follows_calls {calls : List Invocation}
    (ordinary : ∀ call ∈ calls, call.IsOrdinary company) :
    Follows (Twins company) (fun _ _ => True) (executeAll company.setting fuel calls)
      (executeAll company.setting fuel calls) := by
  induction calls with
  | nil => exact follows_pure trivial
  | cons call rest ih =>
      rw [List.forall_mem_cons] at ordinary
      exact follows_bind (accrues_run fuel call) (fun _ => accrues_calls fuel rest)
        (follows_run orderly fuel ordinary.1) fun _ _ _ => ih ordinary.2

end Calls

/-- The world in which no instance has a memo. -/
def World.withoutMemos (world : World) : World :=
  world.modifyMachine fun machine =>
    { machine with hosts := machine.hosts.map fun state => { state with memo := none } }

theorem host_without_memos (world : World) (number : Nat) :
    world.withoutMemos.machine.host number = { world.machine.host number with memo := none } := by
  change ((world.machine.hosts.map fun state => { state with memo := none })[number]?).getD
    HostState.blank = _
  rw [Array.getElem?_map]
  unfold Machine.host
  cases world.machine.hosts[number]? <;> rfl

theorem size_without_memos (world : World) :
    world.withoutMemos.machine.hosts.size = world.machine.hosts.size :=
  Array.size_map

theorem faults_without_memos (world : World) (host : Nat) :
    world.withoutMemos.machine.faults host = world.machine.faults host := by
  unfold Machine.faults
  rw [host_without_memos]

/-- A world from which a company starts: memos are empty, data are JSON values without
not-a-numbers, subscribers only observe, and what is put aside fits. -/
structure Company.Starts (company : Company) (world : World) : Prop where
  hosts : world.machine.hosts.size = company.size
  fresh : ∀ host memo, (world.machine.host host).memo = some memo → memo = Memo.empty
  cells : ∀ signal, CellTwin company (world.cell signal) (world.cell signal)
  journal : world.machine.journal.Alike world.machine.journal
  stage : StageTwin company world.host world.host

theorem Company.Starts.twins {company : Company} {world : World} (starts : company.Starts world) :
    Twins company world.withoutMemos world := by
  have books := host_without_memos world
  refine ⟨rfl, starts.cells, ?_, starts.stage.set_machine _ _, fun host _ _ memo held => ?_⟩
  · refine ⟨rfl, rfl, (size_without_memos world).trans starts.hosts, starts.hosts, fun host => ?_,
      fun host => (faults_without_memos world host).symm, fun host => ?_, starts.journal⟩
    · rw [books]
      rfl
    · rw [books]
  · rw [starts.fresh host memo held]
    exact fun _ _ _ _ _ _ _ => Evaluate.backs_empty _

/-- Calls that are done without memos, and without a fault, do the same with memos: they leave alike
contents in every signal, and host code has noted alike things of all that it was given. -/
theorem memoized_calls_agree {company : Company} (orderly : company.IsOrderly) (fuel : Nat)
    {calls : List Invocation}
    (ordinary : ∀ call ∈ calls, call.IsOrdinary company) {world after : World}
    (starts : company.Starts world)
    (ended : executeAll company.setting fuel calls world.withoutMemos = .done () after)
    (clean : World.Clean world.withoutMemos after) :
    ∃ later, executeAll company.setting fuel calls world = .done () later ∧
    World.Clean world later ∧
      (∀ signal, (after.cell signal).content.Alike (later.cell signal).content) ∧
      after.machine.journal.Alike later.machine.journal := by
  have twins := starts.twins
  obtain ⟨_, later, answered, twin, _⟩ :=
    follows_calls orderly fuel ordinary _ _ twins () after ended clean
  refine ⟨later, answered, fun host => ?_, fun signal => (twin.cells signal).content,
    twin.machine.journal⟩
  rw [twin.machine.faults, clean, twins.machine.faults]

def gauge (body : Formula) : Instance :=
  { signal := 0
    registry := Registry.empty
    component := some (Component.ofFormulas "Gauge"
      [("level", { name := .text "level", formula := some body, arguments := [], memoize := true
                   isExposed := false })])
    package := .null, apis := [], scope := none
    triggerEvent := some fun name content => .record (.list [.text name, content]) .done
    setUrlParameters := none, root := .null, overlay := .mapping [], logErrors := false }

def gauging (body : Formula) : Company :=
  { setting := { instances := fun _ => gauge body, formulaFuel := 6 }, size := 1,
    slots := ["Event", "Parameters"] }

/-- A gauge with a memo. -/
def gaugeWorld : World :=
  { cells := #[Signal.Cell.fresh (.mapping [(.text "Variables", .mapping [])]) none]
    nextSubscription := 0
    host :=
      { machine :=
          { limits := Limits.standard, journal := Journal.empty
            hosts := #[{ HostState.blank with sink := Sink.ofCapacity (.int 5), memo := some Memo.empty }]
            cycleStacks := #[], closures := #[] }
        workflows := #[Cycle.Workflow.empty (.int 1)]
        continuations := #[], promises := #[], queue := [], hasLoop := false, scopes := [] } }

/-- Sets a variable, and sends what the gauge shows. -/
def gaugeCall (number : Int) : Invocation :=
  { entries := [.action (.setVariable "mark" (some (.value (.int number)))),
      .action (.triggerEvent "seen" (some (.apply "level" [])))]
    context := { host := 0, stackHost := 0, overlay := .mapping [] }
    event := .int number, dispatch := .none, depth := .int 0 }

/-- Sends what the gauge shows. -/
def gaugeLook (number : Int) : Invocation :=
  { gaugeCall number with entries := [.action (.triggerEvent "seen" (some (.apply "level" [])))] }

/-- A gauge that shows a variable. -/
def marking : Company := gauging (.path ["Variables", "mark"])

theorem gauge_sends {content other : Value} (name : String) (alike : content.Alike other) :
    Courteous (.record (.list [.text name, content]) .done)
      (.record (.list [.text name, other]) .done) := by
  obtain ⟨said, known, otherKnown, definite⟩ := alike
  have noted : (Value.list [.text name, content]).Alike (.list [.text name, other]) := by
    refine ⟨.list [.text name, said], ?_, ?_, .list ?_⟩
    · simp [Value.content?, Value.contents?, Scalar.content?, known]
    · simp [Value.content?, Value.contents?, Scalar.content?, otherKnown]
    · exact List.forall_mem_cons.mpr ⟨.text name, List.forall_mem_singleton.mpr definite⟩
  exact .note (.record noted) fun _ _ _ => .value Value.alike_null

theorem path_ordinary (segments : List String) :
    (Formula.path segments).IsPlain ∧ (Formula.path segments).IsDefinite :=
  ⟨Evaluate.plain_of_arguments rfl nofun nofun, nofun, nofun⟩

theorem marking_orderly : marking.IsOrderly where
  plain host _ root := by
    refine ⟨?_, nofun, ?_⟩
    · rintro entry ⟨_, _, _, inside, _⟩
      cases inside
    · intro component owner entry member formula present
      cases owner
      obtain rfl := List.mem_singleton.mp member
      cases present
      exact (path_ordinary _).1
  quiet host _ root := by
    refine ⟨?_, nofun⟩
    rintro entry ⟨_, _, _, inside, _⟩
    cases inside
  definite host _ root := by
    refine ⟨?_, nofun, ?_⟩
    · rintro entry ⟨_, _, _, inside, _⟩
      cases inside
    · intro component owner entry member formula present
      cases owner
      obtain rfl := List.mem_singleton.mp member
      cases present
      exact (path_ordinary _).2
  disregards host _ root := by
    refine Evaluate.disregards_of_avoiding fun name definition found formula present => ?_
    obtain ⟨component, owner, entry⟩ := Option.bind_eq_some_iff.mp found
    cases owner
    obtain ⟨spelled, member⟩ := Keyed.mem_of_find? entry
    obtain ⟨rfl, rfl⟩ := Prod.mk.inj (List.mem_singleton.mp member)
    cases present
    refine ⟨fun segments path => ?_, nofun⟩
    cases path
    exact ⟨"Variables", ["mark"], rfl, by decide⟩
  slots := by decide
  overlays host _ := ⟨[], rfl, Entries.alike_nil⟩
  signals host other inside also _ := by
    change host < 1 at inside
    change other < 1 at also
    omega
  workflows host _ component name workflow owner found := by
    cases owner
    cases found
  handlers host _ name package handler found resolved := by
    rcases resolved with resolved | resolved
    · rcases Catalog.resolve_cases resolved with ⟨_, _, _, _, _, _, inside, _⟩ | ⟨_, _, _, member⟩
      · cases inside
      · cases member
    · rcases Catalog.resolve_cases resolved with ⟨_, _, _, _, _, _, inside, _⟩ | ⟨_, _, _, member⟩
      · cases inside
      · cases member
  fetches host _ name api found := by cases found
  cancels host _ name api plan found := by cases found
  events host _ run given name content other alike := by
    cases given
    exact gauge_sends name alike
  urls host _ run given := by cases given

theorem gauge_context :
    ActionContext.Twin marking { host := 0, stackHost := 0, overlay := .mapping [] }
      { host := 0, stackHost := 0, overlay := .mapping [] } :=
  twin_of_host marking_orderly Nat.zero_lt_one

theorem alike_int (number : Int) : (Value.int number).Alike (.int number) := by
  have known : (Value.int number).content? = some (.atom (.int number)) :=
    by simp [Value.content?, Scalar.content?]
  exact ⟨_, known, known, .atom (by simp)⟩

theorem literal_ordinary (number : Int) :
    (Formula.value (.int number)).IsPlain ∧ (Formula.value (.int number)).IsDefinite := by
  obtain ⟨content, known, _⟩ := alike_int number
  refine ⟨Evaluate.plain_literal ⟨_, known⟩, fun content same => ?_, List.forall_mem_nil _⟩
  cases same
  exact alike_int number

theorem apply_ordinary (name : String) : (Formula.apply name []).IsPlain ∧
    (Formula.apply name []).IsDefinite :=
  ⟨Evaluate.plain_of_arguments rfl nofun nofun, nofun, nofun⟩

theorem gauge_call_ordinary (number : Int) : (gaugeCall number).IsOrdinary marking where
  entries := by
    intro entry member action reads
    rcases List.mem_pair.mp member with rfl | rfl
    · cases reads
      refine ⟨fun formula operand => ?_, List.forall_mem_nil _⟩
      obtain rfl := List.mem_singleton.mp operand
      exact literal_ordinary number
    · cases reads
      refine ⟨fun formula operand => ?_, List.forall_mem_nil _⟩
      obtain rfl := List.mem_singleton.mp operand
      exact apply_ordinary "level"
  context := gauge_context
  event := alike_int number
  dispatch := .none

theorem gauge_starts : marking.Starts gaugeWorld where
  hosts := rfl
  fresh host memo held := by
    rcases host with _ | host
    · cases held
      rfl
    · cases held
  cells signal := by
    have blank : (Value.mapping [(.text "Variables", .mapping [])]).Alike
        (.mapping [(.text "Variables", .mapping [])]) :=
      (Entries.alike_nil.insert "Variables" Entries.alike_nil.value).value
    rcases signal with _ | signal
    · exact ⟨blank, rfl, rfl, nofun⟩
    · exact ⟨Value.alike_null, rfl, rfl, nofun⟩
  journal := ⟨rfl, .nil, .nil⟩
  stage := by
    refine ⟨rfl, rfl, rfl, fun scope key host found => ?_, rfl, ?_, rfl, ?_, ?_⟩
    · simp [gaugeWorld, Scopes.consume, Scopes.own, Keyed.find?] at found
    · intro number continuation found
      simp [gaugeWorld] at found
    · intro number promise found
      simp [gaugeWorld] at found
    · intro number promise found
      simp [gaugeWorld] at found

/-- The numbers in the events that were noted by a run without faults. -/
def sent : Result World Unit → Option (List Int)
  | .done () after =>
    if after.machine.faults 0 = 0 then
      after.machine.journal.trace.mapM fun entry => match entry with
        | .list [_, .int number] => some number
        | _ => none
    else none
  | _ => none

theorem done_of_sent {result : Result World Unit} {numbers : List Int}
    (known : sent result = some numbers) :
    ∃ after, result = .done () after ∧ after.machine.faults 0 = 0 := by
  unfold sent at known
  split at known
  · rename_i after
    split at known
    · rename_i none
      exact ⟨after, rfl, none⟩
    · cases known
  · cases known

/-- A gauge that shows a variable shows it with a memo as well, each time that it was set. -/
theorem marking_is_transparent :
    ∃ after later, executeAll marking.setting 6 [gaugeCall 1, gaugeCall 2] gaugeWorld.withoutMemos = .done () after ∧
      executeAll marking.setting 6 [gaugeCall 1, gaugeCall 2] gaugeWorld = .done () later ∧
      (after.cell 0).content.Alike (later.cell 0).content ∧
      after.machine.journal.Alike later.machine.journal := by
  have ordinary : ∀ call ∈ [gaugeCall 1, gaugeCall 2], call.IsOrdinary marking := by
    intro call member
    rcases List.mem_pair.mp member with rfl | rfl
    · exact gauge_call_ordinary 1
    · exact gauge_call_ordinary 2
  have shown : sent (executeAll marking.setting 6 [gaugeCall 1, gaugeCall 2] gaugeWorld.withoutMemos) =
      some [1, 2] := by decide +kernel
  obtain ⟨after, ended, none⟩ := done_of_sent shown
  have sizes := hosts_of_accrues (accrues_calls 6 [gaugeCall 1, gaugeCall 2]) (congrArg Result.state? ended)
  have clean : World.Clean gaugeWorld.withoutMemos after := by
    intro host
    rw [faults_without_memos]
    rcases host with _ | host
    · exact none
    · have absent : after.machine.hosts[host + 1]? = Option.none := by
        rw [Array.getElem?_eq_none_iff, sizes, size_without_memos]
        exact Nat.le_add_left 1 host
      unfold Machine.faults Machine.host
      rw [absent]
      rfl
  obtain ⟨later, answered, _, contents, journals⟩ :=
    memoized_calls_agree marking_orderly 6 ordinary gauge_starts ended clean
  exact ⟨after, later, ended, answered, contents 0, journals⟩

/-- A memoized formula that reads the event is out of date with the next event. -/
theorem stale_event_is_sent :
    sent (executeAll (gauging (.path ["Event"])).setting 6 [gaugeLook 1, gaugeLook 2] gaugeWorld.withoutMemos) =
        some [1, 2] ∧
      sent (executeAll (gauging (.path ["Event"])).setting 6 [gaugeLook 1, gaugeLook 2] gaugeWorld) = some [1, 1] := by
  decide +kernel

end Execute
end Interplay
