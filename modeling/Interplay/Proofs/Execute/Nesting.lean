import Interplay.Proofs.Cycle.Workflow
import Interplay.Proofs.Evaluate.Nesting
import Interplay.Proofs.Execute.Tracking

/-!
Execution with its nesting spelled out.

As in nested evaluation, the steps that enclose an action list or host code are handed down: an
action is given one step more than its list, and the body of a workflow one step more than the
action that runs it.  Lists that are resumed or called back are given the steps of whoever resumes
them.  Failures are stamped with the steps that were handed down, and everything is broken off as
soon as it finds other trails.  The formulas of an action are evaluated as nested evaluation, on the
trail of the action and with the steps that the action was given, and so are the closures that host
code calls.  Execution that comes to an end is the same as nested execution, and leaves the trails,
the cycle stacks and the running workflows as they were.
-/

namespace Interplay
namespace Execute

open Run

namespace World

/-- Every running workflow is counted. -/
def IsProper (world : World) : Prop :=
  ∀ running ∈ world.host.workflows, running.IsProper

/-- Worlds with the same trails, cycle stacks and running workflows.  Contexts that were made in
between have empty cycle stacks. -/
structure Restored (before after : World) : Prop where
  trails : after.machine.trails = before.machine.trails
  cycles : ∃ made, after.machine.cycleStacks =
    before.machine.cycleStacks ++ Array.replicate made (Cycle.Stack.empty .formula)
  workflows : after.host.workflows = before.host.workflows

theorem Restored.refl (world : World) : Restored world world :=
  ⟨rfl, ⟨0, by simp⟩, rfl⟩

theorem Restored.trans {first second third : World} (left : Restored first second)
    (right : Restored second third) :
    Restored first third := by
  obtain ⟨earlier, before⟩ := left.cycles
  obtain ⟨later, after⟩ := right.cycles
  refine ⟨right.trails.trans left.trails, ⟨earlier + later, ?_⟩,
    right.workflows.trans left.workflows⟩
  rw [after, before, Array.append_assoc, Array.replicate_append_replicate]

theorem Restored.proper {before after : World} (restored : Restored before after)
    (proper : before.IsProper) :
    after.IsProper := by
  intro running member
  rw [restored.workflows] at member
  exact proper running member

theorem Restored.of_machine {origin world : World} {machine after : Machine}
    (kept : Restored origin (world.setMachine machine))
    (restored : Machine.Restored machine after) :
    Restored origin (world.setMachine after) := by
  obtain ⟨made, cycles⟩ := kept.cycles
  exact ⟨restored.trails.trans kept.trails, ⟨made, restored.cycles.trans cycles⟩, kept.workflows⟩

theorem Restored.pop {number : Nat} {kind name : String} {world after : World}
    (kept : Restored (world.modifyMachine (Machine.pushStep number kind name)) after) :
    Restored world (after.modifyMachine (Machine.popStep number)) := by
  refine ⟨?_, kept.cycles, kept.workflows⟩
  change (after.machine.popStep number).trails = world.machine.trails
  have pushed : after.machine.trails = (world.machine.pushStep number kind name).trails :=
    kept.trails
  rw [Machine.trails_pop_step, pushed, Machine.trails_push_step, Nest.pop_push]

theorem proper_workflows {world : World} (proper : world.IsProper) (number : Nat) :
    (world.workflows number).IsProper := by
  unfold workflows
  cases found : world.stage.workflows[number]? with
  | none => exact Cycle.Workflow.empty_is_proper _
  | some running => exact proper running (Array.mem_of_getElem? found)

theorem proper_entered {world : World} (proper : world.IsProper) (number : Nat) (key : String) :
    (world.modifyWorkflows number fun _ => (world.workflows number).entered key).IsProper := by
  intro running member
  obtain ⟨index, found⟩ := Array.mem_iff_getElem?.mp member
  change (world.host.workflows.modify number _)[index]? = some running at found
  rw [Array.getElem?_modify] at found
  split at found
  · obtain ⟨before, _, rfl⟩ := Option.map_eq_some_iff.mp found
    exact Cycle.Workflow.entered_is_proper (proper_workflows proper number) key
  · exact proper running (Array.mem_of_getElem? found)

theorem Restored.leave {number : Nat} {key : String} {world after : World} (proper : world.IsProper)
    (kept : Restored
      (world.modifyWorkflows number fun _ => (world.workflows number).entered key) after) :
    Restored world (after.modifyWorkflows number (Cycle.Workflow.leave key)) := by
  refine ⟨kept.trails, kept.cycles, ?_⟩
  have entered : after.host.workflows =
      world.host.workflows.modify number fun _ => (world.workflows number).entered key :=
    kept.workflows
  change after.host.workflows.modify number _ = world.host.workflows
  rw [entered]
  apply Array.ext_getElem?
  intro index
  simp only [Array.getElem?_modify]
  split
  · rename_i same
    subst same
    cases found : world.host.workflows[number]? with
    | none => rfl
    | some running =>
        have held : world.workflows number = running := congrArg (Option.getD · _) found
        simp only [Option.map_some]
        rw [held, Cycle.Workflow.leave_entered (proper running (Array.mem_of_getElem? found))]
  · rfl

end World

/-- Work that finds the trails as they were handed down. -/
noncomputable def within {α : Type} (nest : Nest) (body : Run World α) : Run World α :=
  provided (fun world => world.machine.trails = nest) body

/-- Nested evaluation, for formulas and for the closures that host code calls. -/
noncomputable def nestedMeans (setting : Setting) (nest : Nest) : Means where
  evaluate context formula :=
    onMachine (Evaluate.evaluateTop
      (Evaluate.nestedNode setting.environment setting.formulaFuel nest) context (.int 0) formula)
  invoke handle arguments :=
    onMachine (Evaluate.invoke
      (Evaluate.nestedNode setting.environment setting.formulaFuel nest) handle arguments)
  heed _ := pure ()

/-- Formulas are evaluated on the trail of a host, whatever trail their context names. -/
def Powers.onTrailOf (number : Nat) (powers : Powers) : Powers :=
  { powers with
    evaluate := fun context formula => powers.evaluate { context with trailHost := number } formula }

section Nested

variable (setting : Setting) (powers : Nest → Powers) (nest : Nest)

noncomputable def recordFailureNested (context : ActionContext) (kind : String)
    (index : Nat) (failure : Failure) :
    Run World Unit :=
  within nest <|
    match failure with
    | .fault fault => do
      warn fault.text
      onMachine (Machine.addFault context.host (fault.stamp (nest.steps context.stackHost)))
    | .mishap mishap => do
      Run.modify (World.log .error ("Action execution error in " ++ kind))
      onMachine (Machine.addFault context.host (Fault.action (.text kind) (.ofNat index)
        (.text ("Action execution error: " ++ mishap.message)) (nest.steps context.stackHost)
        (componentName setting context.host) (some mishap)))

/-- The powers of an action that runs a workflow: its body is given one step more, on the trail of
the action. -/
def workflowPowers (context : ActionContext) (name : String) : Powers :=
  { (powers nest).onTrailOf context.stackHost with
    execute := fun entries target event dispatch depth =>
      (powers (nest.push context.stackHost "workflow"
        (ownerName setting target.host ++ ":" ++ name))).execute entries
        { target with stackHost := context.stackHost } event dispatch depth }

theorem workflow_powers_below (context : ActionContext) (name : String) (actions : List Action)
    {target : ActionContext}
    (same : target.stackHost = context.stackHost) (event : Value)
    (dispatch : Dispatch) (depth : Value) :
    (workflowPowers setting powers nest context name).executeBelow actions
    target event dispatch depth =
      (powers (nest.push target.stackHost "workflow"
        (ownerName setting target.host ++ ":" ++ name))).executeBelow
        actions target event dispatch depth := by
  simp only [Powers.executeBelow, workflowPowers, ← same]

noncomputable def runActionNested (context : ActionContext) (event : Value)
    (dispatch : Dispatch) (depth : Value) (action : Action) : Run World Unit :=
  within nest <|
    match action with
    | .triggerWorkflow name parameters callbacks provider package =>
      runWorkflow setting (workflowPowers setting powers nest context name) context event
        dispatch depth name parameters callbacks provider package
    | other =>
      runAction setting ((powers nest).onTrailOf context.stackHost) context
        event dispatch depth other

noncomputable def containNested (context : ActionContext) (kind : String) (index : Nat)
    (body : Run World Unit) :
    Run World Bool := do
  let outcome ← Run.attempt body
  (powers nest).heed (.dispatched context.host kind outcome.isOk)
  match outcome with
  | .ok () => pure true
  | .error failure => do
    recordFailureNested setting nest context kind index failure
    pure false

noncomputable def runGuardedNested (context : ActionContext) (event : Value)
    (dispatch : Dispatch) (depth : Value) (index : Nat) (action : Action) : Run World Unit := do
  let before ← Run.get
  let inside := nest.push context.stackHost "action" action.kind
  let succeeded ← onTrail context.stackHost "action" action.kind <|
    containNested setting powers inside context action.kind index <|
      runActionNested setting powers inside context event dispatch depth action
  let after ← Run.get
  onMachine (Machine.onMetrics context.host () (Metrics.record (.text action.kind) (.text "action")
    after.machine.now (Measure.elapsed before.machine.now after.machine.now) (some succeeded)))

def runListNested (context : ActionContext) (depth : Value) (body : Run World Unit) :
    Run World Unit := do
  let world ← Run.get
  match world.machine.limits.check "action" "max_depth" depth with
  | .error (.fault fault) => do
    Run.modify (World.log .error fault.text)
    onMachine (Machine.addFault context.host (fault.stamp (nest.steps context.stackHost)))
  | .error failure => Run.raise failure
  | .ok () =>
    if depth.same (.int 0) ∧ world.machine.hasMetrics context.host then
      timed context.host (.text "execute") (.text "action")
        (world.machine.limits.ceiling "action" "max_execution_time") body
    else
      body

noncomputable def executeNested (entries : List Entry) (context : ActionContext)
    (event : Value) (dispatch : Dispatch) (depth : Value) : Run World Unit :=
  within nest <| runListNested nest context depth <|
    Run.forEachIndexed (fun index => runEntryWith
      (runGuardedNested setting powers nest context event dispatch depth index)) 0 entries

end Nested

/-- Nested lists and host code, told what encloses them, with fuel for how deep they nest. -/
noncomputable def nestedRunners (setting : Setting) : Nat → Nest → Runners
  | 0, _ => { execute := fun _ _ _ _ _ => Run.exhaust, call := fun _ => Run.exhaust }
  | fuel + 1, nest =>
    let below : Nest →
        Powers := fun inner => ⟨nestedMeans setting inner, nestedRunners setting fuel inner⟩
    { execute := executeNested setting below nest
      call := fun plan => within nest <| Signal.runScript (below nest).call
        (performEffect (below nest)) plan }

noncomputable def nestedPowers (setting : Setting) (fuel : Nat) (nest : Nest) : Powers :=
  ⟨nestedMeans setting nest, nestedRunners setting fuel nest⟩

namespace Frame

/-- An invariant of the stacks is kept by everything else that may happen. -/
theorem whole_upholds (setting : Setting) (origin : World) :
    whole.Upholds setting (World.Restored origin) where
  signals :=
    { logged := fun _ _ kept => ⟨kept.trails, kept.cycles, kept.workflows⟩
      numbered := fun _ _ kept => ⟨kept.trails, kept.cycles, kept.workflows⟩
      stored := fun _ _ _ => whole_spares_cell _
      changed := fun _ _ _ kept _ _ => ⟨kept.trails, kept.cycles, kept.workflows⟩
      written := fun _ _ _ kept _ => ⟨kept.trails, kept.cycles, kept.workflows⟩
      added := fun _ _ _ kept _ => ⟨kept.trails, kept.cycles, kept.workflows⟩
      fresh := fun _ _ => trivial }
  books _ _ _ _ _ _ booked kept := kept.of_machine ⟨booked.trails_eq, booked.cycles⟩
  noted _ _ kept := ⟨kept.trails, kept.cycles, kept.workflows⟩
  stacked world kept := by
    obtain ⟨made, cycles⟩ := kept.cycles
    refine ⟨kept.trails, ⟨made + 1, ?_⟩, kept.workflows⟩
    change world.machine.cycleStacks.push _ = _
    rw [cycles, Array.replicate_succ, Array.append_push]
  assigned _ _ _ _ _ kept _ _ _ := ⟨kept.trails, kept.cycles, kept.workflows⟩
  continued _ _ kept _ := ⟨kept.trails, kept.cycles, kept.workflows⟩
  resumed _ _ continuation _ _ := whole_resumes continuation
  promised _ kept := ⟨kept.trails, kept.cycles, kept.workflows⟩
  awaited _ _ _ kept := ⟨kept.trails, kept.cycles, kept.workflows⟩
  settled _ _ _ kept _ := ⟨kept.trails, kept.cycles, kept.workflows⟩
  cleanups _ _ _ plan _ _ _ := whole_spares plan
  enqueued _ _ kept _ := ⟨kept.trails, kept.cycles, kept.workflows⟩
  queued _ job _ _ := whole_queues job
  dequeued _ _ _ kept _ := ⟨kept.trails, kept.cycles, kept.workflows⟩

end Frame

section Steps

variable {setting : Setting} {origin : World} {α : Type}

theorem tracks_within {run other : Run World α}
    (tracks : Tracks True (World.Restored origin) run other) :
    Tracks True (World.Restored origin) run (within origin.machine.trails other) :=
  tracks_provided (fun _ kept => kept.trails) tracks

theorem tracks_on_machine_nested {run : Run Machine α} (nested : Nest → Run Machine α)
    (tracks : ∀ machine : Machine, Tracks True (Machine.Restored machine) run
      (nested machine.trails)) :
    Tracks True (World.Restored origin) (onMachine run)
      (onMachine (nested origin.machine.trails)) := by
  refine tracks_on_machine fun world _ machine kept => ?_
  have trails : machine.trails = origin.machine.trails := kept.trails
  rw [← trails]
  have inner := tracks machine machine (.refl machine)
  cases ended : run machine with
  | done value after =>
      rw [ended] at inner
      exact ⟨inner.1, kept.of_machine inner.2⟩
  | raised failure after =>
      rw [ended] at inner
      exact ⟨inner.1, kept.of_machine inner.2⟩
  | exhausted => trivial

theorem nested_backing (setting : Setting) (origin : World) :
    Backing True setting Frame.whole (World.Restored origin) (.silent setting)
      (nestedMeans setting origin.machine.trails) where
  upholds := Frame.whole_upholds setting origin
  governs := Frame.whole_governs setting
  evaluates context formula _ := tracks_on_machine_nested (fun nest => Evaluate.evaluateTop
      (Evaluate.nestedNode setting.environment setting.formulaFuel nest) context (.int 0) formula)
    (Evaluate.evaluation_nests setting.environment setting.formulaFuel formula context (.int 0))
  invokes handle arguments := tracks_on_machine_nested (fun nest => Evaluate.invoke
      (Evaluate.nestedNode setting.environment setting.formulaFuel nest) handle arguments)
    (Evaluate.invocation_nests setting.environment setting.formulaFuel handle arguments)
  heeds _ := tracks_pure ()

theorem tracks_record_failure_nested (context : ActionContext) (kind : String)
    (index : Nat) (failure : Failure) :
    Tracks True (World.Restored origin) (recordFailure setting context kind index failure)
      (recordFailureNested setting origin.machine.trails context kind index failure) := by
  intro world kept
  have path : world.machine.trailSteps context.stackHost =
      origin.machine.trails.steps context.stackHost := by
    rw [Machine.trail_steps_eq, kept.trails]
  have same : recordFailureNested setting origin.machine.trails context kind index failure world =
      recordFailure setting context kind index failure world := by
    unfold recordFailureNested within provided
    rw [if_pos kept.trails, ← path]
    cases failure <;> rfl
  rw [same]
  exact tracks_record_failure (Frame.whole_upholds setting origin) trivial kind
    index failure world kept

theorem tracks_list_nested (upholds : Frame.whole.Upholds setting (World.Restored origin))
    (context : ActionContext)
    (depth : Value) {body other : Run World Unit}
    (tracks : Tracks True (World.Restored origin) body other) :
    Tracks True (World.Restored origin) (runList context depth body)
      (runListNested origin.machine.trails context depth other) := by
  intro world kept
  have listed : (runList context depth body world).Tracks True (World.Restored origin)
      (runList context depth other world) := tracks_run_list upholds trivial depth tracks world kept
  have same : runListNested origin.machine.trails context depth other world =
      runList context depth other world := by
    unfold runListNested
    rw [← kept.trails, ← Machine.trail_steps_eq]
    rfl
  rw [same]
  exact listed

theorem tracks_trail_nested {number : Nat} {kind name : String} {body : Run World α}
    (nested : Nest → Run World α) (proper : origin.IsProper)
    (tracks : ∀ inside : World, inside.IsProper →
      Tracks True (World.Restored inside) body (nested inside.machine.trails)) :
    Tracks True (World.Restored origin) (onTrail number kind name body)
      (onTrail number kind name (nested (origin.machine.trails.push number kind name))) := by
  intro world kept
  let pushed := world.modifyMachine (Machine.pushStep number kind name)
  have trails : pushed.machine.trails = origin.machine.trails.push number kind name := by
    change (world.machine.pushStep number kind name).trails = _
    rw [Machine.trails_push_step, kept.trails]
  have properInside : pushed.IsProper := kept.proper proper
  rw [← trails]
  exact Result.tracks_map_state (tracks pushed properInside pushed (.refl pushed))
    fun after left => kept.trans left.pop

/-- A workflow that is left restores what ran before it was entered. -/
theorem tracks_workflow_nested {number : Nat} {key : String} {body nested : Run World α}
    (proper : origin.IsProper)
    (tracks : ∀ inside : World, inside.IsProper → inside.machine.trails = origin.machine.trails →
      Tracks True (World.Restored inside) body nested) :
    Tracks True (World.Restored origin) (underWorkflow number key body)
      (underWorkflow number key nested) := by
  intro world kept
  unfold underWorkflow
  cases entry : (world.workflows number).enter key with
  | error failure => exact ⟨rfl, kept⟩
  | ok entered =>
      obtain rfl := Cycle.Workflow.entered_of_enter entry
      have properWorld := kept.proper proper
      have inner := tracks _ (World.proper_entered properWorld number key) kept.trails _ (.refl _)
      exact Result.tracks_map_state inner fun after left => kept.trans (left.leave properWorld)

end Steps

section Trails

variable {setting : Setting} {first second : Powers} {context : ActionContext} {event : Value}

/-- Powers that evaluate formulas in the same way, in contexts on the trail of a host. -/
def Powers.AgreeOn (number : Nat) (first second : Powers) : Prop :=
  ∀ context formula, context.trailHost = number →
    first.evaluate context formula = second.evaluate context formula

theorem Powers.agree_on_trail (number : Nat) (powers : Powers) :
    (powers.onTrailOf number).AgreeOn number powers := by
  rintro context formula rfl
  rfl

theorem formula_context_on_trail {α : Type} {body other : Context → Run World α}
    (agree : ∀ inner : Context, inner.trailHost = context.stackHost → body inner = other inner) :
    (formulaContext setting context event >>= body) =
    (formulaContext setting context event >>= other) := by
  funext world
  change (((Run.ofExcept (dataRoot setting context event world) >>= _) : Run World Context) >>=
    body) world =
    (((Run.ofExcept (dataRoot setting context event world) >>= _) : Run World Context) >>= other)
    world
  cases dataRoot setting context event world with
  | error failure => rfl
  | ok data => exact congrFun (agree _ rfl) _

variable (agree : first.AgreeOn context.stackHost second)

include agree

theorem evaluate_for_agrees (formula : Option Formula) :
    evaluateFor setting first context event formula =
    evaluateFor setting second context event formula :=
  formula_context_on_trail fun inner same => agree inner formula same

theorem named_values_agree (named : List NamedFormula) :
    namedValues setting first context event named =
    namedValues setting second context event named :=
  formula_context_on_trail fun inner same => by rw [funext fun formula => agree inner formula same]

theorem call_workflow_agrees (name : String) (parameters : List NamedFormula)
    (provider package : Value) (body : ActionContext → List Action → Run World Unit) :
    callWorkflow setting first context event name parameters provider package body =
      callWorkflow setting second context event name parameters provider package body := by
  unfold callWorkflow
  rw [named_values_agree agree]

omit agree

theorem run_action_on_trail (powers : Powers) (dispatch : Dispatch)
    (depth : Value) (action : Action) :
    runAction setting (powers.onTrailOf context.stackHost) context event dispatch depth action =
      runAction setting powers context event dispatch depth action := by
  have agree := powers.agree_on_trail context.stackHost
  cases action with
  | setVariable name data => simp only [runAction, setVariable, evaluate_for_agrees agree]; rfl
  | triggerEvent name data => simp only [runAction, triggerEvent, evaluate_for_agrees agree]; rfl
  | switch cases fallback data =>
      exact formula_context_on_trail fun inner same =>
        by rw [funext fun formula => agree inner formula same]; rfl
  | fetch name inputs onSuccess onError onMessage =>
      simp only [runAction, runFetch, named_values_agree agree]; rfl
  | abortFetch name => rfl
  | custom name package arguments events =>
      simp only [runAction, runCustom, named_values_agree agree]; rfl
  | setUrlParameter name data mode =>
      simp only [runAction, setUrlParameter, evaluate_for_agrees agree]; rfl
  | setUrlParameters parameters mode =>
      simp only [runAction, setUrlParameters, named_values_agree agree]; rfl
  | triggerWorkflow name parameters callbacks provider package =>
      simp only [runAction, run_workflow_eq, call_workflow_agrees agree]; rfl
  | triggerWorkflowCallback name data =>
      simp only [runAction, runCallback, evaluate_for_agrees agree]; rfl

end Trails

def PowersNest (setting : Setting) (powers : Powers) (nested : Nest → Powers) : Prop :=
  ∀ origin : World, origin.IsProper →
    Handover True setting Frame.whole (World.Restored origin) powers (nested origin.machine.trails)

section Runs

variable {setting : Setting} {powers : Powers} {nested : Nest → Powers}
  (nests : PowersNest setting powers nested)
  {origin : World} (proper : origin.IsProper) (context : ActionContext)
  (event : Value) (dispatch : Dispatch) (depth : Value)

include nests proper

theorem tracks_action_nested (action : Action) :
    Tracks True (World.Restored origin)
      (runAction setting powers context event dispatch depth action)
      (runActionNested setting nested origin.machine.trails context event
        dispatch depth action) := by
  refine tracks_within ?_
  split
  · rename_i name parameters callbacks provider package
    have agree : (workflowPowers setting nested origin.machine.trails context name).AgreeOn
        context.stackHost
        (nested origin.machine.trails) :=
      (nested origin.machine.trails).agree_on_trail context.stackHost
    change Tracks True (World.Restored origin)
      (runWorkflow setting powers context event dispatch depth name parameters
      callbacks provider package) _
    rw [run_workflow_eq, run_workflow_eq, call_workflow_agrees agree]
    have active : Frame.whole.active context.host := trivial
    refine tracks_call_workflow (nests origin proper).toBacking active
      fun target actions onTrail _ _ => ?_
    refine tracks_workflow_nested proper fun inside properInside same => ?_
    rw [← same, workflow_powers_below setting nested _ context name actions onTrail]
    apply tracks_trail_nested
      (fun nest =>
        (nested nest).executeBelow actions target event
          (.caller name callbacks context dispatch depth) depth)
      properInside
    intro body properBody
    exact tracks_execute_below (nests body properBody)
      (Frame.whole_permits _ _) (Frame.whole_sends _)
  · rename_i noWorkflow
    rw [run_action_on_trail]
    exact tracks_action (nests origin proper) (Frame.whole_permits _ _) (Frame.whole_sends _)
      fun name parameters callbacks provider package same =>
        absurd same (noWorkflow name parameters callbacks provider package)

theorem tracks_guarded_nested (index : Nat) (action : Action) :
    Tracks True (World.Restored origin)
      (runGuarded setting powers context event dispatch depth index action)
      (runGuardedNested setting nested origin.machine.trails context event dispatch
        depth index action) := by
  refine tracks_bind tracks_get fun before => tracks_bind ?_ fun succeeded => ?_
  · refine tracks_trail_nested
      (fun nest => containNested setting nested nest context action.kind index
      (runActionNested setting nested nest context event dispatch depth action)) proper
      fun inside properInside => ?_
    refine tracks_bind
      (tracks_attempt (tracks_action_nested nests properInside context event dispatch depth action))
      fun outcome => ?_
    refine tracks_bind ((nests inside properInside).heeds _) fun _ => ?_
    cases outcome with
    | ok => exact tracks_pure true
    | error failure =>
        exact tracks_bind (tracks_record_failure_nested context _ _ failure)
          fun _ => tracks_pure false
  · have active : Frame.whole.active context.host := trivial
    refine tracks_bind tracks_get fun after => ?_
    refine tracks_on_books (Frame.whole_upholds setting origin) active fun _ tolerant => ?_
    exact Machine.tracks_record tolerant _ _ _ _ _ _ _

theorem tracks_entries_nested (entries : List Entry) :
    Tracks True (World.Restored origin)
      (executeWith setting powers entries context event dispatch depth)
      (executeNested setting nested origin.machine.trails entries context
        event dispatch depth) := by
  have upholds := Frame.whole_upholds setting origin
  refine tracks_within
    (tracks_list_nested upholds context depth (tracks_for_each_indexed (fun entry _ index => ?_) 0))
  exact tracks_entry upholds fun action _ =>
    tracks_guarded_nested nests proper context event dispatch depth index action

end Runs

theorem powers_nest (setting : Setting) (fuel : Nat) :
    PowersNest setting (powers setting fuel) (nestedPowers setting fuel) := by
  induction fuel with
  | zero =>
      exact fun origin _ => ⟨nested_backing setting origin,
        ⟨fun _ _ => tracks_exhaust trivial _, fun _ _ => yields_exhaust⟩,
        fun _ _ _ _ _ _ _ => tracks_exhaust trivial _⟩
  | succ fuel ih =>
      intro origin proper
      have scripts := script_serves (ih origin proper)
      exact ⟨nested_backing setting origin,
        ⟨fun plan spares => tracks_within (scripts.tracks plan spares), scripts.yields⟩,
        fun entries context event dispatch depth _ _ =>
          tracks_entries_nested ih proper context event dispatch depth entries⟩

/-- The ways in which work begins from outside. -/
inductive Call where
  | evaluate (formula : Option Formula) (context : Context) (depth : Value)
  | execute (entries : List Entry) (context : ActionContext) (event : Value)
      (dispatch : Dispatch) (depth : Value)
  /-- A callback of a fetch, or the event trigger of a custom action. -/
  | resume (continuation : Nat) (event payload : Value)
  /-- A callback of a workflow. -/
  | callback (dispatch : Dispatch) (name : String) (content : Value)

namespace Call

/-- Actions have no answer. -/
def run (setting : Setting) (fuel : Nat) : Call → Run World Value
  | evaluate formula context depth =>
    onMachine (Evaluate.evaluate setting.environment setting.formulaFuel formula context depth)
  | execute entries context event dispatch depth => do
    Execute.execute setting fuel entries context event dispatch depth
    pure .null
  | resume continuation event payload => do
    Execute.resume (powers setting fuel) continuation event payload
    pure .null
  | callback dispatch name content => do
    dispatchCallback (powers setting fuel) name content dispatch
    pure .null

noncomputable def runNested (setting : Setting) (fuel : Nat) (nest : Nest) : Call → Run World Value
  | evaluate formula context depth =>
    onMachine (Evaluate.evaluateTop
      (Evaluate.nestedNode setting.environment setting.formulaFuel nest) context depth formula)
  | execute entries context event dispatch depth => do
    (nestedPowers setting fuel nest).execute entries context event dispatch depth
    pure .null
  | resume continuation event payload => do
    Execute.resume (nestedPowers setting fuel nest) continuation event payload
    pure .null
  | callback dispatch name content => do
    dispatchCallback (nestedPowers setting fuel nest) name content dispatch
    pure .null

theorem tracks_nested (setting : Setting) (fuel : Nat) (call : Call) {origin : World}
    (proper : origin.IsProper) :
    Tracks True (World.Restored origin) (call.run setting fuel)
      (call.runNested setting fuel origin.machine.trails) := by
  have handover := powers_nest setting fuel origin proper
  cases call with
  | evaluate formula context depth =>
      exact tracks_on_machine_nested
        (fun nest => Evaluate.evaluateTop
          (Evaluate.nestedNode setting.environment setting.formulaFuel nest) context depth formula)
        (Evaluate.evaluation_nests setting.environment setting.formulaFuel formula context depth)
  | execute entries context event dispatch depth =>
      refine tracks_bind
        (handover.executes entries context event dispatch depth ?_ (Frame.whole_sends _))
        fun _ => tracks_pure Value.null
      exact ⟨trivial, fun _ _ _ _ _ _ => trivial⟩
  | resume continuation event payload =>
      exact tracks_bind (tracks_resume handover continuation event payload)
        fun _ => tracks_pure Value.null
  | callback dispatch name content =>
      exact tracks_bind (tracks_dispatch_callback handover name content (Frame.whole_sends _))
        fun _ => tracks_pure Value.null

end Call

/-- An instance whose workflow fails twice: its formula asks for one that is not there, and it runs
itself although it may run only once at a time. -/
def rerunning : Setting :=
  { instances := fun _ =>
      { signal := 0
        registry := { formulas := Catalog.empty, actions := Catalog.empty }
        component := some { Component.ofFormulas "Loop" [("seek", {
            name := .text "seek", formula := some (.function "missing" [] .null)
            arguments := [], memoize := false, isExposed := false })] with
          workflows := [("again", {
            name := .text "again"
            actions := [.setVariable "found" (some (.apply "seek" [])),
              .triggerWorkflow "again" [] [] .null .null]
            parameters := [], callbacks := [], isExposed := false })] }
        package := .null, apis := [], scope := none, triggerEvent := none, setUrlParameters := none
        root := .null, overlay := .mapping [], logErrors := false }
    formulaFuel := 4 }

def rerunningWorld : World :=
  { cells := #[Signal.Cell.fresh (.mapping []) none]
    nextSubscription := 0
    host :=
      { machine := Machine.lone Limits.standard 5
        workflows := #[Cycle.Workflow.empty (.int 1)]
        continuations := #[], promises := #[], queue := [], hasLoop := false, scopes := [] } }

def rerun : Call :=
  .execute [.action (.triggerWorkflow "again" [] [] .null .null)]
    (rerunning.contextOf 0) .null .none (.int 0)

theorem rerunning_is_proper : rerunningWorld.IsProper := by
  intro running member
  obtain rfl := List.mem_singleton.mp (Array.mem_toList_iff.mpr member)
  exact Cycle.Workflow.empty_is_proper _

end Execute
end Interplay
