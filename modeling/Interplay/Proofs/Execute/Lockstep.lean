import Interplay.Proofs.Cycle.Workflow
import Interplay.Proofs.Evaluate.Lockstep
import Interplay.Proofs.Execute.Interleaving
import Interplay.Proofs.Signal.Lockstep

/-!
Actions in lockstep.

Two worlds are paired if their machines are, and everything else in them is the same, but for the
recursion ceilings of running workflows.  Actions then go in lockstep as evaluations do.  A workflow
that is refused in one of the worlds only is pardoned inside of an action: the boundary around the
action keeps the refusal in a sink.
-/

namespace Interplay

namespace Execute

open Run

/-- Callbacks that go to known instances only. -/
def Dispatch.IsWithin (known : Nat → Prop) : Dispatch → Prop
  | none => True
  | external _ => True
  | caller _ _ context outer _ => known context.host ∧ outer.IsWithin known

def Continuation.IsWithin (known : Nat → Prop) : Continuation → Prop
  | emitter _ _ context dispatch _ => known context.host ∧ dispatch.IsWithin known
  | body _ context dispatch _ => known context.host ∧ dispatch.IsWithin known

theorem Dispatch.is_within_all (dispatch : Dispatch) : dispatch.IsWithin fun _ => True := by
  induction dispatch with
  | none => trivial
  | external => trivial
  | caller _ _ _ _ _ ih => exact ⟨trivial, ih⟩

theorem Continuation.is_within_all (continuation : Continuation) :
    continuation.IsWithin fun _ => True := by
  cases continuation with
  | emitter _ _ _ dispatch => exact ⟨trivial, dispatch.is_within_all⟩
  | body _ _ dispatch => exact ⟨trivial, dispatch.is_within_all⟩

/-- The same setting, with other instances logging their errors. -/
def Setting.logging (flags : Nat → Bool) (setting : Setting) : Setting :=
  { setting with instances :=
    fun number => { setting.instances number with logErrors := flags number } }

structure Bond where
  machines : Pairing Machine Machine
  pardons : Failure → Prop
  /-- The instances that contexts may be of. -/
  known : Nat → Prop
  /-- The recursion ceiling of an instance in the second world. -/
  lift : Nat → Value → Value
  fits : Nat → Value → Prop

namespace Bond

variable (bond : Bond)

def lifted (number : Nat) (running : Cycle.Workflow String) : Cycle.Workflow String :=
  { running with maxRecursion := bond.lift number running.maxRecursion }

structure Twin (world counterpart : World) : Prop where
  machine : bond.machines.twin world.machine counterpart.machine
  cells : counterpart.cells = world.cells
  numbers : counterpart.nextSubscription = world.nextSubscription
  workflows : counterpart.stage.workflows = world.stage.workflows.mapIdx bond.lifted
  fits : ∀ (number : Nat) running, world.stage.workflows[number]? = some running →
    bond.fits number running.maxRecursion
  continuations : counterpart.stage.continuations = world.stage.continuations
  within : ∀ (number : Nat) continuation, world.stage.continuations[number]? = some continuation →
    continuation.IsWithin bond.known
  promises : counterpart.stage.promises = world.stage.promises
  queue : counterpart.stage.queue = world.stage.queue
  loop : counterpart.stage.hasLoop = world.stage.hasLoop
  scopes : counterpart.stage.scopes = world.stage.scopes

def worlds : Pairing World World where
  twin := bond.Twin
  excused world := bond.machines.excused world.machine
  lost := bond.machines.lost
  lenient _ _ twin := bond.machines.lenient _ _ twin.machine

end Bond

/-- Worlds in which actions, but for their timings, cannot fall out of step without an excuse. -/
structure Accord (bond : Bond) (setting : Setting) (flags : Nat → Bool) : Prop where
  formulas : Evaluate.Accord bond.machines bond.pardons bond.known setting.environment
    (setting.logging flags).environment
  owners : ∀ number, (setting.instances number).component.isSome = true → bond.known number
  enters : ∀ number (running : Cycle.Workflow String) key, bond.fits number running.maxRecursion →
    (bond.lifted number running).enter key = (running.enter key).map (bond.lifted number) ∨
      ∃ failure, running.enter key = .error failure ∧ bond.pardons failure

/-- Worlds in which the timings of actions are recorded in lockstep, too. -/
class Bond.TimesAlike (bond : Bond) : Prop where
  measured : ∀ number name success before earlier after later, bond.machines.twin before earlier →
    bond.machines.twin after later → InStep bond.machines
      (Machine.onMetrics number () (Metrics.record (.text name) (.text "action") (Machine.now after)
        (Measure.elapsed (Machine.now before) (Machine.now after)) success))
      (Machine.onMetrics number () (Metrics.record (.text name) (.text "action") (Machine.now later)
        (Measure.elapsed (Machine.now earlier) (Machine.now later)) success))

def Announcement.IsDispatch : Announcement → Prop
  | dispatched _ _ _ => True
  | _ => False

def Means.IsSilent (means : Means) : Prop :=
  ∀ announcement, means.heed announcement = pure ()

/-- Formulas and closures that go in lockstep.  Who listens for the ends of actions may do as they
like. -/
structure Attuned (bond : Bond) (first second : Means) : Prop where
  evaluates : ∀ inner : Context, bond.known inner.host → ∀ formula,
    InStep bond.worlds (first.evaluate inner formula) (second.evaluate inner formula)
  invokes : ∀ handle arguments,
    InStep bond.worlds (first.invoke handle arguments) (second.invoke handle arguments)
  heeds : ∀ announcement, ¬announcement.IsDispatch →
    InStep bond.worlds (first.heed announcement) (second.heed announcement)

/-- Nested lists and host code that go in lockstep, too. -/
structure Accompanied (bond : Bond) (first second : Powers) : Prop extends
    Attuned bond first.toMeans second.toMeans where
  executes : ∀ entries (context : ActionContext) event (dispatch : Dispatch) depth,
    bond.known context.host →
    dispatch.IsWithin bond.known →
    InStep bond.worlds (first.execute entries context event dispatch depth)
      (second.execute entries context event dispatch depth)
  calls : Signal.Accompanied bond.worlds first.call second.call

def Bond.over (machines : Pairing Machine Machine) : Bond where
  machines := machines
  pardons := Failure.none
  known _ := True
  lift _ ceiling := ceiling
  fits _ _ := True

theorem lifted_over (machines : Pairing Machine Machine)
    (workflows : Array (Cycle.Workflow String)) :
    workflows.mapIdx (Bond.over machines).lifted = workflows := by
  apply Array.ext_getElem?
  intro number
  rw [Array.getElem?_mapIdx]
  exact Option.map_id_apply

/-- Where machines go in lockstep without pardons, so do worlds that are the same otherwise. -/
theorem accord_over {machines : Pairing Machine Machine} {setting : Setting} {flags : Nat → Bool}
    (formulas : Evaluate.Accord machines Failure.none (fun _ => True) setting.environment
      (setting.logging flags).environment) : Accord (Bond.over machines) setting flags where
  formulas := formulas
  owners _ _ := trivial
  enters _ running key _ := by
    left
    change running.enter key = (running.enter key).map id
    cases running.enter key <;> rfl

theorem twin_over {machines : Pairing Machine Machine} {world : World}
    (twin : machines.twin world.machine world.machine) : (Bond.over machines).Twin world world where
  machine := twin
  cells := rfl
  numbers := rfl
  workflows := (lifted_over _ _).symm
  fits _ _ _ := trivial
  continuations := rfl
  within _ continuation _ := continuation.is_within_all
  promises := rfl
  queue := rfl
  loop := rfl
  scopes := rfl

/-- Worlds that are paired in one way are paired in another one with other machines in them. -/
theorem twin_over_set_machine {first second : Pairing Machine Machine} {world counterpart : World}
    (twin : (Bond.over first).Twin world counterpart) {machine another : Machine}
    (machines : second.twin machine another) :
    (Bond.over second).Twin (world.setMachine machine) (counterpart.setMachine another) where
  machine := machines
  cells := twin.cells
  numbers := twin.numbers
  workflows := twin.workflows
  fits := twin.fits
  continuations := twin.continuations
  within := twin.within
  promises := twin.promises
  queue := twin.queue
  loop := twin.loop
  scopes := twin.scopes

section Worlds

variable {bond : Bond}

theorem Bond.Twin.set_machine {world counterpart : World} (twin : bond.Twin world counterpart)
    {machine another : Machine} (machines : bond.machines.twin machine another) :
    bond.Twin (world.setMachine machine) (counterpart.setMachine another) where
  machine := machines
  cells := twin.cells
  numbers := twin.numbers
  workflows := twin.workflows
  fits := twin.fits
  continuations := twin.continuations
  within := twin.within
  promises := twin.promises
  queue := twin.queue
  loop := twin.loop
  scopes := twin.scopes

theorem Bond.Twin.counterpart_eq {world counterpart : World} (twin : bond.Twin world counterpart) :
    counterpart =
      { world with
        host :=
          { world.host with
            machine := counterpart.machine
            workflows := world.host.workflows.mapIdx bond.lifted } } := by
  obtain ⟨cells, numbers, machine, workflows, continuations, promises, queue, loop, scopes⟩ :=
    counterpart
  obtain ⟨_, rfl, rfl, rfl, _, rfl, _, rfl, rfl, rfl, rfl⟩ := twin
  rfl

theorem Bond.Twin.cell {world counterpart : World}
    (twin : bond.Twin world counterpart) (number : Nat) :
    counterpart.cell number = world.cell number := by
  unfold Signal.Store.cell
  rw [twin.cells]

theorem pairs_on_machine {α : Type} {pardons : Failure → Prop} {body other : Run Machine α}
    (pairs : Pairs bond.machines pardons body other) :
    Pairs bond.worlds pardons (onMachine body) (onMachine other) where
  follows _ _ twin :=
    (pairs.follows _ _ twin.machine).map_state id fun _ _ machines =>
      ⟨twin.set_machine machines, id⟩
  keeps _ _ twin shown :=
    (pairs.keeps _ _ twin.machine shown).map_state id fun _ _ machines =>
      ⟨twin.set_machine machines, id⟩

theorem stays_modify_machine {change another : Machine → Machine}
    (stays : bond.machines.Stays change another) :
    bond.worlds.Stays (World.modifyMachine change) (World.modifyMachine another) :=
  fun _ _ twin => ⟨twin.set_machine (stays _ _ twin.machine).1, (stays _ _ twin.machine).2⟩

theorem stays_enqueue (job : Job) : bond.worlds.Stays (World.enqueue job) (World.enqueue job) :=
  fun _ _ twin => ⟨{ twin with queue := congrArg (· ++ [job]) twin.queue }, id⟩

theorem stays_queue (rest : List Job) :
    bond.worlds.Stays (World.modifyStage fun stage => { stage with queue := rest })
      (World.modifyStage fun stage => { stage with queue := rest }) :=
  fun _ _ twin => ⟨{ twin with queue := rfl }, id⟩

theorem stays_promises (change : Array Promise → Array Promise) :
    bond.worlds.Stays
      (World.modifyStage fun stage => { stage with promises := change stage.promises })
      (World.modifyStage fun stage => { stage with promises := change stage.promises }) :=
  fun _ _ twin => ⟨{ twin with promises := congrArg change twin.promises }, id⟩

theorem stays_modify_workflows (number : Nat)
    {change another : Cycle.Workflow String → Cycle.Workflow String}
    (same : ∀ running, another (bond.lifted number running) = bond.lifted number (change running))
    (kept : ∀ running : Cycle.Workflow String, bond.fits number running.maxRecursion →
      bond.fits number (change running).maxRecursion) :
    bond.worlds.Stays (World.modifyWorkflows number change)
      (World.modifyWorkflows number another) := by
  intro world counterpart twin
  refine ⟨{ twin with workflows := ?_, fits := ?_ }, id⟩
  · change counterpart.stage.workflows.modify number another =
      (world.stage.workflows.modify number change).mapIdx bond.lifted
    rw [twin.workflows, map_idx_modify fun running _ => (same running).symm]
  · intro index running found
    change (world.host.workflows.modify number change)[index]? = some running at found
    rw [Array.getElem?_modify] at found
    by_cases own : number = index
    · rw [if_pos own] at found
      obtain ⟨before, present, rfl⟩ := Option.map_eq_some_iff.mp found
      rw [← own] at present ⊢
      exact kept before (twin.fits number before present)
    · rw [if_neg own] at found
      exact twin.fits index running found

variable {setting : Setting} {flags : Nat → Bool} (accord : Accord bond setting flags)

include accord

theorem Accord.signals : Signal.Accord bond.worlds where
  cells _ _ twin := twin.cells
  numbers _ _ twin := twin.numbers
  changed change _ _ twin := ⟨{ twin with cells := congrArg change twin.cells }, id⟩
  numbered _ _ _ twin := ⟨{ twin with numbers := rfl }, id⟩
  logged message := stays_modify_machine (accord.formulas.logged .error .signal message)

theorem pairs_log (level : LogLevel) (message : String) :
    InStep bond.worlds (Run.modify (World.log level message))
      (Run.modify (World.log level message)) :=
  .modify (stays_modify_machine (accord.formulas.logged level .execute message))

theorem pairs_warn (message : String) : InStep bond.worlds (warn message) (warn message) :=
  pairs_log accord .warning message

theorem pairs_on_trail {α : Type} {body other : Run World α} (number : Nat) (kind name : String)
    (pairs : InStep bond.worlds body other) :
    InStep bond.worlds (onTrail number kind name body) (onTrail number kind name other) :=
  pairs.between (stays_modify_machine (accord.formulas.trailed number (Trail.pushNamed kind name)))
    (stays_modify_machine (accord.formulas.trailed number Trail.pop))

/-- A workflow is entered in both worlds or refused in both, or its refusal is pardoned. -/
theorem workflow_agrees {world counterpart : World}
    (twin : bond.Twin world counterpart) (number : Nat) (key : String) :
    (∃ failure, (world.workflows number).enter key = .error failure ∧
      ((counterpart.workflows number).enter key = .error failure ∨ bond.pardons failure)) ∨
    ∃ entered, (world.workflows number).enter key = .ok entered ∧
      bond.fits number entered.maxRecursion ∧
      (counterpart.workflows number).enter key = .ok (bond.lifted number entered) := by
  have other : counterpart.workflows number =
      ((world.stage.workflows[number]?).map (bond.lifted number)).getD
      (Cycle.Workflow.empty (.int 0)) := by
    change (counterpart.stage.workflows[number]?).getD _ = _
    rw [twin.workflows, Array.getElem?_mapIdx]
  have own : world.workflows number =
      (world.stage.workflows[number]?).getD (Cycle.Workflow.empty (.int 0)) := rfl
  rw [other, own]
  cases present : world.stage.workflows[number]? with
  | none => exact .inl ⟨_, rfl, .inl rfl⟩
  | some running =>
      have fits := twin.fits number running present
      change (∃ failure, running.enter key = .error failure ∧
        ((bond.lifted number running).enter key = .error failure ∨ bond.pardons failure)) ∨
        ∃ entered, running.enter key = .ok entered ∧ bond.fits number entered.maxRecursion ∧
          (bond.lifted number running).enter key = .ok (bond.lifted number entered)
      rcases accord.enters number running key fits with agreed | ⟨failure, refused, pardoned⟩
      · rw [agreed]
        cases entry : running.enter key with
        | error failure => exact .inl ⟨failure, rfl, .inl rfl⟩
        | ok entered =>
            refine .inr ⟨entered, rfl, ?_, rfl⟩
            rw [Cycle.Workflow.entered_of_enter entry]
            exact fits
      · exact .inl ⟨failure, refused, .inr pardoned⟩

theorem pairs_under_workflow {α : Type} {body other : Run World α} (number : Nat) (key : String)
    (pairs : InStep bond.worlds body other) :
    Pairs bond.worlds bond.pardons (underWorkflow number key body)
      (underWorkflow number key other) := by
  have leaves : bond.worlds.Stays (World.modifyWorkflows number (Cycle.Workflow.leave key))
      (World.modifyWorkflows number (Cycle.Workflow.leave key)) :=
    stays_modify_workflows number (fun _ => rfl) fun _ fits => fits
  have inside (entered : Cycle.Workflow String) (fits : bond.fits number entered.maxRecursion) :
      Pairs bond.worlds bond.pardons
        (fun world => Run.ensuring (World.modifyWorkflows number (Cycle.Workflow.leave key)) body
          (world.modifyWorkflows number fun _ => entered))
        (fun world => Run.ensuring (World.modifyWorkflows number (Cycle.Workflow.leave key)) other
          (world.modifyWorkflows number fun _ => bond.lifted number entered)) :=
    pairs.pardoned.between (stays_modify_workflows number (fun _ => rfl) fun _ _ => fits) leaves
  constructor
  case follows =>
    intro world counterpart twin
    unfold underWorkflow
    rcases workflow_agrees accord twin number key with ⟨failure, refused, others⟩ |
      ⟨entered, entry, fits, otherEntry⟩
    · rw [refused]
      rcases others with refusedToo | pardoned
      · rw [refusedToo]
        exact .inl ⟨rfl, twin⟩
      · exact .inr (.inr ⟨pardoned, counterpart, twin⟩)
    · rw [entry, otherEntry]
      exact (inside entered fits).follows world counterpart twin
  case keeps =>
    intro world counterpart twin shown
    unfold underWorkflow
    rcases workflow_agrees accord twin number key with ⟨failure, refused, others⟩ |
      ⟨entered, entry, fits, otherEntry⟩
    · rw [refused]
      exact ⟨shown, counterpart, twin⟩
    · rw [entry]
      exact (inside entered fits).keeps world counterpart twin shown

end Worlds

section Formulas

variable {bond : Bond} {setting : Setting} {flags : Nat → Bool} (accord : Accord bond setting flags)
  {first second : Powers} {context : ActionContext} {event : Value}

include accord

theorem pairs_evaluate_in {inner : Context} (home : bond.known inner.host)
    (formula : Option Formula) :
    InStep bond.worlds (evaluateIn setting inner formula)
      (evaluateIn (setting.logging flags) inner formula) :=
  pairs_on_machine (Evaluate.pairs_evaluate_top accord.formulas
    (Evaluate.accompanied_nodes accord.formulas setting.formulaFuel) home _ formula)

theorem pairs_formula_context (context : ActionContext) (event : Value) :
    InStep bond.worlds (formulaContext setting context event)
      (formulaContext (setting.logging flags) context event) := by
  refine .get_bind fun world counterpart twin => ?_
  have same : dataRoot (setting.logging flags) context event counterpart =
      dataRoot setting context event world := by
    unfold dataRoot
    rw [twin.cell]
    rfl
  rw [same]
  refine (Pairs.of_except _).bind fun data => pairs_on_machine ?_
  have stays := accord.formulas.restacked fun before => before.push (Cycle.Stack.empty .formula)
  refine .step stays fun machine another machines => ?_
  have sizes := congrArg Array.size (accord.formulas.cycles machine another machines)
  unfold Machine.newStack
  rw [sizes]
  rfl

theorem pairs_in_context {α : Type} (home : bond.known context.host)
    {next following : Context → Run World α}
    (continues : ∀ inner : Context, bond.known inner.host →
      InStep bond.worlds (next inner) (following inner)) :
    InStep bond.worlds (formulaContext setting context event >>= next)
      (formulaContext (setting.logging flags) context event >>= following) :=
  (pairs_formula_context accord context event).bind_of_yields (yields_formula_context context event)
    fun inner same => continues inner (same ▸ home)

theorem pairs_evaluate_for (accompanied : Accompanied bond first second)
    (home : bond.known context.host) (formula : Option Formula) :
    InStep bond.worlds (evaluateFor setting first context event formula)
      (evaluateFor (setting.logging flags) second context event formula) :=
  pairs_in_context accord home fun _ inside => accompanied.evaluates _ inside formula

omit accord in
theorem pairs_collect_values {step other : Option Formula → Run World Value}
    (pairs : ∀ formula, InStep bond.worlds (step formula) (other formula))
    (named : List NamedFormula) (entries : Entries) :
    InStep bond.worlds (collectValues step named entries) (collectValues other named entries) := by
  induction named generalizing entries with
  | nil => exact .pure entries
  | cons item rest ih =>
      unfold collectValues
      exact .choose (fun _ => ih entries) fun _ => (pairs item.formula).bind fun content => ih _

theorem pairs_named_values (accompanied : Accompanied bond first second)
    (home : bond.known context.host) (named : List NamedFormula) :
    InStep bond.worlds (namedValues setting first context event named)
      (namedValues (setting.logging flags) second context event named) :=
  pairs_in_context accord home fun _ inside => pairs_collect_values
    (accompanied.evaluates _ inside) named []

omit accord in
theorem pairs_select_case {condition other : Option Formula → Run World Value}
    (pairs : ∀ formula, InStep bond.worlds (condition formula) (other formula))
    (fallback : Option (List Action)) (cases : List ActionCase) :
    InStep bond.worlds (selectCase condition fallback cases) (selectCase other fallback cases) := by
  induction cases with
  | nil => exact .pure fallback
  | cons branch rest ih =>
      exact (pairs branch.condition).bind fun content => .choose
        (fun _ => .pure (some branch.actions)) fun _ => ih

end Formulas

section Actions

variable {bond : Bond} {setting : Setting} {flags : Nat → Bool} (accord : Accord bond setting flags)
  {first second : Powers} (accompanied : Accompanied bond first second)
  {context : ActionContext} {event : Value} {dispatch : Dispatch} {depth : Value}

include accompanied

theorem pairs_perform (plan : Plan) : InStep bond.worlds (first.perform plan)
    (second.perform plan) :=
  (accompanied.calls plan).bind fun _ => .pure ()

theorem pairs_execute_below (home : bond.known context.host) (sent : dispatch.IsWithin bond.known)
    (actions : List Action) :
    InStep bond.worlds (first.executeBelow actions context event dispatch depth)
      (second.executeBelow actions context event dispatch depth) :=
  (Pairs.of_except _).bind fun below => accompanied.executes _ _ _ _ below home sent

include accord

theorem pairs_set_variable (home : bond.known context.host) (name : String)
    (data : Option Formula) :
    InStep bond.worlds (setVariable setting first context event name data)
      (setVariable (setting.logging flags) second context event name data) := by
  refine (pairs_evaluate_for accord accompanied home data).bind fun content => .get_bind
    fun world counterpart twin => ?_
  rw [twin.cell]
  refine (Pairs.of_except _).bind fun changed => ?_
  refine (Signal.pairs_write accord.signals accompanied.calls _ changed).bind fun _ => .modify ?_
  exact stays_modify_machine
    (accord.formulas.memorized context.host fun memo => memo.map fun _ => Memo.empty)

theorem pairs_trigger_event (home : bond.known context.host) (name : String)
    (data : Option Formula) :
    InStep bond.worlds (triggerEvent setting first context event name data)
      (triggerEvent (setting.logging flags) second context event name data) := by
  have same : ((setting.logging flags).instances context.host).triggerEvent =
      (setting.instances context.host).triggerEvent := rfl
  unfold triggerEvent
  rw [same]
  cases (setting.instances context.host).triggerEvent with
  | none => exact pairs_warn accord _
  | some run =>
      exact (pairs_evaluate_for accord accompanied home data).bind fun content =>
        pairs_perform accompanied _

theorem pairs_switch (home : bond.known context.host) (sent : dispatch.IsWithin bond.known)
    (cases : List ActionCase) (fallback : Option (List Action)) :
    InStep bond.worlds (runSwitch setting first context event dispatch depth cases fallback)
      (runSwitch (setting.logging flags) second context event dispatch depth cases fallback) := by
  refine pairs_in_context accord home fun inner inside => ?_
  refine (pairs_select_case (accompanied.evaluates inner inside) fallback cases).bind
    fun selected => ?_
  cases selected with
  | none => exact .pure ()
  | some actions => exact pairs_execute_below accompanied home sent actions

theorem pairs_set_url_parameter (home : bond.known context.host)
    (name : String) (data : Option Formula) (mode : Value) :
    InStep bond.worlds (setUrlParameter setting first context event name data mode)
      (setUrlParameter (setting.logging flags) second context event name data mode) := by
  have same : ((setting.logging flags).instances context.host).setUrlParameters =
      (setting.instances context.host).setUrlParameters := rfl
  unfold setUrlParameter
  rw [same]
  cases (setting.instances context.host).setUrlParameters with
  | none => exact pairs_warn accord _
  | some run =>
      exact (pairs_evaluate_for accord accompanied home data).bind fun content =>
        pairs_perform accompanied _

theorem pairs_set_url_parameters (home : bond.known context.host)
    (parameters : List NamedFormula) (mode : Value) :
    InStep bond.worlds (setUrlParameters setting first context event parameters mode)
      (setUrlParameters (setting.logging flags) second context event parameters mode) := by
  have same : ((setting.logging flags).instances context.host).setUrlParameters =
      (setting.instances context.host).setUrlParameters := rfl
  unfold setUrlParameters
  rw [same]
  cases (setting.instances context.host).setUrlParameters with
  | none => exact pairs_warn accord _
  | some run =>
      exact (pairs_named_values accord accompanied home parameters).bind fun entries =>
        pairs_perform accompanied _

omit accord accompanied in
theorem pairs_new_continuation {continuation : Continuation}
    (inside : continuation.IsWithin bond.known) :
    InStep bond.worlds (newContinuation continuation) (newContinuation continuation) := by
  have stays : bond.worlds.Stays (fun world => (world.newContinuation continuation).2)
      fun world => (world.newContinuation continuation).2 := by
    intro world counterpart twin
    refine ⟨{ twin with continuations := ?_, within := fun number kept found => ?_ }, id⟩
    · exact congrArg (fun continuations => continuations.push continuation) twin.continuations
    · change (world.host.continuations.push continuation)[number]? = some kept at found
      rw [Array.getElem?_push] at found
      split at found
      · cases found
        exact inside
      · exact twin.within number kept found
  exact .step stays fun world counterpart twin => congrArg Array.size twin.continuations.symm

omit accompanied in
theorem pairs_spawn (plan : Plan) (awaiting : Option ActionContext) :
    InStep bond.worlds (spawn plan awaiting) (spawn plan awaiting) := by
  refine .get_bind fun world counterpart twin => ?_
  rw [twin.loop]
  exact .choose (fun _ => .modify (stays_enqueue _)) fun _ => pairs_warn accord _

theorem pairs_fetch (home : bond.known context.host)
    (sent : dispatch.IsWithin bond.known) (name : String)
    (inputs : List NamedFormula) (onSuccess onError onMessage : List Action) :
    InStep bond.worlds
      (runFetch setting first context event dispatch depth name inputs onSuccess onError onMessage)
      (runFetch (setting.logging flags) second context event dispatch depth name
        inputs onSuccess onError onMessage) := by
  have same : ((setting.logging flags).instances context.host).apis =
      (setting.instances context.host).apis := rfl
  have kept (actions : List Action) := pairs_new_continuation
    (show (Continuation.body actions context dispatch depth).IsWithin bond.known from ⟨home, sent⟩)
  unfold runFetch
  rw [same]
  cases Keyed.find? name (setting.instances context.host).apis with
  | none => exact pairs_warn accord _
  | some api =>
      refine (kept onSuccess).bind fun success => (kept onError).bind fun error => ?_
      refine (kept onMessage).bind fun message =>
        (pairs_named_values accord accompanied home inputs).bind fun entries => ?_
      refine (accompanied.calls _).bind fun answer => ?_
      cases answer with
      | deferred plan => exact pairs_spawn accord plan none
      | value content => exact .pure ()
      | cleanup plan => exact .pure ()
      | promise number => exact .pure ()

omit accord in
theorem pairs_abort (name : String) :
    InStep bond.worlds (abortFetch setting first context name)
      (abortFetch (setting.logging flags) second context name) := by
  have same : ((setting.logging flags).instances context.host).apis =
      (setting.instances context.host).apis := rfl
  unfold abortFetch
  rw [same]
  cases Keyed.find? name (setting.instances context.host).apis with
  | none => exact .pure ()
  | some api =>
      dsimp only
      cases api.cancel with
      | none => exact .pure ()
      | some plan => exact pairs_perform accompanied plan

omit accompanied in
theorem pairs_find_workflow (name : String) (provider package : Value) :
    InStep bond.worlds (findWorkflow setting context name provider package)
      (findWorkflow (setting.logging flags) context name provider package) := by
  have nothing (message : String) : InStep bond.worlds
      (warn message >>= fun _ => pure (none : Option (ActionContext × Workflow)))
      (warn message >>= fun _ => pure (none : Option (ActionContext × Workflow))) :=
    (pairs_warn accord message).bind fun _ => .pure none
  have own (number : Nat) : ((setting.logging flags).instances number).component =
      (setting.instances number).component := rfl
  unfold findWorkflow
  dsimp only
  refine .choose (fun _ => ?_) fun _ => ?_
  · refine .get_bind fun world counterpart twin => ?_
    have provided : providedHost (setting.logging flags) context
        (providerKey provider package) counterpart =
        providedHost setting context (providerKey provider package) world := by
      unfold providedHost
      rw [twin.scopes]
      rfl
    rw [provided]
    refine (Pairs.of_except _).bind fun found => ?_
    cases found with
    | none => exact nothing _
    | some number =>
        dsimp only
        rw [own]
        cases (setting.instances number).component.bind fun component =>
          Keyed.find? name component.workflows with
        | none => exact nothing _
        | some workflow => exact .choose (fun _ => .pure _) fun _ => nothing _
  · rw [own]
    cases (setting.instances context.host).component.bind fun component =>
      Keyed.find? name component.workflows with
    | none => exact nothing _
    | some workflow => exact .pure _

theorem pairs_workflow (home : bond.known context.host)
    (sent : dispatch.IsWithin bond.known) (name : String)
    (parameters : List NamedFormula) (callbacks : List ActionBody) (provider package : Value) :
    Pairs bond.worlds bond.pardons
      (runWorkflow setting first context event dispatch depth name parameters
        callbacks provider package)
      (runWorkflow (setting.logging flags) second context event dispatch depth name
        parameters callbacks provider package) := by
  refine (pairs_find_workflow accord name provider package).pardoned.bind_of_yields
    (yields_workflow (Frame.whole_governs setting) trivial name provider package)
    fun found offered => ?_
  cases found with
  | none => exact .pure ()
  | some found =>
      obtain ⟨owner, workflow⟩ := found
      have owned : bond.known owner.host := by
        have offers := (offered owner workflow rfl).2
        unfold Setting.Offers at offers
        refine accord.owners owner.host ?_
        cases present : (setting.instances owner.host).component with
        | none =>
            rw [present] at offers
            cases offers
        | some component => rfl
      refine (pairs_named_values accord accompanied home parameters).pardoned.bind fun entries => ?_
      refine (Pairs.of_except _).bind fun overlay => ?_
      refine pairs_under_workflow accord _ _ (pairs_on_trail accord _ _ _ ?_)
      have answered : (Dispatch.caller name callbacks context dispatch depth).IsWithin bond.known :=
        ⟨home, sent⟩
      refine (Pairs.of_except _).bind fun below => accompanied.executes _ _ _ _ below ?_ answered
      exact owned

theorem pairs_dispatch_callback (sent : dispatch.IsWithin bond.known)
    (name : String) (content : Value) :
    InStep bond.worlds (dispatchCallback first name content dispatch)
      (dispatchCallback second name content dispatch) := by
  cases dispatch with
  | none => exact .pure ()
  | external run => exact pairs_perform accompanied _
  | caller workflow callbacks context outer depth =>
      dsimp only [dispatchCallback]
      cases ActionBody.find? name callbacks with
      | none => exact pairs_warn accord _
      | some actions => exact pairs_execute_below accompanied sent.1 sent.2 actions

theorem pairs_callback (home : bond.known context.host)
    (sent : dispatch.IsWithin bond.known) (name : String) (data : Option Formula) :
    InStep bond.worlds (runCallback setting first context event dispatch name data)
      (runCallback (setting.logging flags) second context event dispatch name data) := by
  have evaluated : InStep bond.worlds
      (evaluateFor setting first context event data >>= fun content =>
        dispatchCallback first name content dispatch)
      (evaluateFor (setting.logging flags) second context event data >>= fun content =>
        dispatchCallback second name content dispatch) :=
    (pairs_evaluate_for accord accompanied home data).bind fun content =>
      pairs_dispatch_callback accord accompanied sent name content
  cases dispatch with
  | none => exact pairs_warn accord _
  | external run => exact evaluated
  | caller workflow callbacks context outer depth => exact evaluated

theorem pairs_on_destroy (context : ActionContext) (cleanup : Plan) :
    InStep bond.worlds (onDestroy setting first context cleanup)
      (onDestroy (setting.logging flags) second context cleanup) := by
  refine .get_bind fun world counterpart twin => ?_
  dsimp only
  rw [twin.cell]
  refine .choose (fun _ => pairs_perform accompanied cleanup) fun _ => ?_
  exact (Signal.pairs_attach accord.signals accompanied.calls _ _ _).bind fun _ => .pure ()

theorem pairs_inform (number : Nat) (settlement : Settlement) (context : ActionContext) :
    InStep bond.worlds (inform setting first number settlement context)
      (inform (setting.logging flags) second number settlement context) := by
  refine (accompanied.heeds _ id).bind fun _ => ?_
  unfold deliver
  cases settlement.result?.bind callable? with
  | some plan =>
      exact (pairs_on_destroy accord accompanied context plan).attempt.bind fun _ => .pure ()
  | none => exact .pure ()

theorem pairs_await (context : ActionContext) (number : Nat) :
    InStep bond.worlds (awaitPromise setting first context number)
      (awaitPromise (setting.logging flags) second context number) := by
  refine .get_bind fun world counterpart twin => ?_
  rw [twin.promises]
  cases (world.stage.promises[number]?).bind Promise.settlement with
  | some settlement => exact pairs_inform accord accompanied number settlement context
  | none =>
      exact .modify (stays_promises fun promises => promises.modify number fun promise =>
        { promise with waiting := promise.waiting ++ [context] })

theorem pairs_register (context : ActionContext) (answer : Signal.Answer Effect) :
    InStep bond.worlds (registerAnswer setting first context answer)
      (registerAnswer (setting.logging flags) second context answer) := by
  unfold registerAnswer
  cases callable? answer with
  | some plan => exact pairs_on_destroy accord accompanied context plan
  | none =>
      cases answer with
      | promise number => exact pairs_await accord accompanied context number
      | deferred plan => exact pairs_spawn accord plan (some context)
      | value content => exact .pure ()
      | cleanup plan => exact .pure ()

theorem pairs_custom (home : bond.known context.host)
    (sent : dispatch.IsWithin bond.known) (name : String)
    (declared : Value) (arguments : List NamedFormula) (events : List ActionBody) :
    InStep bond.worlds
      (runCustom setting first context event dispatch depth name declared arguments events)
      (runCustom (setting.logging flags) second context event dispatch depth name
        declared arguments events) := by
  refine (Pairs.of_except _).bind fun resolution => ?_
  cases resolution with
  | none => exact pairs_warn accord _
  | some resolution =>
      have resumes : (Continuation.emitter name events context dispatch depth).IsWithin
          bond.known := ⟨home, sent⟩
      refine (pairs_new_continuation resumes).bind fun trigger => ?_
      refine (pairs_named_values accord accompanied home arguments).bind fun entries => ?_
      exact (accompanied.calls _).bind fun answer => (accompanied.heeds _ id).bind fun _ =>
        pairs_register accord accompanied context answer

theorem pairs_action (home : bond.known context.host)
    (sent : dispatch.IsWithin bond.known) (action : Action) :
    Pairs bond.worlds bond.pardons (runAction setting first context event dispatch depth action)
      (runAction (setting.logging flags) second context event dispatch depth action) := by
  cases action with
  | setVariable name data => exact (pairs_set_variable accord accompanied home name data).pardoned
  | triggerEvent name data => exact (pairs_trigger_event accord accompanied home name data).pardoned
  | switch cases fallback data =>
      exact (pairs_switch accord accompanied home sent cases fallback).pardoned
  | fetch name inputs onSuccess onError onMessage =>
      exact (pairs_fetch accord accompanied home sent name inputs onSuccess
        onError onMessage).pardoned
  | abortFetch name => exact (pairs_abort accompanied name).pardoned
  | custom name package arguments events =>
      exact (pairs_custom accord accompanied home sent name package arguments events).pardoned
  | setUrlParameter name data mode =>
      exact (pairs_set_url_parameter accord accompanied home name data mode).pardoned
  | setUrlParameters parameters mode =>
      exact (pairs_set_url_parameters accord accompanied home parameters mode).pardoned
  | triggerWorkflow name parameters callbacks provider package =>
      exact pairs_workflow accord accompanied home sent name parameters callbacks provider package
  | triggerWorkflowCallback name data =>
      exact (pairs_callback accord accompanied home sent name data).pardoned

end Actions

section Lists

variable {bond : Bond} {setting : Setting} {flags : Nat → Bool} (accord : Accord bond setting flags)

include accord

theorem pairs_add_fault {context : ActionContext} (home : bond.known context.host) (fault : Fault) :
    InStep bond.worlds (onMachine (Machine.addFault context.host fault))
      (onMachine (Machine.addFault context.host fault)) :=
  pairs_on_machine (accord.formulas.added _ fault home)

theorem add_fault_excused {context : ActionContext} (home : bond.known context.host) {fault : Fault}
    (pardoned : bond.pardons (.fault fault)) (path : List TrailStep) {world counterpart : World}
    (twin : bond.Twin world counterpart) :
    (onMachine (Machine.addFault context.host (fault.stamp path)) world).Excused bond.worlds := by
  obtain ⟨given, same, stamped⟩ := accord.formulas.faults _ pardoned
  cases same
  have kept := accord.formulas.cut context.host _ world.machine counterpart.machine home
      (stamped path) twin.machine
  exact kept.map_state id fun _ _ machines => ⟨twin.set_machine machines, id⟩

theorem pairs_record_failure {context : ActionContext} (home : bond.known context.host)
    (kind : String) (index : Nat) (failure : Failure) :
    InStep bond.worlds (recordFailure setting context kind index failure)
      (recordFailure (setting.logging flags) context kind index failure) := by
  refine .get_bind fun world counterpart twin => ?_
  have same : counterpart.machine.trailSteps context.stackHost =
      world.machine.trailSteps context.stackHost :=
    accord.formulas.steps twin.machine context.stackHost
  dsimp only
  rw [same]
  cases failure with
  | fault fault => exact (pairs_warn accord _).bind fun _ => pairs_add_fault accord home _
  | mishap mishap => exact (pairs_log accord _ _).bind fun _ => pairs_add_fault accord home _

theorem record_failure_excused {context : ActionContext}
    (home : bond.known context.host) (kind : String)
    (index : Nat) {failure : Failure} (pardoned : bond.pardons failure) {world counterpart : World}
    (twin : bond.Twin world counterpart) :
    (recordFailure setting context kind index failure world).Excused bond.worlds := by
  obtain ⟨fault, rfl, _⟩ := accord.formulas.faults failure pardoned
  have warned :=
    (stays_modify_machine (accord.formulas.logged .warning .execute fault.text)
      world counterpart twin).1
  exact add_fault_excused accord home pardoned _ warned

omit accord in
/-- A list at depth zero closes a timing, whether there is one or not. -/
theorem run_list_eq (context : ActionContext) (depth : Value) (body : Run World Unit) :
    runList context depth body = Run.get >>= fun world =>
      match world.machine.limits.check "action" "max_depth" depth with
      | .error (.fault fault) => do
        Run.modify (World.log .error fault.text)
        onMachine (Machine.addFault context.host
          (fault.stamp (world.machine.trailSteps context.stackHost)))
      | .error failure => Run.raise failure
      | .ok () =>
        if depth.same (.int 0) then
          Run.followedBy (onMachine
            (Machine.closing context.host "execute" "action" "max_execution_time" world.machine))
            body
        else body := by
  funext world
  change (match world.machine.limits.check "action" "max_depth" depth with
    | .error (.fault fault) => _
    | .error failure => Run.raise failure
    | .ok () => if depth.same (.int 0) = true ∧ world.machine.hasMetrics context.host = true then
        timed context.host (.text "execute") (.text "action")
          (world.machine.limits.ceiling "action" "max_execution_time") body
      else body) world = (match world.machine.limits.check "action" "max_depth" depth with
    | .error (.fault fault) => _
    | .error failure => Run.raise failure
    | .ok () => if depth.same (.int 0) = true then
        Run.followedBy (onMachine
          (Machine.closing context.host "execute" "action" "max_execution_time" world.machine)) body
      else body) world
  cases world.machine.limits.check "action" "max_depth" depth with
  | error failure => cases failure <;> rfl
  | ok =>
      unfold Machine.closing
      by_cases whole : depth.same (.int 0) = true
      · by_cases measured : world.machine.hasMetrics context.host = true
        · dsimp only
          rw [if_pos ⟨whole, measured⟩, if_pos whole, if_pos measured]
          rfl
        · have nothing : onMachine (pure ()) = (pure () : Run World Unit) := rfl
          dsimp only
          rw [if_neg fun both => measured both.2, if_pos whole, if_neg measured,
            nothing, followed_by_pure]
      · dsimp only
        rw [if_neg fun both => whole both.1, if_neg whole]

theorem pairs_run_list {context : ActionContext} (home : bond.known context.host) (depth : Value)
    {body other : Run World Unit} (pairs : InStep bond.worlds body other) :
    InStep bond.worlds (runList context depth body) (runList context depth other) := by
  rw [run_list_eq, run_list_eq]
  refine .get_bind fun world counterpart twin => ?_
  have same : counterpart.machine.trailSteps context.stackHost =
      world.machine.trailSteps context.stackHost :=
    accord.formulas.steps twin.machine context.stackHost
  rw [same]
  rcases accord.formulas.checks _ _ twin.machine "action" depth with agreed |
    ⟨fault, refused, pardoned⟩
  · rw [agreed]
    cases world.machine.limits.check "action" "max_depth" depth with
    | error failure =>
        cases failure with
        | fault fault => exact (pairs_log accord _ _).bind fun _ => pairs_add_fault accord home _
        | mishap mishap => exact .raise _
    | ok =>
        refine .choose (fun _ => ?_) fun _ => pairs
        have closes :=
          accord.formulas.closed context.host "execute" "action"
            "max_execution_time" _ _ (by decide)
          (fun _ => rfl) twin.machine
        exact .followed_by (pairs_on_machine closes) pairs
  · rw [refused]
    refine .of_excused fun state beside paired => ?_
    have logged :=
      (stays_modify_machine
        (accord.formulas.logged .error .execute fault.text) state beside paired).1
    exact add_fault_excused accord home pardoned _ logged

variable {first second : Powers} (accompanied : Accompanied bond first second)
  {context : ActionContext} {event : Value} {dispatch : Dispatch} {depth : Value}

include accompanied

/-- The boundary around an action keeps what fails inside, so a pardon for it is redeemed there.
The action may stand at another position of the second list, as long as its failures are recorded in
lockstep. -/
theorem pairs_guarded_at [bond.TimesAlike] (silent : first.IsSilent) (mute : second.IsSilent)
    (home : bond.known context.host) (sent : dispatch.IsWithin bond.known)
    {index other : Nat} {action : Action}
    (records : ∀ failure, InStep bond.worlds
      (recordFailure setting context action.kind index failure)
      (recordFailure (setting.logging flags) context action.kind other failure)) :
    InStep bond.worlds (runGuarded setting first context event dispatch depth index action)
      (runGuarded (setting.logging flags) second context event dispatch depth other action) := by
  unfold runGuarded behindBoundary contain keepOutcome
  simp only [silent _, mute _]
  refine .get_bind fun before earlier twin => ?_
  refine Pairs.bind (pairs_on_trail accord _ _ _ ?_) fun succeeded => ?_
  · refine (pairs_action accord accompanied home sent action).recover (fun outcome => ?_)
      fun failure pardoned => ?_
    · cases outcome with
      | ok => exact .pure true
      | error failure => exact (records failure).bind fun _ => .pure false
    · intro world counterpart paired
      change Result.Excused bond.worlds
        ((recordFailure setting context action.kind index failure >>=
          fun _ => pure false : Run World Bool) world)
      exact Pairs.excused_bind (record_failure_excused accord home _ _ pardoned paired) fun _ =>
        (.pure false : InStep bond.worlds (pure false) (pure false))
  · refine .get_bind fun after later paired => pairs_on_machine ?_
    exact Bond.TimesAlike.measured _ _ _ _ _ _ _ twin.machine paired.machine

theorem pairs_guarded [bond.TimesAlike] (silent : first.IsSilent) (mute : second.IsSilent)
    (home : bond.known context.host) (sent : dispatch.IsWithin bond.known)
    (index : Nat) (action : Action) :
    InStep bond.worlds (runGuarded setting first context event dispatch depth index action)
      (runGuarded (setting.logging flags) second context event dispatch depth index action) :=
  pairs_guarded_at accord accompanied silent mute home sent
    (pairs_record_failure accord home action.kind index)

omit accompanied in
/-- An entry goes in lockstep if the action that it stands for does. -/
theorem pairs_entry_with {run other : Action → Run World Unit}
    (pairs : ∀ action, InStep bond.worlds (run action) (other action)) (entry : Entry) :
    InStep bond.worlds (runEntryWith run entry) (runEntryWith other entry) := by
  cases entry with
  | action action => exact pairs action
  | persisted source =>
      refine (Pairs.of_except _).bind fun found => ?_
      cases found with
      | none => exact pairs_warn accord _
      | some action => exact pairs action

theorem pairs_entries [bond.TimesAlike] (silent : first.IsSilent) (mute : second.IsSilent)
    (home : bond.known context.host) (sent : dispatch.IsWithin bond.known) (entries : List Entry) :
    InStep bond.worlds (executeWith setting first entries context event dispatch depth)
      (executeWith (setting.logging flags) second entries context event dispatch depth) :=
  pairs_run_list accord home depth
    (.for_each_indexed entries 0 fun index =>
      pairs_entry_with accord (pairs_guarded accord accompanied silent mute home sent index))

theorem pairs_resume (number : Nat) (event payload : Value) :
    InStep bond.worlds (resume first number event payload)
      (resume second number event payload) := by
  refine .get_bind fun world counterpart twin => ?_
  rw [twin.continuations]
  cases found : world.stage.continuations[number]? with
  | none => exact .pure ()
  | some continuation =>
      have inside := twin.within number continuation found
      cases continuation with
      | body actions context dispatch depth =>
          exact pairs_execute_below accompanied inside.1 inside.2 actions
      | emitter action events context dispatch depth =>
          refine (Pairs.of_except _).bind fun key => ?_
          dsimp only
          split
          · exact pairs_warn accord _
          · exact pairs_execute_below accompanied inside.1 inside.2 _

omit accompanied in
theorem pairs_note (note : Signal.Note) :
    InStep bond.worlds (performEffect first (.note note))
      (performEffect second (.note note)) := by
  have shared (change : List Value × Keyed NoteKey Value × Nat →
      List Value × Keyed NoteKey Value × Nat) :=
    stays_modify_machine (accord.formulas.noted change)
  cases note with
  | record entry =>
      exact .step (shared fun entries => (entries.1 ++ [entry], entries.2)) fun _ _ _ => rfl
  | remember key note =>
      exact .step (shared fun entries =>
        (entries.1, Keyed.insert key note entries.2.1, entries.2.2)) fun _ _ _ => rfl
  | lookUp key =>
      refine .step (shared id) fun world counterpart twin => ?_
      have same : counterpart.machine.journal.notes = world.machine.journal.notes :=
        congrArg (fun entries => entries.2.1) (accord.formulas.entries _ _ twin.machine)
      change world.machine.journal.lookUp key = counterpart.machine.journal.lookUp key
      unfold Journal.lookUp
      rw [same]

theorem pairs_effect (effect : Effect) :
    InStep bond.worlds (performEffect first effect)
      (performEffect second effect) := by
  cases effect with
  | note note => exact pairs_note accord note
  | advance seconds =>
      exact (pairs_on_machine (accord.formulas.advanced seconds)).bind fun _ => .pure Value.null
  | resume number event payload =>
      exact (pairs_resume accord accompanied number event payload).bind fun _ => .pure Value.null
  | invoke handle arguments => exact accompanied.invokes handle arguments
  | promise =>
      refine (accompanied.heeds _ id).bind fun _ => ?_
      refine .step (stays_promises fun promises => promises.push
        { waiting := [], settlement := none })
        fun world counterpart twin => ?_
      change Value.ofNat world.stage.promises.size = Value.ofNat counterpart.stage.promises.size
      rw [twin.promises]

omit accompanied in
theorem attuned_silent : Attuned bond (.silent setting) (.silent (setting.logging flags)) where
  evaluates _ home formula := pairs_evaluate_in accord home formula
  invokes handle arguments := pairs_on_machine (Evaluate.pairs_invoke accord.formulas
    (Evaluate.accompanied_nodes accord.formulas setting.formulaFuel) handle arguments)
  heeds _ _ := .pure ()

omit accompanied in
theorem accompanied_powers [bond.TimesAlike] (fuel : Nat) :
    Accompanied bond (powers setting fuel) (powers (setting.logging flags) fuel) := by
  induction fuel with
  | zero => exact ⟨attuned_silent accord, fun _ _ _ _ _ _ _ => .exhaust, fun _ => .exhaust⟩
  | succ fuel ih =>
      exact ⟨attuned_silent accord, fun entries context event dispatch depth home sent =>
          pairs_entries accord ih (fun _ => rfl) (fun _ => rfl) home sent entries,
        Signal.pairs_script accord.signals ih.calls (pairs_effect accord ih)⟩

end Lists

end Execute
end Interplay
