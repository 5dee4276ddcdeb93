import Interplay.Proofs.Evaluate.Stretch
import Interplay.Proofs.Execute.Cascade

/-!
Execution of actions comes to an end.

Every list that an action starts runs one level deeper than the action, but a workflow callback goes
back to the level of the action that triggered the workflow, and to the dispatch that was there.
The induction is therefore over the levels that are left below the ceiling, for all dispatches whose
callbacks settle: the callbacks of a workflow settle because lists one level deeper do under the
outer dispatch, and then so does its body.  On the way callbacks start no deeper than the list that
sends them, since lists only ever go down under one dispatch.
-/

namespace Interplay
namespace Execute

open Run

/-- What a custom action may return: a cleanup that can be tied to the signal of the instance. -/
def QuietAnswer (order : SignalOrder) (signal : Nat) (answer : Signal.Answer Effect) : Prop :=
  ∀ plan, answer = .cleanup plan → Quiet order signal plan

def RegisteredAction (catalog : Catalog ActionHandler ActionHandler) (handler : ActionHandler) :
    Prop :=
  ∃ name package found,
    catalog.resolve name package = .ok (some (.versioned handler found)) ∨
      catalog.resolve name package = .ok (some (.legacy handler found))

/-- What is asked of formulas and of the host code of all instances. -/
structure WellMannered (setting : Setting) (terms : Terms) : Prop where
  formulas : FormulasEnd setting.environment terms.sound
  /-- A custom action triggers its own events only, and only during its call. -/
  handlers : ∀ host handler, RegisteredAction (setting.instances host).registry.actions handler →
    ∀ entries site,
    Tame terms.order (· = site.trigger)
      (QuietAnswer terms.order (setting.instances host).signal) terms.order.base
      (handler entries site)
  /-- A fetch calls its own continuations only, and only during its call. -/
  fetches : ∀ host name api, Keyed.find? name (setting.instances host).apis = some api →
    ∀ entries callbacks,
    Tame terms.order (fun number => number = callbacks.onSuccess ∨ number = callbacks.onError ∨
      number = callbacks.onMessage) (fun _ => True) terms.order.base (api.fetch entries callbacks)
  cancels : ∀ host name api plan, Keyed.find? name (setting.instances host).apis = some api →
    api.cancel = some plan → Tame terms.order (fun _ => False) (fun _ => True) terms.order.base plan
  events : ∀ host run, (setting.instances host).triggerEvent = some run → ∀ name content,
    Tame terms.order (fun _ => False) (fun _ => True) terms.order.base (run name content)
  addresses : ∀ host run, (setting.instances host).setUrlParameters = some run → ∀ entries mode,
    Tame terms.order (fun _ => False) (fun _ => True) terms.order.base (run entries mode)

/-- The dispatch of a run from outside: it may run host code, but nothing that executes actions. -/
def Outermost (terms : Terms) : Dispatch → Prop
  | .none => True
  | .external run => ∀ name content,
    Tame terms.order (fun _ => False) (fun _ => True) terms.order.base (run name content)
  | .caller .. => False

/-- Callbacks that are sent to a dispatch from a depth start no deeper than there, and settle. -/
structure CallbacksSettle (setting : Setting) (terms : Terms) (depth : Int) (dispatch : Dispatch) :
    Prop where
  higher : ∀ trigger, dispatch.origin? = some trigger →
    ∃ above : Int, trigger = .int above ∧ above + 1 ≤ depth
  settle : ∀ known present name content, SettlesCalmly terms known (present ≤ ·) fun effort =>
    dispatchCallback (powersFor setting effort) name content dispatch

theorem CallbacksSettle.below {setting : Setting} {terms : Terms}
    {depth : Int} {dispatch : Dispatch} (callbacks : CallbacksSettle setting terms depth dispatch) :
    CallbacksSettle setting terms (depth + 1) dispatch where
  higher := by
    intro trigger goesBack
    obtain ⟨above, same, higher⟩ := callbacks.higher trigger goesBack
    exact ⟨above, same, by omega⟩
  settle := callbacks.settle

def ListsSettle (setting : Setting) (terms : Terms) (depth : Int) : Prop :=
  ∀ dispatch, CallbacksSettle setting terms depth dispatch → ∀ known present entries context event,
    SettlesCalmly terms known (present ≤ ·) fun effort =>
      (powersFor setting effort).execute entries context event dispatch (.int depth)

theorem Tame.mono {order : SignalOrder} {own : Nat → Prop}
    {good : Signal.Answer Effect → Prop} {present more : Nat}
    {plan : Plan} (tame : Tame order own good present plan) (enough : present ≤ more) :
    Tame order own good more plan := by
  induction tame generalizing more with
  | finish returned => exact .finish returned
  | fail failure => exact .fail failure
  | create destroyed continues _ =>
      exact .create
        (fun script same number later => destroyed script same number (Nat.le_trans enough later))
        fun number later => continues number (Nat.le_trans enough later)
  | read continues following => exact .read fun content => following content enough
  | isDestroyed continues following => exact .isDestroyed fun flag => following flag enough
  | write continues following => exact .write (following enough)
  | subscribe notified released continues following =>
      exact .subscribe notified released fun number => following number enough
  | unsubscribe continues following => exact .unsubscribe (following enough)
  | derive inside transformed continues fails _ failing =>
      exact .derive (Nat.lt_of_lt_of_le inside enough) transformed
        (fun number later => continues number (Nat.le_trans enough later))
        fun failure => failing failure enough
  | destroy continues following => exact .destroy (following enough)
  | clean continues following => exact .clean (following enough)
  | perform resumes continues following =>
      exact .perform resumes fun outcome => following outcome enough

section Steps

variable {setting : Setting} {terms : Terms} {known : List (Nat × Continuation)} {present : Nat}

theorem tame_call_settles (formulas : FormulasEnd setting.environment terms.sound)
    {own : Nat → Prop} {good : Signal.Answer Effect → Prop}
    (resumed : ∀ present continuation, own continuation →
      ∀ event payload, SettlesCalmly terms known (present ≤ ·)
      fun effort => resume (powersFor setting effort) continuation event payload)
    {plan : Plan} (tame : Tame terms.order own good terms.order.base plan) :
    Settles terms.ceiling (Calm terms known (present ≤ ·))
      (fun answer world => good answer ∧ Calm terms known (present ≤ ·) world)
      (Calm terms known (present ≤ ·))
      fun effort => (powersFor setting effort).call plan := by
  have fewer : ∀ world, Calm terms known (max terms.order.base present ≤ ·) world →
      Calm terms known (present ≤ ·) world :=
    fun world calm => calm.resize (Nat.le_trans (Nat.le_max_right _ _) calm.sized)
  have more : ∀ world, Calm terms known (present ≤ ·) world →
      Calm terms known (max terms.order.base present ≤ ·) world :=
    fun world calm => calm.resize (Nat.max_le.mpr ⟨calm.based, calm.sized⟩)
  have runs := tame_plan_settles formulas resumed
      (tame.mono (Nat.le_max_left terms.order.base present))
  exact Settles.of_less (runs.mono more (fun _ world ended => ⟨ended.1, fewer world ended.2⟩) fewer)
    fun effort fueled => call_spends fueled plan

theorem tame_perform_settles (formulas : FormulasEnd setting.environment terms.sound)
    {good : Signal.Answer Effect → Prop} {plan : Plan}
    (tame : Tame terms.order (fun _ => False) good terms.order.base plan) :
    SettlesCalmly terms known (present ≤ ·) fun effort =>
      (powersFor setting effort).perform plan := by
  refine Settles.bind (tame_call_settles formulas (fun _ _ impossible => impossible.elim) tame)
    fun answer => ?_
  exact Settles.pure fun _ ended => ended.2

theorem quiet_perform_settles (formulas : FormulasEnd setting.environment terms.sound)
    {floor : Nat} {plan : Plan} (quiet : Quiet terms.order floor plan) :
    SettlesCalmly terms known (present ≤ ·) fun effort => (powersFor setting effort).perform plan :=
  Settles.bind (quiet_call_settles formulas quiet) fun _ => Settles.pure fun _ calm => calm

theorem settles_log (grounded : Machine.Grounded terms.sound)
    {sizes : Nat → Prop} (level : LogLevel)
    (message : String) : SettlesCalmly terms known sizes fun _ => Run.modify
    (World.log level message) :=
  Settles.modify fun _ calm => calm.modify_machine grounded (Machine.same_ground_modify_journal _ _)

theorem settles_warn (grounded : Machine.Grounded terms.sound)
    {sizes : Nat → Prop} (message : String) :
    SettlesCalmly terms known sizes fun _ => warn message :=
  settles_log grounded .warning message

@[simp] theorem Setting.instances_fueled (setting : Setting) (effort : Effort) :
    (setting.fueled effort).instances = setting.instances := rfl

theorem settles_outcome {α : Type} {sizes : Nat → Prop} {before : World → Prop}
    (still : ∀ world, before world → Calm terms known sizes world) (outcome : Except Failure α) :
    Settles terms.ceiling before (fun _ => Calm terms known sizes) (Calm terms known sizes)
      fun _ => Run.ofExcept outcome :=
  Settles.of_except still fun _ world _ holds => still world holds

theorem settles_context (formulas : FormulasEnd setting.environment terms.sound)
    {sizes : Nat → Prop} (context : ActionContext) (event : Value) :
    SettlesCalmly terms known sizes fun effort => formulaContext
      (setting.fueled effort) context event := by
  change SettlesCalmly terms known sizes fun _ => formulaContext setting context event
  refine Settles.get_bind fun world calm => ?_
  refine Settles.bind (settles_outcome calm.still _) fun data => ?_
  refine Settles.constant fun world calm => ?_
  exact calm.set_machine (formulas.stacked _ calm.sound) rfl

theorem settles_evaluate_for (formulas : FormulasEnd setting.environment terms.sound)
    {sizes : Nat → Prop} (context : ActionContext) (event : Value) (formula : Option Formula) :
    SettlesCalmly terms known sizes fun effort => evaluateFor (setting.fueled effort)
      (powersFor setting effort) context event formula :=
  Settles.bind (settles_context formulas context event) fun inner =>
    settles_evaluate formulas inner formula

theorem settles_named_values (formulas : FormulasEnd setting.environment terms.sound)
    {sizes : Nat → Prop} (context : ActionContext) (event : Value) (named : List NamedFormula) :
    SettlesCalmly terms known sizes fun effort => namedValues (setting.fueled effort)
      (powersFor setting effort) context event named := by
  refine Settles.bind (settles_context formulas context event) fun inner => ?_
  generalize ([] : Entries) = entries
  induction named generalizing entries with
  | nil => exact Settles.pure fun _ calm => calm
  | cons first rest ih =>
      unfold collectValues
      split
      · exact ih entries
      · exact Settles.bind (settles_evaluate formulas inner first.formula) fun content => ih _

theorem settles_select_case (formulas : FormulasEnd setting.environment terms.sound)
    {sizes : Nat → Prop}
    (inner : Context) (fallback : Option (List Action)) (cases : List ActionCase) :
    SettlesCalmly terms known sizes fun effort =>
      selectCase ((powersFor setting effort).evaluate inner) fallback cases := by
  induction cases with
  | nil => exact Settles.pure fun _ calm => calm
  | cons branch rest ih =>
      refine Settles.bind (settles_evaluate formulas inner branch.condition) fun content => ?_
      split
      · exact Settles.pure fun _ calm => calm
      · exact ih

theorem settles_write_any_size (formulas : FormulasEnd setting.environment terms.sound)
    (signal : Nat) (content : Value) :
    SettlesCalmly terms known (present ≤ ·) fun effort =>
      Signal.write (powersFor setting effort).call signal content :=
  settles_any_size fun _ based => settles_write formulas.grounded
    (fun _ => quiet_calls_settle formulas known based _ (Nat.le_refl _)) content

theorem settles_spawn (grounded : Machine.Grounded terms.sound) {sizes : Nat → Prop} (plan : Plan)
    (awaiting : Option ActionContext) : SettlesCalmly terms known sizes fun _ =>
      spawn plan awaiting := by
  refine Settles.get_bind fun world calm => ?_
  split
  · exact Settles.modify fun state same => (calm.still state same).enqueue _
  · exact (settles_warn grounded _).of_start calm.still

theorem settles_with_continuation {α : Type} {sizes : Nat → Prop} (continuation : Continuation)
    {next : Effort → Nat → Run World α}
    (following : ∀ number, SettlesCalmly terms ((number, continuation) :: known) sizes fun effort =>
      next effort number) :
    SettlesCalmly terms known sizes fun effort => newContinuation continuation >>= next effort := by
  have made : Settles terms.ceiling (Calm terms known sizes)
      (fun number => Calm terms ((number, continuation) :: known) sizes) (Calm terms known sizes)
      fun _ => newContinuation continuation :=
    Settles.constant fun _ calm => calm.new_continuation continuation
  refine Settles.bind made fun number => ?_
  exact (following number).mono (fun _ calm => calm) (fun _ _ calm => calm.forget)
    fun _ calm => calm.forget

end Steps

section Actions

variable {setting : Setting} {terms : Terms} {known : List (Nat × Continuation)}
  {present : Nat} {depth : Int} {dispatch : Dispatch}

theorem settles_execute_below (deeper : ListsSettle setting terms (depth + 1))
    (callbacks : CallbacksSettle setting terms (depth + 1) dispatch) (actions : List Action)
    (context : ActionContext) (event : Value) :
    SettlesCalmly terms known (present ≤ ·) fun effort =>
      (powersFor setting effort).executeBelow actions context event dispatch (.int depth) := by
  change SettlesCalmly terms known (present ≤ ·) fun effort =>
    (powersFor setting effort).execute (actions.map Entry.action) context event dispatch
      (.int (depth + 1))
  exact deeper dispatch callbacks known present _ context event

/-- What was handed out under a depth and a dispatch settles if lists one level deeper do. -/
theorem settles_resume (grounded : Machine.Grounded terms.sound)
    (deeper : ListsSettle setting terms (depth + 1))
    (callbacks : CallbacksSettle setting terms depth dispatch) {number : Nat}
    {continuation : Continuation} (member : (number, continuation) ∈ known)
    (shape : (∃ actions context, continuation = .body actions context dispatch (.int depth)) ∨
      ∃ action events context, continuation = .emitter action events context dispatch (.int depth))
    (event payload : Value) :
    SettlesCalmly terms known (present ≤ ·) fun effort => resume
      (powersFor setting effort) number event payload := by
  refine Settles.get_bind fun world calm => ?_
  have held : world.stage.continuations[number]? = some continuation := calm.known _ member
  rw [held]
  rcases shape with ⟨actions, context, rfl⟩ | ⟨action, events, context, rfl⟩
  · exact (settles_execute_below deeper callbacks.below actions context payload).of_start calm.still
  · refine Settles.bind (settles_outcome calm.still _) fun key => ?_
    dsimp only
    split
    · exact settles_warn grounded _
    · exact settles_execute_below deeper callbacks.below _ context payload

theorem settles_set_variable (mannered : WellMannered setting terms)
    (context : ActionContext) (event : Value) (name : String) (data : Option Formula) :
    SettlesCalmly terms known (present ≤ ·) fun effort =>
      setVariable (setting.fueled effort) (powersFor setting effort) context event name data := by
  simp only [setVariable, Setting.instances_fueled]
  refine Settles.bind (settles_evaluate_for mannered.formulas context event data) fun content => ?_
  refine Settles.get_bind fun world calm => ?_
  refine Settles.bind (settles_outcome calm.still _) fun changed => ?_
  refine Settles.bind (settles_write_any_size mannered.formulas _ changed) fun _ => ?_
  exact Settles.modify fun _ calm => calm.modify_machine mannered.formulas.grounded
    (Machine.same_ground_modify_host _ _ fun _ => rfl)

theorem settles_trigger_event (mannered : WellMannered setting terms)
    (context : ActionContext) (event : Value) (name : String) (data : Option Formula) :
    SettlesCalmly terms known (present ≤ ·) fun effort =>
      triggerEvent (setting.fueled effort) (powersFor setting effort) context event name data := by
  simp only [triggerEvent, Setting.instances_fueled]
  cases given : (setting.instances context.host).triggerEvent with
  | none => exact settles_warn mannered.formulas.grounded _
  | some run =>
      refine Settles.bind (settles_evaluate_for mannered.formulas context event data)
        fun content => ?_
      exact tame_perform_settles mannered.formulas
        (mannered.events context.host run given name content)

theorem settles_switch (mannered : WellMannered setting terms)
    (deeper : ListsSettle setting terms (depth + 1))
    (callbacks : CallbacksSettle setting terms depth dispatch)
    (context : ActionContext) (event : Value)
    (cases : List ActionCase) (fallback : Option (List Action)) :
    SettlesCalmly terms known (present ≤ ·) fun effort =>
      runSwitch (setting.fueled effort) (powersFor setting effort) context event dispatch
        (.int depth) cases fallback := by
  refine Settles.bind (settles_context mannered.formulas context event) fun inner => ?_
  refine Settles.bind (settles_select_case mannered.formulas inner fallback cases)
    fun selected => ?_
  cases selected with
  | none => exact Settles.pure fun _ calm => calm
  | some actions => exact settles_execute_below deeper callbacks.below actions context event

theorem settles_fetch (mannered : WellMannered setting terms)
    (deeper : ListsSettle setting terms (depth + 1))
    (callbacks : CallbacksSettle setting terms depth dispatch) (context : ActionContext)
    (event : Value) (name : String)
    (inputs : List NamedFormula) (onSuccess onError onMessage : List Action) :
    SettlesCalmly terms known (present ≤ ·) fun effort =>
      runFetch (setting.fueled effort) (powersFor setting effort) context event dispatch
        (.int depth) name inputs onSuccess onError onMessage := by
  simp only [runFetch, Setting.instances_fueled]
  cases found : Keyed.find? name (setting.instances context.host).apis with
  | none => exact settles_warn mannered.formulas.grounded _
  | some api =>
      refine settles_with_continuation _ fun success => settles_with_continuation _ fun error => ?_
      refine settles_with_continuation _ fun message => ?_
      refine Settles.bind (settles_named_values mannered.formulas context event inputs)
        fun entries => ?_
      refine Settles.bind (tame_call_settles mannered.formulas ?_
        (mannered.fetches context.host name api found entries _)) fun answer => ?_
      · rintro present continuation (rfl | rfl | rfl) event payload
        · exact settles_resume mannered.formulas.grounded deeper callbacks
            (List.mem_cons_of_mem _ (List.mem_cons_of_mem _ List.mem_cons_self))
            (.inl ⟨_, _, rfl⟩) event payload
        · exact settles_resume mannered.formulas.grounded deeper callbacks
            (List.mem_cons_of_mem _ List.mem_cons_self) (.inl ⟨_, _, rfl⟩) event payload
        · exact settles_resume mannered.formulas.grounded deeper callbacks List.mem_cons_self
            (.inl ⟨_, _, rfl⟩) event payload
      · cases answer with
        | deferred plan =>
            exact (settles_spawn mannered.formulas.grounded plan none).of_start fun _ ended =>
              ended.2
        | value content => exact Settles.pure fun _ ended => ended.2
        | cleanup plan => exact Settles.pure fun _ ended => ended.2
        | promise number => exact Settles.pure fun _ ended => ended.2

theorem settles_abort (mannered : WellMannered setting terms)
    (context : ActionContext) (name : String) :
    SettlesCalmly terms known (present ≤ ·) fun effort =>
      abortFetch (setting.fueled effort) (powersFor setting effort) context name := by
  simp only [abortFetch, Setting.instances_fueled]
  cases found : Keyed.find? name (setting.instances context.host).apis with
  | none => exact Settles.pure fun _ calm => calm
  | some api =>
      dsimp only
      cases given : api.cancel with
      | none => exact Settles.pure fun _ calm => calm
      | some plan =>
          exact tame_perform_settles mannered.formulas
            (mannered.cancels context.host name api plan found given)

theorem settles_set_url_parameter (mannered : WellMannered setting terms)
    (context : ActionContext) (event : Value)
    (name : String) (data : Option Formula) (mode : Value) :
    SettlesCalmly terms known (present ≤ ·) fun effort =>
      setUrlParameter (setting.fueled effort)
        (powersFor setting effort) context event name data mode := by
  simp only [setUrlParameter, Setting.instances_fueled]
  cases given : (setting.instances context.host).setUrlParameters with
  | none => exact settles_warn mannered.formulas.grounded _
  | some run =>
      refine Settles.bind (settles_evaluate_for mannered.formulas context event data)
        fun content => ?_
      exact tame_perform_settles mannered.formulas
        (mannered.addresses context.host run given _ mode)

theorem settles_set_url_parameters (mannered : WellMannered setting terms)
    (context : ActionContext) (event : Value) (parameters : List NamedFormula) (mode : Value) :
    SettlesCalmly terms known (present ≤ ·) fun effort =>
      setUrlParameters (setting.fueled effort)
        (powersFor setting effort) context event parameters mode := by
  simp only [setUrlParameters, Setting.instances_fueled]
  cases given : (setting.instances context.host).setUrlParameters with
  | none => exact settles_warn mannered.formulas.grounded _
  | some run =>
      refine Settles.bind (settles_named_values mannered.formulas context event parameters)
        fun entries => ?_
      exact tame_perform_settles mannered.formulas
        (mannered.addresses context.host run given entries mode)

theorem settles_on_trail (grounded : Machine.Grounded terms.sound) {sizes : Nat → Prop}
    {α : Type} (number : Nat)
    (kind name : String) {body : Effort → Run World α}
    (settles : SettlesCalmly terms known sizes body) :
    SettlesCalmly terms known sizes fun effort => onTrail number kind name (body effort) :=
  Settles.ensuring settles
    (fun _ calm => calm.modify_machine grounded (Machine.same_ground_push_step number kind name _))
    (fun _ _ calm => calm.modify_machine grounded (Machine.same_ground_pop_step number _))
    fun _ calm => calm.modify_machine grounded (Machine.same_ground_pop_step number _)

theorem settles_under_workflow {sizes : Nat → Prop} {α : Type} (number : Nat) (key : String)
    {body : Effort → Run World α} (settles : SettlesCalmly terms known sizes body) :
    SettlesCalmly terms known sizes fun effort => underWorkflow number key (body effort) := by
  intro world calm
  cases entry : (world.workflows number).enter key with
  | error failure =>
      exact ⟨.raised failure world, 0, calm, fun _ _ => by simp only [underWorkflow, entry]⟩
  | ok entered =>
      have inside : SettlesCalmly terms known sizes fun effort state =>
          Run.ensuring (World.modifyWorkflows number (Cycle.Workflow.leave key)) (body effort)
            (state.modifyWorkflows number fun _ => entered) :=
        Settles.ensuring settles (fun _ calm => calm.modify_workflows number _)
          (fun _ _ calm => calm.modify_workflows number _) fun _ calm =>
            calm.modify_workflows number _
      obtain ⟨result, least, lands, reached⟩ := inside world calm
      refine ⟨result, least, lands, fun effort reaches => ?_⟩
      simp only [underWorkflow, entry]
      exact reached effort reaches

theorem settles_find_workflow (grounded : Machine.Grounded terms.sound) {sizes : Nat → Prop}
    (context : ActionContext) (name : String) (provider package : Value) :
    SettlesCalmly terms known sizes fun effort =>
      findWorkflow (setting.fueled effort) context name provider package := by
  have warned : ∀ {α : Type} (message : String), SettlesCalmly terms known sizes fun _ =>
      (do warn message; pure none : Run World (Option α)) :=
    fun message => Settles.bind (settles_warn grounded message) fun _ =>
      Settles.pure fun _ calm => calm
  change SettlesCalmly terms known sizes fun _ => findWorkflow setting context name provider package
  unfold findWorkflow
  dsimp only
  split
  · refine Settles.get_bind fun world calm => ?_
    refine Settles.bind (settles_outcome calm.still _) fun provided => ?_
    cases provided with
    | none => exact warned _
    | some number =>
        dsimp only
        split
        · split
          · exact Settles.pure fun _ calm => calm
          · exact warned _
        · exact warned _
  · split
    · exact Settles.pure fun _ calm => calm
    · exact warned _

theorem owner_name_fueled (setting : Setting) (effort : Effort) (number : Nat) :
    ownerName (setting.fueled effort) number = ownerName setting number := rfl

/-- A workflow settles: first its callbacks do, which run under the outer dispatch, and then its
body. -/
theorem settles_workflow (mannered : WellMannered setting terms)
    (deeper : ListsSettle setting terms (depth + 1))
    (callbacks : CallbacksSettle setting terms depth dispatch) (context : ActionContext)
    (event : Value) (name : String)
    (parameters : List NamedFormula) (bodies : List ActionBody) (provider package : Value) :
    SettlesCalmly terms known (present ≤ ·) fun effort =>
      runWorkflow (setting.fueled effort) (powersFor setting effort) context event dispatch
        (.int depth) name parameters bodies provider package := by
  have inner : CallbacksSettle setting terms (depth + 1)
      (.caller name bodies context dispatch (.int depth)) := by
    constructor
    case higher =>
      intro trigger goesBack
      cases goesBack
      exact ⟨depth, rfl, Int.le_refl _⟩
    case settle =>
      intro known present callback content
      simp only [dispatchCallback]
      cases ActionBody.find? callback bodies with
      | none => exact settles_warn mannered.formulas.grounded _
      | some actions => exact settles_execute_below deeper callbacks.below actions context content
  refine Settles.bind
    (settles_find_workflow mannered.formulas.grounded context name provider package) fun found => ?_
  match found with
  | none => exact Settles.pure fun _ calm => calm
  | some (owner, workflow) =>
      refine Settles.bind (settles_named_values mannered.formulas context event parameters)
        fun entries => ?_
      refine Settles.bind (settles_outcome (fun _ calm => calm) _) fun overlay => ?_
      simp only [owner_name_fueled]
      refine settles_under_workflow _ _ (settles_on_trail mannered.formulas.grounded _ _ _ ?_)
      exact settles_execute_below deeper inner workflow.actions _ event

theorem settles_run_callback (mannered : WellMannered setting terms)
    (callbacks : CallbacksSettle setting terms depth dispatch)
    (context : ActionContext) (event : Value) (name : String) (data : Option Formula) :
    SettlesCalmly terms known (present ≤ ·) fun effort =>
      runCallback (setting.fueled effort) (powersFor setting effort) context event
        dispatch name data := by
  cases dispatch with
  | none => exact settles_warn mannered.formulas.grounded _
  | external run =>
      refine Settles.bind (settles_evaluate_for mannered.formulas context event data)
        fun content => ?_
      exact callbacks.settle known present name content
  | caller workflow bodies caller outer level =>
      refine Settles.bind (settles_evaluate_for mannered.formulas context event data)
        fun content => ?_
      exact callbacks.settle known present name content

theorem settles_on_destroy (mannered : WellMannered setting terms)
    (context : ActionContext) {cleanup : Plan}
    (quiet : Quiet terms.order (setting.instances context.host).signal cleanup) :
    SettlesCalmly terms known (present ≤ ·) fun effort =>
      onDestroy (setting.fueled effort) (powersFor setting effort) context cleanup := by
  refine Settles.get_bind fun world calm => ?_
  by_cases destroyed : (world.cell (setting.instances context.host).signal).isDestroyed
  · simp only [Setting.instances_fueled, destroyed, if_true]
    exact (quiet_perform_settles mannered.formulas quiet).of_start calm.still
  · simp only [Setting.instances_fueled, destroyed, Bool.false_eq_true, if_false]
    have attached : SettlesCalmly terms known (present ≤ ·) fun effort =>
        Signal.attach (powersFor setting effort).call
          (setting.instances context.host).signal (.call fun _ => .done) (.call cleanup) :=
      settles_attach_any_size mannered.formulas (fun _ => .finish _) quiet
    exact Settles.bind (attached.of_start calm.still) fun _ => Settles.pure fun _ calm => calm

theorem quiet_callable {order : SignalOrder} {signal : Nat}
    {answer : Signal.Answer Effect} {plan : Plan}
    (quiet : QuietAnswer order signal answer) (called : callable? answer = some plan) :
    Quiet order signal plan := by
  unfold callable? at called
  split at called
  · cases called
    exact quiet plan rfl
  · cases called
    refine .perform (fun _ _ _ same => by cases same) fun outcome => ?_
    cases outcome with
    | ok content => exact .finish _
    | error failure => exact .fail failure
  · cases called

theorem settles_deliver (mannered : WellMannered setting terms) {settlement : Settlement}
    (context : ActionContext) (quiet : ∀ answer, settlement.result? = some answer →
      QuietAnswer terms.order (setting.instances context.host).signal answer) :
    SettlesCalmly terms known (present ≤ ·) fun effort =>
      deliver (setting.fueled effort) (powersFor setting effort) settlement context := by
  unfold deliver
  cases found : settlement.result?.bind callable? with
  | none => exact Settles.pure fun _ calm => calm
  | some plan =>
      obtain ⟨answer, result, called⟩ := Option.bind_eq_some_iff.mp found
      refine Settles.bind
        (settles_on_destroy mannered context (quiet_callable (quiet answer result) called)).attempt
        fun outcome => ?_
      exact Settles.pure (calm_of_attempt outcome)

theorem settles_await (mannered : WellMannered setting terms)
    (context : ActionContext) (number : Nat) :
    SettlesCalmly terms known (present ≤ ·) fun effort =>
      awaitPromise (setting.fueled effort) (powersFor setting effort) context number := by
  refine Settles.get_bind fun world calm => ?_
  cases settled : (world.stage.promises[number]?).bind Promise.settlement with
  | none => exact Settles.modify fun state same => (calm.still state same).await number context
  | some settlement =>
      obtain ⟨promise, found, settled⟩ := Option.bind_eq_some_iff.mp settled
      refine (settles_deliver mannered context ?_).of_start calm.still
      rintro answer result plan rfl
      cases settlement with
      | cleanup kept =>
          cases result
          exact calm.promises number promise plan found settled
            (setting.instances context.host).signal
      | _ => cases result

theorem settles_register_answer (mannered : WellMannered setting terms) (context : ActionContext)
    {answer : Signal.Answer Effect}
    (quiet : QuietAnswer terms.order (setting.instances context.host).signal answer) :
    SettlesCalmly terms known (present ≤ ·) fun effort =>
      registerAnswer (setting.fueled effort) (powersFor setting effort) context answer := by
  unfold registerAnswer
  cases called : callable? answer with
  | some plan => exact settles_on_destroy mannered context (quiet_callable quiet called)
  | none =>
      cases answer with
      | value content => exact Settles.pure fun _ calm => calm
      | cleanup plan => exact Settles.pure fun _ calm => calm
      | promise number => exact settles_await mannered context number
      | deferred plan => exact settles_spawn mannered.formulas.grounded plan (some context)

theorem settles_custom (mannered : WellMannered setting terms)
    (deeper : ListsSettle setting terms (depth + 1))
    (callbacks : CallbacksSettle setting terms depth dispatch) (context : ActionContext)
    (event : Value) (name : String)
    (declared : Value) (arguments : List NamedFormula) (events : List ActionBody) :
    SettlesCalmly terms known (present ≤ ·) fun effort =>
      runCustom (setting.fueled effort) (powersFor setting effort) context event dispatch
        (.int depth) name declared arguments events := by
  simp only [runCustom, Setting.instances_fueled]
  have called : ∀ handler, RegisteredAction
      (setting.instances context.host).registry.actions handler →
      SettlesCalmly terms known (present ≤ ·) (fun effort => (do
        let trigger ← newContinuation (.emitter name events context dispatch (.int depth))
        let entries ← namedValues (setting.fueled effort)
            (powersFor setting effort) context event arguments
        let answer ← (powersFor setting effort).call
          (handler entries
            { root := (setting.instances context.host).root, event := event, trigger := trigger })
        registerAnswer (setting.fueled effort)
          (powersFor setting effort) context answer : Run World Unit)) := by
    intro handler registered
    refine settles_with_continuation _ fun trigger => ?_
    refine Settles.bind (settles_named_values mannered.formulas context event arguments)
      fun entries => ?_
    refine Settles.bind (tame_call_settles mannered.formulas ?_
      (mannered.handlers context.host handler registered entries _)) fun answer => ?_
    · rintro present continuation rfl event payload
      exact settles_resume mannered.formulas.grounded deeper callbacks List.mem_cons_self
        (.inr ⟨_, _, _, rfl⟩) event payload
    · intro world ended
      exact settles_register_answer mannered context ended.1 world ended.2
  have resolved : Settles terms.ceiling (Calm terms known (present ≤ ·))
      (fun resolution world => Calm terms known (present ≤ ·) world ∧
        (setting.instances context.host).registry.actions.resolve (.text name)
          (declared.orElse (setting.instances context.host).package) = .ok resolution)
      (Calm terms known (present ≤ ·))
      fun _ => Run.ofExcept ((setting.instances context.host).registry.actions.resolve (.text name)
        (declared.orElse (setting.instances context.host).package)) :=
    Settles.of_except (fun _ calm => calm) fun _ _ same calm => ⟨calm, same⟩
  refine Settles.bind resolved fun resolution world found => ?_
  match resolution with
  | none => exact settles_warn mannered.formulas.grounded _ world found.1
  | some (.versioned handler package) =>
      exact called handler ⟨_, _, _, .inl found.2⟩ world found.1
  | some (.legacy handler package) =>
      exact called handler ⟨_, _, _, .inr found.2⟩ world found.1

theorem settles_action (mannered : WellMannered setting terms)
    (deeper : ListsSettle setting terms (depth + 1))
    (callbacks : CallbacksSettle setting terms depth dispatch)
    (context : ActionContext) (event : Value) (action : Action) :
    SettlesCalmly terms known (present ≤ ·) fun effort =>
      runAction (setting.fueled effort) (powersFor setting effort) context event dispatch
        (.int depth) action := by
  cases action with
  | setVariable name data => exact settles_set_variable mannered context event name data
  | triggerEvent name data => exact settles_trigger_event mannered context event name data
  | switch cases fallback _ =>
      exact settles_switch mannered deeper callbacks context event cases fallback
  | fetch name inputs onSuccess onError onMessage =>
      exact settles_fetch mannered deeper callbacks context event name inputs
        onSuccess onError onMessage
  | abortFetch name => exact settles_abort mannered context name
  | custom name package arguments events =>
      exact settles_custom mannered deeper callbacks context event name package arguments events
  | setUrlParameter name data mode =>
      exact settles_set_url_parameter mannered context event name data mode
  | setUrlParameters parameters mode =>
      exact settles_set_url_parameters mannered context event parameters mode
  | triggerWorkflow name parameters bodies provider package =>
      exact settles_workflow mannered deeper callbacks context event name
        parameters bodies provider package
  | triggerWorkflowCallback name data =>
      exact settles_run_callback mannered callbacks context event name data

theorem settles_record_failure (formulas : FormulasEnd setting.environment terms.sound)
    {sizes : Nat → Prop}
    (context : ActionContext) (kind : String) (index : Nat) (failure : Failure) :
    SettlesCalmly terms known sizes fun effort => recordFailure
      (setting.fueled effort) context kind index failure := by
  change SettlesCalmly terms known sizes fun _ => recordFailure setting context kind index failure
  have kept : ∀ fault, SettlesCalmly terms known sizes fun _ => onMachine
      (Machine.addFault context.host fault) :=
    fun fault => settles_bookkeeping formulas fun _ grounded =>
      Machine.tracks_add_fault (grounded.tolerant _) _
  refine Settles.get_bind fun world calm => ?_
  cases failure with
  | fault fault =>
      exact Settles.bind ((settles_warn formulas.grounded _).of_start calm.still) fun _ => kept _
  | mishap mishap =>
      exact Settles.bind ((settles_log formulas.grounded .error _).of_start calm.still) fun _ =>
        kept _

theorem settles_guarded (mannered : WellMannered setting terms)
    (deeper : ListsSettle setting terms (depth + 1))
    (callbacks : CallbacksSettle setting terms depth dispatch) (context : ActionContext)
    (event : Value) (index : Nat) (action : Action) :
    SettlesCalmly terms known (present ≤ ·) fun effort =>
      runGuarded (setting.fueled effort) (powersFor setting effort) context event dispatch
        (.int depth) index action := by
  refine Settles.get_bind fun before calm => ?_
  refine Settles.bind ((settles_on_trail mannered.formulas.grounded _ _ _ ?_).of_start calm.still)
    fun succeeded => ?_
  · refine Settles.bind (settles_action mannered deeper callbacks context event action).attempt
      fun outcome => ?_
    cases outcome with
    | ok done => exact Settles.pure fun _ ended => ended.1 done rfl
    | error failure =>
        have recorded : SettlesCalmly terms known (present ≤ ·) fun effort =>
            keepOutcome (setting.fueled effort) context action.kind index (.error failure) :=
          Settles.bind (settles_record_failure mannered.formulas context action.kind index failure)
            fun _ => Settles.pure fun _ calm => calm
        exact recorded.of_start fun _ ended => ended.2 failure rfl
  · refine Settles.get_bind fun after calm => ?_
    refine (settles_bookkeeping mannered.formulas fun _ grounded => ?_).of_start calm.still
    exact Machine.tracks_record (grounded.tolerant context.host) _ _ _ _ _ _ _

theorem settles_entry (mannered : WellMannered setting terms)
    (deeper : ListsSettle setting terms (depth + 1))
    (callbacks : CallbacksSettle setting terms depth dispatch) (context : ActionContext)
    (event : Value) (index : Nat) (entry : Entry) :
    SettlesCalmly terms known (present ≤ ·) fun effort =>
      runEntry (setting.fueled effort) (powersFor setting effort) context event dispatch
        (.int depth) index entry := by
  cases entry with
  | action action => exact settles_guarded mannered deeper callbacks context event index action
  | persisted source =>
      refine Settles.bind (settles_outcome (fun _ calm => calm) (Action.read source))
        fun parsed => ?_
      cases parsed with
      | none => exact settles_warn mannered.formulas.grounded _
      | some action => exact settles_guarded mannered deeper callbacks context event index action

theorem settles_timed (formulas : FormulasEnd setting.environment terms.sound)
    {sizes : Nat → Prop} (number : Nat)
    (name category budget : Value) {body : Effort → Run World Unit}
    (settles : SettlesCalmly terms known sizes body) :
    SettlesCalmly terms known sizes fun effort => timed number name category
      budget (body effort) := by
  intro world calm
  refine Settles.followed_by settles (lands_bookkeeping formulas fun _ grounded => ?_) world calm
  exact Machine.tracks_finish_timing (grounded.tolerant number) number name category
    budget world.machine.now

/-- A list whose body settles wherever its depth is within the ceiling settles. -/
theorem settles_list (formulas : FormulasEnd setting.environment terms.sound)
    (context : ActionContext) (depth : Int)
    {body : Effort → Run World Unit}
    (settles : depth ≤ terms.ceiling → SettlesCalmly terms known (present ≤ ·) body) :
    SettlesCalmly terms known (present ≤ ·) fun effort => runList context
      (.int depth) (body effort) := by
  refine Settles.get_bind fun world calm => ?_
  cases checked : world.machine.limits.check "action" "max_depth" (.int depth) with
  | error failure =>
      cases failure with
      | mishap mishap => exact Settles.raise calm.still
      | fault fault =>
          refine Settles.bind ((settles_log formulas.grounded .error _).of_start calm.still)
            fun _ => ?_
          exact settles_bookkeeping formulas fun _ grounded =>
            Machine.tracks_add_fault (grounded.tolerant _) _
  | ok =>
      have runs := settles ((Limits.check_passes_iff calm.limit).mp checked)
      dsimp only
      split
      · exact (settles_timed formulas _ _ _ _ runs).of_start calm.still
      · exact runs.of_start calm.still

open Classical in
noncomputable def runListFor (setting : Setting) (effort : Effort) (entries : List Entry)
    (context : ActionContext)
    (event : Value) (dispatch : Dispatch) (depth : Value) : Run World Unit :=
  runList context depth
    (if effort.allowed dispatch.origin? depth then
      forEachIndexed
        (runEntry (setting.fueled effort) (powersFor setting effort) context event dispatch depth)
        0 entries
    else Run.exhaust)

theorem execute_spends {effort : Effort} (fueled : 0 < effort.fuel) (entries : List Entry)
    (context : ActionContext) (event : Value) (dispatch : Dispatch) (depth : Value) :
    (powersFor setting effort).execute entries context event dispatch depth =
      runListFor setting effort.less entries context event dispatch depth := by
  obtain ⟨formulaFuel, fuel, allowed⟩ := effort
  obtain ⟨less, rfl⟩ : ∃ less, fuel = less + 1 := ⟨fuel - 1, by dsimp only at fueled; omega⟩
  rfl

theorem lists_settle_of_deeper (mannered : WellMannered setting terms)
    (deeper : depth ≤ terms.ceiling → ListsSettle setting terms (depth + 1)) :
    ListsSettle setting terms depth := by
  intro dispatch callbacks known present entries context event
  have runs : SettlesCalmly terms known (present ≤ ·) fun effort =>
      runListFor setting effort entries context event dispatch (.int depth) := by
    refine settles_list mannered.formulas context depth fun within => ?_
    have covered : WithinCeiling terms.ceiling dispatch.origin? (.int depth) :=
      ⟨depth, rfl, within, callbacks.higher⟩
    refine Settles.of_eq ?_ fun effort reaches => if_pos (reaches.depths _ _ covered)
    exact Settles.for_each_indexed entries 0 fun index entry =>
      settles_entry mannered (deeper within) callbacks context event index entry
  exact Settles.of_less runs fun effort fueled => execute_spends fueled entries
    context event dispatch _

theorem lists_settle (mannered : WellMannered setting terms) (levels : Nat) (depth : Int)
    (near : terms.ceiling + 1 - depth ≤ levels) : ListsSettle setting terms depth := by
  induction levels generalizing depth with
  | zero => exact lists_settle_of_deeper mannered fun within => by omega
  | succ levels ih => exact lists_settle_of_deeper mannered fun _ => ih (depth + 1) (by omega)

theorem outermost_callbacks_settle (formulas : FormulasEnd setting.environment terms.sound)
    (outermost : Outermost terms dispatch) : CallbacksSettle setting terms depth dispatch := by
  cases dispatch with
  | none =>
      refine ⟨?_, fun _ _ _ _ => Settles.pure fun _ calm => calm⟩
      intro trigger goesBack
      cases goesBack
  | external run =>
      refine ⟨?_, fun _ _ name content => tame_perform_settles formulas (outermost name content)⟩
      intro trigger goesBack
      cases goesBack
  | caller workflow bodies context outer level => exact outermost.elim

/-- With well-mannered host code, execution of any list comes to an end, the same for all fuel that
is large enough, whatever workflows trigger each other; and it is the same if it is broken off at
the first action that is dispatched at a depth other than a whole number within the ceiling, or from
which a workflow callback would start any deeper than the action that sends it. -/
theorem execution_ends_within_ceiling (mannered : WellMannered setting terms) {world : World}
    (calm : Calm terms [] (0 ≤ ·) world)
    (outermost : Outermost terms dispatch) (entries : List Entry)
    (context : ActionContext) (event : Value) (depth : Int) :
    ∃ result least, result ≠ .exhausted ∧ ∀ formulaFuel fuel, least ≤ formulaFuel → least ≤ fuel →
      execute { setting with formulaFuel := formulaFuel } fuel entries context event dispatch
        (.int depth)
          world = result ∧
      (watchedPowers { setting with formulaFuel := formulaFuel }
        (WithinCeiling terms.ceiling) fuel).execute entries
        context event dispatch (.int depth) world = result := by
  have callbacks : CallbacksSettle setting terms depth dispatch :=
    outermost_callbacks_settle mannered.formulas outermost
  have lists : ListsSettle setting terms depth :=
    lists_settle mannered (terms.ceiling + 1 - depth).toNat depth (Int.self_le_toNat _)
  obtain ⟨result, least, lands, reached⟩ :=
    lists dispatch callbacks [] 0 entries context event world calm
  refine ⟨result, least, Result.not_exhausted_of_lands lands,
    fun formulaFuel fuel formulas actions => ⟨?_, ?_⟩⟩
  · have plain := reached { formulaFuel := formulaFuel, fuel := fuel, allowed := fun _ _ => True }
      ⟨formulas, actions, fun _ _ _ => trivial⟩
    rw [← plain]
    simp only [powersFor, watched_powers_of_everything]
    rfl
  · exact reached
      { formulaFuel := formulaFuel, fuel := fuel, allowed := WithinCeiling terms.ceiling }
      ⟨formulas, actions, fun _ _ within => within⟩

end Actions

/-- Handlers that do not call back make formulas end on all machines with a whole ceiling. -/
theorem formulas_end_of_confined {environment : Environment}
    (confined : ∀ host, environment.Confined False False host)
    (ceiling : Int) : FormulasEnd environment (Evaluate.Leveled ceiling) where
  grounded := Evaluate.leveled_grounded
  stacked := fun _ leveled => ⟨leveled.limit, leveled.closures⟩
  evaluated := by
    intro formula context machine leveled
    have ends : Tracks False (Evaluate.Leveled ceiling)
        (Evaluate.evaluate environment ((ceiling + 2).toNat + 1) formula context (.int 0)) _ :=
      Evaluate.tracks_evaluate_top (Evaluate.leveled_grounded.tolerant _) fun present _ =>
        Evaluate.plain_node_ends confined _ 0 (by omega) (Nat.succ_pos _) present context
    exact ⟨_, Result.lands_of_tracks (ends machine leveled)⟩
  invoked := by
    intro handle arguments machine leveled
    have ends : Tracks False (Evaluate.Leveled ceiling)
        (Evaluate.invoke
          (Evaluate.evaluateNode environment ((ceiling + 2).toNat + 1)) handle arguments) _ :=
      Evaluate.tracks_invoke_of_levels handle arguments fun next formula inner =>
        Evaluate.plain_node_ends confined _ next (by omega) (Nat.succ_pos _) formula inner
    exact ⟨_, Result.lands_of_tracks (ends machine leveled)⟩

/-- Rings: triggers its own event once. -/
def ring : ActionHandler := fun _ site =>
  Plan.resume site.trigger (.text "rung") .null .done

/-- A workflow that triggers itself, rings and calls back when it hears the ring. -/
def echo : Workflow :=
  { name := .text "echo"
    actions := [.triggerWorkflow "echo" []
      [.mk "heard" [.triggerWorkflow "echo" [] [] .null .null]] .null .null,
      .custom "ring" .null [] [.mk "rung" [.triggerWorkflowCallback "heard" none]],
      .setVariable "count" (some (.value (.int 1)))]
    parameters := [], callbacks := ["heard"], isExposed := false }

def echoInstance : Instance :=
  { signal := 0
    registry :=
      { formulas := Catalog.empty
        actions := { packages := [(Catalog.root, [(.text "ring", some ring)])], legacy := [] } }
    component := some { Component.ofFormulas "hall" [] with workflows := [("echo", echo)] }
    package := .null, apis := [], scope := none, triggerEvent := none, setUrlParameters := none
    root := .null, overlay := .mapping [], logErrors := false }

def echoSetting : Setting :=
  { instances := fun _ => echoInstance, formulaFuel := 0 }

/-- Two signals, of which the older one is changed whenever the younger one is. -/
def echoWorld : World :=
  { cells := #[Signal.Cell.fresh (.mapping []) none,
      { Signal.Cell.fresh .null none with
        subscribers :=
          [{ number := 0, reaction := .call fun content => .write 0 content .done, release := .nothing }] }]
    nextSubscription := 1
    host :=
      { machine := { Machine.lone { groups := (Limits.ofFormulaDepth 9).groups ++
            [("action", { label := "ActionLimits", ceilings := [("max_depth", .int 4)] })] } 10
            with cycleStacks := #[] }
        workflows := #[Cycle.Workflow.empty (.int 1000)]
        continuations := #[], promises := #[], queue := [], hasLoop := false, scopes := [] } }

def echoTerms : Terms :=
  { order :=
      { base := 2
        rank := fun signal => if signal = 0 then 1 else if signal = 1 then 0 else signal
        early := by
          intro signal inside
          split
          · omega
          · split <;> omega
        late := by
          intro signal later
          split
          · omega
          · split <;> omega }
    ceiling := 4
    sound := Evaluate.Leveled 9 }

theorem echo_well_mannered : WellMannered echoSetting echoTerms where
  formulas := by
    refine formulas_end_of_confined (fun host => ?_) 9
    refine Environment.confined_of_registered ?_ (fun _ member => by cases member)
    rintro handler ⟨package, table, name, inside, member⟩
    cases inside
  handlers := by
    intro host handler registered entries site
    have known : handler = ring := by
      obtain ⟨name, package, found, resolved | resolved⟩ := registered
      · rcases Catalog.resolve_cases resolved with
          ⟨entry, holder, same, package, table, key, inside, member⟩ | ⟨key, entry, same, member⟩
        · cases same
          obtain ⟨rfl, rfl⟩ : package = Catalog.root ∧ table = [(.text "ring", some ring)] := by
            simpa [echoSetting, echoInstance] using inside
          have found : (key, some handler) ∈ [(Scalar.text "ring", some ring)] := member
          simp only [List.mem_singleton, Prod.mk.injEq, Option.some.injEq] at found
          exact found.2
        · cases same
      · rcases Catalog.resolve_cases resolved with ⟨entry, holder, same, _⟩ |
          ⟨key, entry, same, member⟩
        · cases same
        · cases member
    subst known
    refine .perform (fun continuation event payload same => by cases same; rfl) fun outcome => ?_
    cases outcome with
    | ok content => exact .finish fun plan same => by cases same
    | error failure => exact .fail failure
  fetches := fun _ _ _ found => by cases found
  cancels := fun _ _ _ _ found => by cases found
  events := fun _ _ given => by cases given
  addresses := fun _ _ given => by cases given

theorem echo_calm : Calm echoTerms [] (0 ≤ ·) echoWorld where
  sound := ⟨rfl, fun _ _ found => by cases found⟩
  limit := rfl
  known := fun _ member => by cases member
  cells := by
    intro number cell found
    rcases number with _ | _ | number
    · cases found
      exact ⟨fun _ member => (by cases member), fun _ member => (by cases member), fun _ same => by cases same⟩
    · cases found
      refine ⟨fun subscriber member => ?_, fun subscriber member => ?_, fun _ same => by cases same⟩
      · rw [List.mem_singleton.mp member]
        exact fun content => .write (by decide) (.finish _)
      · rw [List.mem_singleton.mp member]
        trivial
    · cases found
  based := by decide
  sized := Nat.zero_le _
  promises := fun _ _ _ found => by simp [echoWorld] at found

/-- The workflow ends at the ceiling long before it has run as often as it may. -/
theorem echo_ends_within_ceiling :
    ∃ result least, result ≠ .exhausted ∧ ∀ formulaFuel fuel, least ≤ formulaFuel → least ≤ fuel →
      execute { echoSetting with formulaFuel := formulaFuel } fuel (echo.actions.map Entry.action)
        (echoSetting.contextOf 0) .null .none (.int 0) echoWorld = result ∧
      (watchedPowers { echoSetting with formulaFuel := formulaFuel } (WithinCeiling 4) fuel).execute
        (echo.actions.map Entry.action) (echoSetting.contextOf 0) .null .none
        (.int 0) echoWorld = result := by
  have outermost : Outermost echoTerms .none := trivial
  exact execution_ends_within_ceiling echo_well_mannered echo_calm outermost
    (echo.actions.map Entry.action) (echoSetting.contextOf 0) .null 0

end Execute
end Interplay
