import Interplay.Proofs.Execute.Registration

/-!
Executions keep the books.

Every action does what it does without a ledger and keeps the books, however deep lists and host
code nest.
-/

namespace Interplay
namespace Execute

open Run
open Signal (Agenda LeadsFrom Observed Observes leads_from_modify_bind)

section Machine

variable {setting : Setting} {opened : World} {context : ActionContext} {event : Value}
  {first : Runners (Observed Announcement Stage)} {second : Runners}

theorem books_of_formula_context :
    KeepsBooks setting opened (formulaContext setting context event)
      (formulaContext setting context event) :=
  .get_bind fun _ => .bind (.of_except _) fun _ => .on_machine _

theorem books_of_evaluate_for (formula : Option Formula) :
    KeepsBooks setting opened (evaluateFor setting ⟨.written setting, first⟩ context event formula)
      (evaluateFor setting ⟨.silent setting, second⟩ context event formula) :=
  .bind books_of_formula_context fun _ => .on_machine _

theorem books_of_collect (inner : Context) (named : List NamedFormula) (entries : Entries) :
    KeepsBooks setting opened (collectValues ((Means.written setting).evaluate inner) named entries)
      (collectValues ((Means.silent (υ := Stage) setting).evaluate inner) named entries) := by
  induction named generalizing entries with
  | nil => exact .pure entries
  | cons one rest ih =>
      exact .choose (fun _ => ih entries) fun _ => .bind (.on_machine _) fun _ => ih _

theorem books_of_named_values (named : List NamedFormula) :
    KeepsBooks setting opened (namedValues setting ⟨.written setting, first⟩ context event named)
      (namedValues setting ⟨.silent setting, second⟩ context event named) :=
  .bind books_of_formula_context fun inner => books_of_collect inner named []

theorem books_of_select (inner : Context) (fallback : Option (List Action))
    (branches : List ActionCase) :
    KeepsBooks setting opened
      (selectCase ((Means.written setting).evaluate inner) fallback branches)
      (selectCase ((Means.silent (υ := Stage) setting).evaluate inner) fallback branches) := by
  induction branches with
  | nil => exact .pure fallback
  | cons branch rest ih =>
      exact .bind (.on_machine _) fun _ => .choose (fun _ => .pure _) fun _ => ih

theorem books_of_new_continuation (continuation : Continuation) :
    KeepsBooks setting opened (newContinuation continuation) (newContinuation continuation) where
  observes := fun _ => rfl
  proceeds := by
    intro debts agenda start orderly last left
    cases left
    exact ⟨orderly.rehosted (orderly.lawful.rehosted rfl rfl rfl), List.prefix_refl _⟩

theorem books_of_enqueue {job : Job} (nobody : job.start? = none) :
    KeepsBooks setting opened (Run.modify (World.enqueue job))
      (Run.modify (World.enqueue job)) where
  observes := Recounts.modify fun _ => rfl
  proceeds := by
    intro debts agenda start orderly
    have accounts := orderly.lawful.accounts
    have queued :=
      (IsTidy.of_orderly orderly).staged fun stage => { stage with queue := stage.queue ++ [job] }
    exact Signal.leads_from_modify
      (queued.orderly ⟨accounts.pledged, accounts.worked.enqueued nobody⟩) (List.prefix_refl _)

/-- Work that nobody awaits is queued, or dropped. -/
theorem books_of_spawn (plan : Plan) :
    KeepsBooks setting opened (spawn plan none) (spawn plan none) :=
  .get_bind fun _ => .choose (fun _ => books_of_enqueue rfl) fun _ => .warn _

theorem books_of_find_workflow (name : String) (provider package : Value) :
    KeepsBooks setting opened (findWorkflow setting context name provider package)
      (findWorkflow setting context name provider package) := by
  unfold findWorkflow
  refine .choose (fun _ => .get_bind fun _ => .bind (.of_except _) fun provided => ?_) fun _ => ?_
  · cases provided with
    | none => exact .bind (.warn _) fun _ => .pure none
    | some number =>
        dsimp only
        cases (setting.instances number).component.bind fun component =>
          Keyed.find? name component.workflows with
        | none => exact .bind (.warn _) fun _ => .pure none
        | some workflow =>
            exact .choose (fun _ => .pure _) fun _ => .bind (.warn _) fun _ => .pure none
  · dsimp only
    cases (setting.instances context.host).component.bind fun component =>
      Keyed.find? name component.workflows with
    | none => exact .bind (.warn _) fun _ => .pure none
    | some workflow => exact .pure _

theorem books_of_record_failure (kind : String) (index : Nat) (failure : Failure) :
    KeepsBooks setting opened (recordFailure setting context kind index failure)
      (recordFailure setting context kind index failure) := by
  refine .get_bind fun ledger => ?_
  cases failure with
  | fault fault => exact .bind (.warn _) fun _ => .on_machine _
  | mishap mishap => exact .bind (.log _ _) fun _ => .on_machine _

end Machine

section Actions

variable {setting : Setting} {opened : World} {first : Runners (Observed Announcement Stage)}
  {second : Runners}
  (keep : KeepBooks setting opened first second) {context : ActionContext}
  {event : Value} {dispatch : Dispatch} {depth : Value}

include keep

theorem books_of_below (actions : List Action) :
    KeepsBooks setting opened
      (Powers.executeBelow ⟨.written setting, first⟩ actions context event dispatch depth)
      (Powers.executeBelow ⟨.silent setting, second⟩ actions context event dispatch depth) :=
  .bind (.of_except _) fun _ => keep.executes _ _ _ _ _

theorem books_of_write (signal : Nat) (content : Value) :
    KeepsBooks setting opened (Staged.write first.call signal content)
      (Staged.write second.call signal content) :=
  ⟨Signal.observes_write keep.observes signal content,
    fun debts => Signal.proceeds_write (keep.answers debts) signal content⟩

theorem books_of_set_variable (name : String) (data : Option Formula) :
    KeepsBooks setting opened
      (setVariable setting ⟨.written setting, first⟩ context event name data)
      (setVariable setting ⟨.silent setting, second⟩ context event name data) := by
  refine .bind (books_of_evaluate_for data) fun content => .get_bind fun ledger => .bind
    (.of_except _) fun changed => ?_
  refine .bind (books_of_write keep _ changed) fun _ => ?_
  exact .modify_stage (fun stage => { stage with
    machine := stage.machine.modifyHost context.host fun state =>
      { state with memo := state.memo.map fun _ => Memo.empty } }) (fun _ => rfl)
        (fun _ => rfl) fun _ => rfl

theorem books_of_trigger_event (name : String) (data : Option Formula) :
    KeepsBooks setting opened
      (triggerEvent setting ⟨.written setting, first⟩ context event name data)
      (triggerEvent setting ⟨.silent setting, second⟩ context event name data) := by
  unfold triggerEvent
  cases (setting.instances context.host).triggerEvent with
  | none => exact .warn _
  | some run => exact .bind (books_of_evaluate_for data) fun _ => books_of_perform keep _

theorem books_of_switch (branches : List ActionCase) (fallback : Option (List Action)) :
    KeepsBooks setting opened
      (runSwitch setting ⟨.written setting, first⟩ context event dispatch depth branches fallback)
      (runSwitch setting ⟨.silent setting, second⟩ context event dispatch depth
        branches fallback) := by
  refine .bind books_of_formula_context fun inner => .bind
    (books_of_select inner fallback branches) fun selected => ?_
  cases selected with
  | some actions => exact books_of_below keep actions
  | none => exact .pure ()

theorem books_of_fetch (name : String) (inputs : List NamedFormula)
    (onSuccess onError onMessage : List Action) :
    KeepsBooks setting opened
      (runFetch setting ⟨.written setting, first⟩ context event dispatch depth name inputs
        onSuccess onError onMessage)
      (runFetch setting ⟨.silent setting, second⟩ context event dispatch depth name
        inputs onSuccess onError onMessage) := by
  unfold runFetch
  cases Keyed.find? name (setting.instances context.host).apis with
  | none => exact .warn _
  | some api =>
      refine .bind (books_of_new_continuation _) fun success => .bind
        (books_of_new_continuation _) fun error => ?_
      refine .bind (books_of_new_continuation _) fun message => .bind
        (books_of_named_values inputs) fun entries => ?_
      refine .bind (keep.calls _) fun answer => ?_
      cases answer with
      | deferred plan => exact books_of_spawn plan
      | value content => exact .pure ()
      | cleanup plan => exact .pure ()
      | promise number => exact .pure ()

theorem books_of_abort (name : String) :
    KeepsBooks setting opened (abortFetch setting ⟨.written setting, first⟩ context name)
      (abortFetch setting ⟨.silent setting, second⟩ context name) := by
  unfold abortFetch
  cases Keyed.find? name (setting.instances context.host).apis with
  | none => exact .pure ()
  | some api =>
      dsimp only
      cases api.cancel with
      | none => exact .pure ()
      | some plan => exact books_of_perform keep plan

theorem books_of_url_parameter (name : String) (data : Option Formula) (mode : Value) :
    KeepsBooks setting opened
      (setUrlParameter setting ⟨.written setting, first⟩ context event name data mode)
      (setUrlParameter setting ⟨.silent setting, second⟩ context event name data mode) := by
  unfold setUrlParameter
  cases (setting.instances context.host).setUrlParameters with
  | none => exact .warn _
  | some run => exact .bind (books_of_evaluate_for data) fun _ => books_of_perform keep _

theorem books_of_url_parameters (parameters : List NamedFormula) (mode : Value) :
    KeepsBooks setting opened
      (setUrlParameters setting ⟨.written setting, first⟩ context event parameters mode)
      (setUrlParameters setting ⟨.silent setting, second⟩ context event parameters mode) := by
  unfold setUrlParameters
  cases (setting.instances context.host).setUrlParameters with
  | none => exact .warn _
  | some run => exact .bind (books_of_named_values parameters) fun _ => books_of_perform keep _

theorem books_of_workflow (name : String) (parameters : List NamedFormula)
    (callbacks : List ActionBody) (provider package : Value) :
    KeepsBooks setting opened
      (runWorkflow setting ⟨.written setting, first⟩ context event dispatch depth name
        parameters callbacks provider package)
      (runWorkflow setting ⟨.silent setting, second⟩ context event dispatch depth name
        parameters callbacks provider package) := by
  refine .bind (books_of_find_workflow name provider package) fun found => ?_
  cases found with
  | none => exact .pure ()
  | some found =>
      refine .bind (books_of_named_values parameters) fun entries => .bind
        (.of_except _) fun overlay => ?_
      exact .workflow _ _ (.trail _ _ _ (books_of_below keep _))

theorem books_of_dispatch (name : String) (content : Value) (dispatch : Dispatch) :
    KeepsBooks setting opened (dispatchCallback ⟨.written setting, first⟩ name content dispatch)
      (dispatchCallback ⟨.silent setting, second⟩ name content dispatch) := by
  cases dispatch with
  | none => exact .pure ()
  | external run => exact books_of_perform keep _
  | caller workflow callbacks context outer depth =>
      unfold dispatchCallback
      dsimp only
      cases ActionBody.find? name callbacks with
      | none => exact .warn _
      | some actions => exact books_of_below keep actions

theorem books_of_callback (name : String) (data : Option Formula) :
    KeepsBooks setting opened
      (runCallback setting ⟨.written setting, first⟩ context event dispatch name data)
      (runCallback setting ⟨.silent setting, second⟩ context event dispatch name data) := by
  cases dispatch with
  | none => exact .warn _
  | external run => exact .bind (books_of_evaluate_for data) fun _ => books_of_dispatch keep _ _ _
  | caller workflow callbacks context outer depth =>
      exact .bind (books_of_evaluate_for data) fun _ => books_of_dispatch keep _ _ _

theorem books_of_answer (answer : Signal.Answer Effect) :
    KeepsBooks setting opened
      ((Means.written setting).heed (.returned context answer) >>= fun _ =>
        registerAnswer setting ⟨.written setting, first⟩ context answer)
      (registerAnswer setting ⟨.silent setting, second⟩ context answer) where
  observes := Signal.observes_announce _ (observes_answer keep context answer)
  proceeds := fun _ _ _ orderly => leads_from_modify_bind (List.prefix_append _ _)
    (leads_from_answer keep (.of_orderly orderly) orderly.lawful.accounts)

theorem books_of_custom (name : String) (declared : Value) (arguments : List NamedFormula)
    (events : List ActionBody) :
    KeepsBooks setting opened
      (runCustom setting ⟨.written setting, first⟩ context event dispatch depth name
        declared arguments events)
      (runCustom setting ⟨.silent setting, second⟩ context event dispatch depth name
        declared arguments events) := by
  refine .bind (.of_except _) fun resolution => ?_
  cases resolution with
  | none => exact .warn _
  | some resolution =>
      refine .bind (books_of_new_continuation _) fun trigger => .bind
        (books_of_named_values arguments) fun entries => ?_
      exact .bind (keep.calls _) fun answer => books_of_answer keep answer

theorem books_of_action (action : Action) :
    KeepsBooks setting opened
      (runAction setting ⟨.written setting, first⟩ context event dispatch depth action)
      (runAction setting ⟨.silent setting, second⟩ context event dispatch depth action) := by
  cases action with
  | setVariable name data => exact books_of_set_variable keep name data
  | triggerEvent name data => exact books_of_trigger_event keep name data
  | switch cases fallback data => exact books_of_switch keep cases fallback
  | fetch name inputs onSuccess onError onMessage =>
      exact books_of_fetch keep name inputs onSuccess onError onMessage
  | abortFetch name => exact books_of_abort keep name
  | custom name package arguments events => exact books_of_custom keep name package arguments events
  | setUrlParameter name data mode => exact books_of_url_parameter keep name data mode
  | setUrlParameters parameters mode => exact books_of_url_parameters keep parameters mode
  | triggerWorkflow name parameters callbacks provider package =>
      exact books_of_workflow keep name parameters callbacks provider package
  | triggerWorkflowCallback name data => exact books_of_callback keep name data

omit keep in
theorem dispatched_is_idle (host : Nat) (kind : String) (succeeded : Bool) :
    (Announcement.dispatched host kind succeeded).IsIdle :=
  ⟨fun _ _ delivers => (by cases delivers), fun _ _ same => by cases same⟩

theorem books_of_guarded (index : Nat) (action : Action) :
    KeepsBooks setting opened
      (runGuarded setting ⟨.written setting, first⟩ context event dispatch depth index action)
      (runGuarded setting ⟨.silent setting, second⟩ context event dispatch depth index action) := by
  refine .get_bind fun before => .bind
    (.trail _ _ _ (.bind (books_of_action keep action).attempt fun outcome => ?_))
    fun succeeded => .get_bind fun after => .on_machine _
  refine .bind (.heed (dispatched_is_idle _ _ _) ⟨fun _ => rfl, fun _ => rfl, rfl, rfl, rfl, rfl⟩)
    fun _ => ?_
  cases outcome with
  | ok done => exact .pure true
  | error failure => exact .bind (books_of_record_failure _ _ failure) fun _ => .pure false

theorem books_of_entry (index : Nat) (entry : Entry) :
    KeepsBooks setting opened
      (runEntry setting ⟨.written setting, first⟩ context event dispatch depth index entry)
      (runEntry setting ⟨.silent setting, second⟩ context event dispatch depth index entry) := by
  cases entry with
  | action action => exact books_of_guarded keep index action
  | persisted source =>
      refine .bind (.of_except _) fun found => ?_
      cases found with
      | some action => exact books_of_guarded keep index action
      | none => exact .warn _

omit keep in
theorem books_of_list {body : Run Ledger Unit} {plain : Run World Unit}
    (keeps : KeepsBooks setting opened body plain) :
    KeepsBooks setting opened (runList context depth body) (runList context depth plain) := by
  refine .get_bind fun ledger => ?_
  rw [machine_of_plain]
  cases (World.machine ledger).limits.check "action" "max_depth" depth with
  | error failure =>
      cases failure with
      | fault fault => exact .bind (.log _ _) fun _ => .on_machine _
      | mishap mishap => exact .raise _
  | ok permitted => exact .choose (fun _ => .timed _ _ _ _ keeps) fun _ => keeps

theorem books_of_execution (entries : List Entry) :
    KeepsBooks setting opened
      (executeWith setting ⟨.written setting, first⟩ entries context event dispatch depth)
      (executeWith setting ⟨.silent setting, second⟩ entries context event dispatch depth) :=
  books_of_list (.for_each_indexed (fun index entry => books_of_entry keep index entry) 0 entries)

theorem books_of_resume (number : Nat) (event payload : Value) :
    KeepsBooks setting opened (resume ⟨.written setting, first⟩ number event payload)
      (resume ⟨.silent setting, second⟩ number event payload) := by
  refine .get_bind fun ledger => ?_
  rw [stage_of_plain]
  cases (World.stage ledger).continuations[number]? with
  | none => exact .pure ()
  | some continuation =>
      cases continuation with
      | body actions context dispatch depth => exact books_of_below keep actions
      | emitter action events context dispatch depth =>
          refine .bind (.of_except _) fun key => ?_
          cases key with
          | text name =>
              dsimp only
              cases ActionBody.find? name events with
              | none => exact .warn _
              | some actions => exact books_of_below keep actions
          | _ => exact .warn _

theorem books_of_effect (effect : Effect) :
    KeepsBooks setting opened (performEffect ⟨.written setting, first⟩ effect)
      (performEffect ⟨.silent setting, second⟩ effect) := by
  cases effect with
  | note note =>
      refine ⟨fun _ => rfl, fun debts agenda start orderly last left => ?_⟩
      cases left
      exact ⟨orderly.rehosted (orderly.lawful.rehosted rfl rfl rfl), List.prefix_refl _⟩
  | advance seconds => exact .bind (.on_machine _) fun _ => .pure Value.null
  | resume number event payload =>
      exact .bind (books_of_resume keep number event payload) fun _ => .pure Value.null
  | invoke handle arguments => exact .on_machine _
  | promise => exact books_of_promise

end Actions

/-- Nested lists and host code keep the books, however deep they nest. -/
theorem runners_keep_books (setting : Setting) (opened : World) (fuel : Nat) :
    KeepBooks setting opened (runnersWith setting (.written setting) fuel)
      (runnersWith setting (.silent setting) fuel) := by
  induction fuel with
  | zero =>
      refine ⟨fun _ _ => rfl, fun debts plan agenda start orderly last left => ?_,
        fun _ _ _ _ _ => .exhaust⟩
      cases left
  | succ fuel ih =>
      refine ⟨fun plan => ?_, fun debts plan agenda start orderly => ?_,
        fun entries _ _ _ _ => books_of_execution ih entries⟩
      · exact Signal.observes_announce _
          (Signal.observes_script ih.observes
            (fun effect => (books_of_effect ih effect).observes) plan)
      · refine leads_from_modify_bind (List.prefix_append _ _) ?_
        exact Signal.proceeds_script (ih.answers debts)
          (fun effect => (books_of_effect ih effect).proceeds debts) plan agenda _ orderly

end Execute
end Interplay
