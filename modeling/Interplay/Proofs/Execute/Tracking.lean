import Interplay.Execute.Deferred
import Interplay.Proofs.Evaluate.Watch
import Interplay.Proofs.Signal.Tracking
import Interplay.Proofs.Traversal.Bodies

/-!
Actions under two ways to run nested lists and host code.

A frame says which instances may act, which variables each may set, and which signals host code may
write.  If nested lists and host code that stay in a frame track each other under two powers, then
so does every action that stays in it.  Everything that is put aside to be run later is asked to
stay in the frame when it is put aside, so it does when it is taken up again.
-/

namespace Interplay
namespace Execute

open Run

/-- Who may act, which variables each may set, and which signals host code may write. -/
structure Frame where
  active : Nat → Prop
  assigns : Nat → String → Prop
  free : Nat → Prop

def Frame.whole : Frame :=
  { active := fun _ => True, assigns := fun _ _ => True, free := fun _ => True }

/-- Handlers, APIs and other callables of all instances spare signals. -/
structure Setting.Spares (setting : Setting) (free : Nat → Prop) : Prop where
  handlers : ∀ host name package handler found,
    ((setting.instances host).registry.actions.resolve name package = .ok
      (some (.versioned handler found)) ∨
      (setting.instances host).registry.actions.resolve name package = .ok
      (some (.legacy handler found))) →
    ∀ arguments site, (handler arguments site).Spares free
  fetches : ∀ host name api, Keyed.find? name (setting.instances host).apis = some api →
    ∀ inputs callbacks, (api.fetch inputs callbacks).Spares free
  cancels : ∀ host name api plan, Keyed.find? name (setting.instances host).apis = some api →
    api.cancel = some plan → plan.Spares free
  events : ∀ host run, (setting.instances host).triggerEvent = some run →
    ∀ name content, (run name content).Spares free
  urls : ∀ host run, (setting.instances host).setUrlParameters = some run →
    ∀ entries mode, (run entries mode).Spares free

def Entry.Reads (action : Action) : Entry → Prop
  | .persisted source => Action.read source = .ok (some action)
  | .action given => given = action

namespace Frame

variable (frame : Frame)

/-- A host that may act, and may set what a list of actions sets. -/
def Permits (actions : List Action) (host : Nat) : Prop :=
  frame.active host ∧ ∀ name, Action.Sets name actions → frame.assigns host name

def PermitsEntries (entries : List Entry) (host : Nat) : Prop :=
  frame.active host ∧
    ∀ entry ∈ entries, ∀ action, entry.Reads action →
    ∀ name, Action.Sets name [action] → frame.assigns host name

/-- Callbacks that stay in the frame wherever they are sent. -/
def Sends : Dispatch → Prop
  | .none => True
  | .external run => ∀ name content, (run name content).Spares frame.free
  | .caller _ callbacks context outer _ =>
    (∀ callback ∈ callbacks, frame.Permits callback.actions context.host) ∧ Sends outer

def Resumes : Continuation → Prop
  | .emitter _ events context dispatch _ =>
    (∀ event ∈ events, frame.Permits event.actions context.host) ∧ frame.Sends dispatch
  | .body actions context dispatch _ => frame.Permits actions context.host ∧ frame.Sends dispatch

def Queues : Job → Prop
  | .start plan _ => plan.Spares frame.free
  | .finished _ => True

/-- Host code spares signals, and workflows stay in the frame wherever they can be reached from. -/
structure Governs (setting : Setting) : Prop extends setting.Spares frame.free where
  workflows : ∀ host component name workflow, (setting.instances host).component = some component →
    Keyed.find? name component.workflows = some workflow → frame.active host ∨
    workflow.isExposed = true →
    frame.Permits workflow.actions host

/-- An invariant of the world that is kept by every change of it that stays in the frame. -/
structure Upholds (setting : Setting) (invariant : World → Prop) : Prop where
  signals : Signal.Upheld frame.free invariant
  books : ∀ host world, frame.active host → invariant world →
    Machine.Tolerant host fun machine => invariant (world.setMachine machine)
  noted : ∀ world change, invariant world →
    invariant (world.modifyMachine (Machine.modifyJournal change))
  stacked : ∀ world, invariant world → invariant (world.setMachine world.machine.newStack.2)
  assigned : ∀ world host name content changed, invariant world → frame.active host →
    frame.assigns host name →
    assign name content (world.cell (setting.instances host).signal).content = .ok changed →
    invariant (world.modifyCell (setting.instances host).signal fun cell =>
      { cell with content := changed })
  continued : ∀ world continuation, invariant world → frame.Resumes continuation →
    invariant (world.newContinuation continuation).2
  resumed : ∀ world (number : Nat) continuation, invariant world →
    world.host.continuations[number]? = some continuation → frame.Resumes continuation
  promised : ∀ world, invariant world → invariant world.newPromise.2
  awaited : ∀ world number context, invariant world → invariant (world.modifyStage fun stage =>
    { stage with promises := stage.promises.modify number fun promise =>
        { promise with waiting := promise.waiting ++ [context] } })
  settled : ∀ world number settlement, invariant world →
    (∀ plan, settlement = .cleanup plan → plan.Spares frame.free) →
    invariant (world.modifyStage fun stage =>
      { stage with promises := stage.promises.modify number fun _ =>
          { waiting := [], settlement := some settlement } })
  cleanups : ∀ world (number : Nat) promise plan, invariant world →
    world.host.promises[number]? = some promise →
    promise.settlement = some (.cleanup plan) → plan.Spares frame.free
  enqueued : ∀ world job, invariant world → frame.Queues job → invariant (world.enqueue job)
  queued : ∀ world job, invariant world → job ∈ world.host.queue → frame.Queues job
  dequeued : ∀ world job rest, invariant world → world.host.queue = job :: rest →
    invariant (world.modifyStage fun stage => { stage with queue := rest })

variable {frame}

theorem Permits.entries {actions : List Action} {host : Nat}
    (permits : frame.Permits actions host) :
    frame.PermitsEntries (actions.map Entry.action) host := by
  refine ⟨permits.1, fun entry member action reads name sets => ?_⟩
  obtain ⟨given, listed, rfl⟩ := List.mem_map.mp member
  cases reads
  exact permits.2 name (Action.sets_of_member listed sets)

theorem Permits.body {action : Action} {body : List Action} {host : Nat}
    (permits : frame.Permits [action] host)
    (member : body ∈ action.bodies) : frame.Permits body host :=
  ⟨permits.1, fun name sets => permits.2 name (Action.sets_of_body member sets)⟩

theorem permits_found {name : String} {events : List ActionBody}
    {actions : List Action} {host : Nat}
    (permits : ∀ event ∈ events, frame.Permits event.actions host)
    (found : ActionBody.find? name events = some actions) : frame.Permits actions host := by
  obtain ⟨event, member, rfl⟩ := Action.body_of_find found
  exact permits event member

/-- In the frame that leaves everything out of account, everything is permitted. -/
theorem whole_permits (actions : List Action) (host : Nat) : whole.Permits actions host :=
  ⟨trivial, fun _ _ => trivial⟩

theorem whole_spares (plan : Plan) : plan.Spares whole.free :=
  plan.spares_of_free fun _ => trivial

theorem whole_sends : (dispatch : Dispatch) → whole.Sends dispatch
  | .none => trivial
  | .external run => fun name content => whole_spares (run name content)
  | .caller _ _ _ outer _ => ⟨fun _ _ => whole_permits _ _, whole_sends outer⟩

theorem whole_resumes : (continuation : Continuation) → whole.Resumes continuation
  | .emitter _ _ _ dispatch _ => ⟨fun _ _ => whole_permits _ _, whole_sends dispatch⟩
  | .body _ _ dispatch _ => ⟨whole_permits _ _, whole_sends dispatch⟩

theorem whole_queues : (job : Job) → whole.Queues job
  | .start plan _ => whole_spares plan
  | .finished _ => trivial

theorem whole_spares_cell (cell : Signal.Cell Effect) : cell.Spares whole.free where
  reactions subscriber _ := by
    cases subscriber.reaction with
    | call run => exact fun content => whole_spares (run content)
    | feed target transform => exact ⟨trivial, fun content => whole_spares (transform content)⟩
  releases subscriber _ := by
    cases subscriber.release with
    | nothing => trivial
    | call run => exact whole_spares run
    | destroy signal => trivial
  onDestroy script _ := whole_spares script

theorem whole_governs (setting : Setting) : whole.Governs setting where
  handlers _ _ _ _ _ _ _ _ := whole_spares _
  fetches _ _ _ _ _ _ := whole_spares _
  cancels _ _ _ _ _ _ := whole_spares _
  events _ _ _ _ _ := whole_spares _
  urls _ _ _ _ _ := whole_spares _
  workflows _ _ _ _ _ _ _ := whole_permits _ _

end Frame

/-- What the actions of a setting rest on, apart from what they hand over. -/
structure Backing (lost : Prop) (setting : Setting) (frame : Frame) (invariant : World → Prop)
    (first second : Means := .silent setting) : Prop where
  upholds : frame.Upholds setting invariant
  governs : frame.Governs setting
  evaluates : ∀ context formula, frame.active context.host →
    Tracks lost invariant (first.evaluate context formula) (second.evaluate context formula)
  invokes : ∀ handle arguments, Tracks lost invariant (first.invoke handle arguments)
    (second.invoke handle arguments)
  heeds : ∀ announcement, Tracks lost invariant (first.heed announcement) (second.heed announcement)

structure Handover (lost : Prop) (setting : Setting) (frame : Frame) (invariant : World → Prop)
    (first second : Powers) : Prop extends
      Backing lost setting frame invariant first.toMeans second.toMeans where
  serves : Signal.Serves lost frame.free invariant first.call second.call
  executes : ∀ entries context event dispatch depth, frame.PermitsEntries entries context.host →
    frame.Sends dispatch →
    Tracks lost invariant (first.execute entries context event dispatch depth)
      (second.execute entries context event dispatch depth)

section Steps

variable {lost : Prop} {setting : Setting} {frame : Frame} {invariant : World → Prop}

theorem tracks_on_machine {α : Type} {body other : Run Machine α}
    (tracks : ∀ world, invariant world →
      Tracks lost (fun machine => invariant (world.setMachine machine)) body other) :
    Tracks lost invariant (onMachine body) (onMachine other) :=
  tracks_zoom (fun _ => rfl) tracks

theorem tracks_world_log (upholds : frame.Upholds setting invariant)
    (level : LogLevel) (message : String) :
    Tracks lost invariant (modify (World.log level message)) (modify (World.log level message)) :=
  tracks_modify fun world holds => upholds.noted world _ holds

theorem tracks_warn (upholds : frame.Upholds setting invariant) (message : String) :
    Tracks lost invariant (warn message) (warn message) :=
  tracks_world_log upholds .warning message

theorem tracks_on_books (upholds : frame.Upholds setting invariant) {host : Nat}
    (active : frame.active host) {α : Type} {body : Run Machine α}
    (tracks : ∀ kept : Machine → Prop, Machine.Tolerant host kept → Tracks lost kept body body) :
    Tracks lost invariant (onMachine body) (onMachine body) :=
  tracks_on_machine fun world holds => tracks _ (upholds.books host world active holds)

theorem tracks_formula_context (upholds : frame.Upholds setting invariant)
    (context : ActionContext) (event : Value) :
    Tracks lost invariant (formulaContext setting context event)
      (formulaContext setting context event) := by
  refine tracks_bind tracks_get fun world => tracks_bind (tracks_of_except _) fun data => ?_
  exact fun world holds => ⟨rfl, upholds.stacked world holds⟩

theorem yields_formula_context (context : ActionContext) (event : Value) :
    Yields invariant (fun inner => inner.host = context.host)
      (formulaContext setting context event) := by
  intro world inner after _ ended
  obtain ⟨seen, reached, _, ended⟩ := done_of_bind ended
  obtain ⟨data, last, _, ended⟩ := done_of_bind ended
  cases ended
  rfl

theorem tracks_spawn (upholds : frame.Upholds setting invariant) {plan : Plan}
    (spares : plan.Spares frame.free)
    (awaiting : Option ActionContext) : Tracks lost invariant (spawn plan awaiting)
    (spawn plan awaiting) := by
  refine tracks_bind tracks_get fun world => ?_
  split
  · exact tracks_modify fun world holds => upholds.enqueued world _ holds spares
  · exact tracks_warn upholds _

theorem tracks_new_continuation (upholds : frame.Upholds setting invariant)
    {continuation : Continuation} (resumes : frame.Resumes continuation) :
    Tracks lost invariant (newContinuation continuation) (newContinuation continuation) :=
  fun world holds => ⟨rfl, upholds.continued world continuation holds resumes⟩

def Setting.Offers (setting : Setting) (number : Nat) (name : String) : Prop :=
  ((setting.instances number).component.bind fun component =>
    Keyed.find? name component.workflows).isSome = true

/-- A workflow that is found is one of its owner's, and stays in the frame for its owner. -/
theorem yields_workflow (governs : frame.Governs setting) {context : ActionContext}
    (active : frame.active context.host) (name : String) (provider package : Value) :
    Yields invariant (fun found => ∀ owner workflow, found = some (owner, workflow) →
        frame.Permits workflow.actions owner.host ∧ setting.Offers owner.host name)
      (findWorkflow setting context name provider package) := by
  have reached : ∀ host workflow, ((setting.instances host).component.bind fun component =>
      Keyed.find? name component.workflows) = some workflow → frame.active host ∨
        workflow.isExposed = true →
      frame.Permits workflow.actions host ∧ setting.Offers host name := by
    intro host workflow found reachable
    refine ⟨?_, Option.isSome_of_eq_some found⟩
    obtain ⟨component, present, found⟩ := Option.bind_eq_some_iff.mp found
    exact governs.workflows host component name workflow present found reachable
  have nothing : ∀ message : String, Yields invariant
        (fun found => ∀ owner workflow, found = some (owner, workflow) →
        frame.Permits workflow.actions owner.host ∧ setting.Offers owner.host name)
      (warn message >>= fun _ => pure (none : Option (ActionContext × Workflow))) := by
    intro message world found after _ ended
    cases ended
    intro owner workflow impossible
    cases impossible
  unfold findWorkflow
  dsimp only
  split
  · refine yields_get_bind fun world => ?_
    refine yields_of_except_bind fun provided _ => ?_
    cases provided with
    | none => exact nothing _
    | some number =>
        dsimp only
        split
        · rename_i workflow found
          split
          · rename_i exposed
            refine yields_pure fun owner body same => ?_
            cases same
            exact reached number _ found (.inr exposed)
          · exact nothing _
        · exact nothing _
  · split
    · rename_i workflow found
      refine yields_pure fun owner body same => ?_
      cases same
      exact reached context.host _ found (.inl active)
    · exact nothing _

theorem tracks_find_workflow (upholds : frame.Upholds setting invariant)
    (context : ActionContext) (name : String) (provider package : Value) :
    Tracks lost invariant (findWorkflow setting context name provider package)
      (findWorkflow setting context name provider package) := by
  have nothing : ∀ message : String, Tracks lost invariant
      (warn message >>= fun _ => pure (none : Option (ActionContext × Workflow)))
      (warn message >>= fun _ => pure none) :=
    fun message => tracks_bind (tracks_warn upholds message) fun _ => tracks_pure none
  unfold findWorkflow
  dsimp only
  split
  · refine tracks_bind tracks_get fun world => tracks_bind (tracks_of_except _) fun provided => ?_
    cases provided with
    | none => exact nothing _
    | some number =>
        dsimp only
        split
        · split
          · exact tracks_pure _
          · exact nothing _
        · exact nothing _
  · split
    · exact tracks_pure _
    · exact nothing _

end Steps

section Actions

variable {lost : Prop} {setting : Setting} {frame : Frame}
    {invariant : World → Prop} {first second : Powers}

theorem tracks_perform (serves : Signal.Serves lost frame.free invariant first.call second.call)
    {plan : Plan}
    (spares : plan.Spares frame.free) : Tracks lost invariant (first.perform plan)
    (second.perform plan) :=
  tracks_bind (serves.tracks plan spares) fun _ => tracks_pure ()

theorem tracks_on_destroy (upholds : frame.Upholds setting invariant)
    (serves : Signal.Serves lost frame.free invariant first.call second.call)
    (context : ActionContext) {cleanup : Plan} (spares : cleanup.Spares frame.free) :
    Tracks lost invariant (onDestroy setting first context cleanup)
      (onDestroy setting second context cleanup) := by
  refine tracks_bind tracks_get fun world => ?_
  dsimp only
  split
  · exact tracks_perform serves spares
  · refine tracks_bind (Signal.tracks_attach upholds.signals serves _ ?_ spares) fun _ =>
      tracks_pure ()
    exact fun _ => Signal.spares_done

theorem spares_callable {answer : Signal.Answer Effect}
    (spares : answer.Spares frame.free) {plan : Plan}
    (found : callable? answer = some plan) : plan.Spares frame.free := by
  unfold callable? at found
  split at found
  · cases found
    exact spares.cleanup _ rfl
  · cases found
    refine .perform fun outcome => ?_
    cases outcome with
    | ok content => exact .finish nofun nofun
    | error failure => exact .fail failure
  · cases found

theorem spares_result {settlement : Settlement}
    (spares : ∀ plan, settlement = .cleanup plan → plan.Spares frame.free)
    {answer : Signal.Answer Effect} (result : settlement.result? = some answer) :
    answer.Spares frame.free := by
  cases settlement with
  | cleanup plan =>
      cases result
      exact ⟨fun _ same => (by cases same; exact spares plan rfl), fun _ same => (by cases same)⟩
  | value content =>
      cases result
      exact ⟨fun _ same => (by cases same), fun _ same => (by cases same)⟩
  | failed => cases result
  | cancelled => cases result

theorem tracks_deliver (handover : Handover lost setting frame invariant first second)
    {settlement : Settlement}
    (spares : ∀ plan, settlement = .cleanup plan → plan.Spares frame.free)
    (context : ActionContext) :
    Tracks lost invariant (deliver setting first settlement context)
      (deliver setting second settlement context) := by
  unfold deliver
  cases found : settlement.result?.bind callable? with
  | none => exact tracks_pure ()
  | some plan =>
      refine tracks_bind
        (tracks_attempt (tracks_on_destroy handover.upholds handover.serves context ?_)) fun _ =>
        tracks_pure ()
      obtain ⟨answer, result, called⟩ := Option.bind_eq_some_iff.mp found
      exact spares_callable (spares_result spares result) called

theorem tracks_inform (handover : Handover lost setting frame invariant first second) (number : Nat)
    {settlement : Settlement} (spares : ∀ plan, settlement = .cleanup plan → plan.Spares frame.free)
    (context : ActionContext) :
    Tracks lost invariant (inform setting first number settlement context)
      (inform setting second number settlement context) :=
  tracks_bind (handover.heeds _) fun _ => tracks_deliver handover spares context

theorem tracks_await (handover : Handover lost setting frame invariant first second)
    (context : ActionContext) (number : Nat) :
    Tracks lost invariant (awaitPromise setting first context number)
      (awaitPromise setting second context number) := by
  refine tracks_get_bind fun world holds => ?_
  cases found : (world.stage.promises[number]?).bind Promise.settlement with
  | some settlement =>
      obtain ⟨promise, present, known⟩ := Option.bind_eq_some_iff.mp found
      refine tracks_inform handover number (fun plan same => ?_) context world holds
      subst same
      exact handover.upholds.cleanups world number promise plan holds present known
  | none =>
      exact tracks_modify
        (fun state kept => handover.upholds.awaited state number context kept) world holds

theorem tracks_register (handover : Handover lost setting frame invariant first second)
    (context : ActionContext) {answer : Signal.Answer Effect} (spares : answer.Spares frame.free) :
    Tracks lost invariant (registerAnswer setting first context answer)
      (registerAnswer setting second context answer) := by
  unfold registerAnswer
  cases found : callable? answer with
  | some plan =>
      exact tracks_on_destroy handover.upholds handover.serves context
        (spares_callable spares found)
  | none =>
      dsimp only
      split
      · exact tracks_await handover context _
      · exact tracks_spawn handover.upholds (spares.deferred _ rfl) _
      · exact tracks_pure ()

variable {context : ActionContext} {event : Value} {dispatch : Dispatch} {depth : Value}

theorem tracks_evaluate_for
    (backing : Backing lost setting frame invariant first.toMeans second.toMeans)
    (active : frame.active context.host) (formula : Option Formula) :
    Tracks lost invariant (evaluateFor setting first context event formula)
      (evaluateFor setting second context event formula) := by
  refine tracks_bind_of_yields (tracks_formula_context backing.upholds context event)
    (yields_formula_context context event) fun inner same => ?_
  exact backing.evaluates inner formula (by rw [same]; exact active)

theorem tracks_named_values
    (backing : Backing lost setting frame invariant first.toMeans second.toMeans)
    (active : frame.active context.host) (named : List NamedFormula) :
    Tracks lost invariant (namedValues setting first context event named)
      (namedValues setting second context event named) := by
  refine tracks_bind_of_yields (tracks_formula_context backing.upholds context event)
    (yields_formula_context context event) fun inner same => ?_
  generalize ([] : Entries) = entries
  induction named generalizing entries with
  | nil => exact tracks_pure entries
  | cons item rest ih =>
      unfold collectValues
      split
      · exact ih entries
      · exact tracks_bind (backing.evaluates inner _ (by rw [same]; exact active)) fun content =>
          ih _

theorem tracks_select_case {means others : Means}
    (backing : Backing lost setting frame invariant means others)
    {inner : Context} (active : frame.active inner.host) (fallback : Option (List Action))
    (cases : List ActionCase) :
    Tracks lost invariant (selectCase (means.evaluate inner) fallback cases)
      (selectCase (others.evaluate inner) fallback cases) := by
  induction cases with
  | nil => exact tracks_pure fallback
  | cons branch rest ih =>
      refine tracks_bind (backing.evaluates inner branch.condition active) fun content => ?_
      split
      · exact tracks_pure _
      · exact ih

theorem yields_selected {condition other : Option Formula → Run World Value}
    (tracks : ∀ formula, Tracks lost invariant (condition formula) (other formula))
    (cases : List ActionCase) (fallback : Option (List Action)) (data : Option Formula) :
    Yields invariant (fun selected => ∀ actions, selected = some actions →
      actions ∈ (Action.switch cases fallback data).bodies)
        (selectCase condition fallback cases) := by
  suffices listed : ∀ rest, (∀ branch ∈ rest, branch ∈ cases) → Yields invariant (fun selected =>
      ∀ actions, selected = some actions → actions ∈ (Action.switch cases fallback data).bodies)
      (selectCase condition fallback rest) from listed cases fun _ member => member
  intro rest inside
  induction rest with
  | nil =>
      refine yields_pure fun actions same => List.mem_append_right _ ?_
      rw [same]
      exact List.mem_singleton_self actions
  | cons branch rest ih =>
      refine yields_bind (tracks branch.condition) fun content => ?_
      split
      · refine yields_pure fun actions same => List.mem_append_left _ ?_
        cases same
        exact List.mem_map_of_mem (inside branch List.mem_cons_self)
      · exact ih fun later member => inside later (List.mem_cons_of_mem _ member)

def callWorkflow (setting : Setting) (powers : Powers) (context : ActionContext)
    (event : Value) (name : String) (parameters : List NamedFormula) (provider package : Value)
    (body : ActionContext → List Action → Run World Unit) : Run World Unit := do
  match ← findWorkflow setting context name provider package with
  | none => pure ()
  | some (owner, workflow) => do
    let entries ← namedValues setting powers context event parameters
    let overlay ← Run.ofExcept owner.overlay.spread
    let target : ActionContext :=
      { host := owner.host
        stackHost := context.stackHost
        overlay := .mapping (Keyed.insert (.text "Parameters") (.mapping entries) overlay) }
    body target workflow.actions

theorem run_workflow_eq (setting : Setting) (powers : Powers)
    (context : ActionContext) (event : Value)
    (dispatch : Dispatch) (depth : Value) (name : String) (parameters : List NamedFormula)
    (callbacks : List ActionBody) (provider package : Value) :
    runWorkflow setting powers context event dispatch depth name parameters
      callbacks provider package =
      callWorkflow setting powers context event name parameters provider
        package fun target actions =>
        underWorkflow target.stackHost (ownerName setting target.host ++ ":" ++ name)
          (onTrail target.stackHost "workflow" (ownerName setting target.host ++ ":" ++ name)
            (powers.executeBelow actions target event
              (.caller name callbacks context dispatch depth) depth)) :=
  rfl

theorem tracks_call_workflow
    (backing : Backing lost setting frame invariant first.toMeans second.toMeans)
    (active : frame.active context.host)
    {name : String} {parameters : List NamedFormula} {provider package : Value}
    {body other : ActionContext → List Action → Run World Unit}
    (bodies : ∀ (target : ActionContext) actions, target.stackHost = context.stackHost →
      frame.Permits actions target.host → setting.Offers target.host name →
        Tracks lost invariant (body target actions) (other target actions)) :
    Tracks lost invariant
      (callWorkflow setting first context event name parameters provider package body)
      (callWorkflow setting second context event name parameters provider package other) := by
  refine tracks_bind_of_yields (tracks_find_workflow backing.upholds context name provider package)
    (yields_workflow backing.governs active name provider package) fun found known => ?_
  match found with
  | none => exact tracks_pure ()
  | some (owner, workflow) =>
      refine tracks_bind (tracks_named_values backing active parameters) fun entries => ?_
      refine tracks_bind (tracks_of_except _) fun overlay => ?_
      obtain ⟨permitted, offered⟩ := known owner workflow rfl
      exact bodies { host := owner.host, stackHost := context.stackHost, overlay := _ }
        workflow.actions rfl permitted offered

/-- A workflow tracks if its body does between entering and leaving. -/
theorem tracks_workflow
    (backing : Backing lost setting frame invariant first.toMeans second.toMeans) {name : String}
    {parameters : List NamedFormula} {callbacks : List ActionBody} {provider package : Value}
    (permits : frame.Permits
      [.triggerWorkflow name parameters callbacks provider package] context.host)
    (bodies : ∀ (target : ActionContext) actions, target.stackHost = context.stackHost →
      frame.Permits actions target.host → Tracks lost invariant
        (underWorkflow target.stackHost (ownerName setting target.host ++ ":" ++ name)
          (onTrail target.stackHost "workflow" (ownerName setting target.host ++ ":" ++ name)
            (first.executeBelow actions target event
              (.caller name callbacks context dispatch depth) depth)))
        (underWorkflow target.stackHost (ownerName setting target.host ++ ":" ++ name)
          (onTrail target.stackHost "workflow" (ownerName setting target.host ++ ":" ++ name)
            (second.executeBelow actions target event
              (.caller name callbacks context dispatch depth) depth)))) :
    Tracks lost invariant
      (runWorkflow setting first context event dispatch depth name parameters
        callbacks provider package)
      (runWorkflow setting second context event dispatch depth name parameters
        callbacks provider package) := by
  rw [run_workflow_eq, run_workflow_eq]
  exact tracks_call_workflow backing permits.1
    fun target actions same permitted _ => bodies target actions same permitted

variable (handover : Handover lost setting frame invariant first second)

include handover

theorem tracks_execute_below {actions : List Action} (permits : frame.Permits actions context.host)
    (sends : frame.Sends dispatch) :
    Tracks lost invariant (first.executeBelow actions context event dispatch depth)
      (second.executeBelow actions context event dispatch depth) :=
  tracks_bind (tracks_of_except _) fun below => handover.executes _ context event dispatch
    below permits.entries sends

theorem tracks_set_variable {name : String} (active : frame.active context.host)
    (assigns : frame.assigns context.host name) (data : Option Formula) :
    Tracks lost invariant (setVariable setting first context event name data)
      (setVariable setting second context event name data) := by
  refine tracks_bind (tracks_evaluate_for handover.toBacking active data) fun content => ?_
  refine tracks_get_bind fun world holds => tracks_of_except_bind_at holds fun changed made => ?_
  have written := Signal.tracks_write_at handover.upholds.signals handover.serves holds _
    (handover.upholds.assigned world context.host name content changed holds active assigns made)
  refine tracks_bind_at written fun _ => tracks_modify fun state kept => ?_
  exact handover.upholds.books context.host state active kept state.machine _
    (Machine.booked_modify_host state.machine rfl rfl rfl (Nat.le_refl _)) kept

theorem tracks_trigger_event (active : frame.active context.host) (name : String)
    (data : Option Formula) :
    Tracks lost invariant (triggerEvent setting first context event name data)
      (triggerEvent setting second context event name data) := by
  unfold triggerEvent
  cases given : (setting.instances context.host).triggerEvent with
  | none => exact tracks_warn handover.upholds _
  | some run =>
      refine tracks_bind (tracks_evaluate_for handover.toBacking active data) fun content => ?_
      exact tracks_perform handover.serves (handover.governs.events _ run given name content)

theorem tracks_set_url_parameter (active : frame.active context.host)
    (name : String) (data : Option Formula) (mode : Value) :
    Tracks lost invariant (setUrlParameter setting first context event name data mode)
      (setUrlParameter setting second context event name data mode) := by
  unfold setUrlParameter
  cases given : (setting.instances context.host).setUrlParameters with
  | none => exact tracks_warn handover.upholds _
  | some run =>
      refine tracks_bind (tracks_evaluate_for handover.toBacking active data) fun content => ?_
      exact tracks_perform handover.serves (handover.governs.urls _ run given _ mode)

theorem tracks_set_url_parameters (active : frame.active context.host)
    (parameters : List NamedFormula) (mode : Value) :
    Tracks lost invariant (setUrlParameters setting first context event parameters mode)
      (setUrlParameters setting second context event parameters mode) := by
  unfold setUrlParameters
  cases given : (setting.instances context.host).setUrlParameters with
  | none => exact tracks_warn handover.upholds _
  | some run =>
      refine tracks_bind (tracks_named_values handover.toBacking active parameters)
        fun entries => ?_
      exact tracks_perform handover.serves (handover.governs.urls _ run given entries mode)

theorem tracks_switch {cases : List ActionCase}
    {fallback : Option (List Action)} {data : Option Formula}
    (permits : frame.Permits [.switch cases fallback data] context.host)
    (sends : frame.Sends dispatch) :
    Tracks lost invariant (runSwitch setting first context event dispatch depth cases fallback)
      (runSwitch setting second context event dispatch depth cases fallback) := by
  refine tracks_bind_of_yields (tracks_formula_context handover.upholds context event)
    (yields_formula_context context event) fun inner same => ?_
  have active : frame.active inner.host := by
    rw [same]
    exact permits.1
  refine tracks_bind_of_yields (tracks_select_case handover.toBacking active fallback cases)
    (yields_selected (fun formula => handover.evaluates inner formula active) cases fallback data)
    fun selected listed => ?_
  cases selected with
  | none => exact tracks_pure ()
  | some actions => exact tracks_execute_below handover (permits.body (listed actions rfl)) sends

theorem tracks_fetch {name : String} {inputs : List NamedFormula}
    {onSuccess onError onMessage : List Action}
    (permits : frame.Permits [.fetch name inputs onSuccess onError onMessage] context.host)
    (sends : frame.Sends dispatch) :
    Tracks lost invariant
      (runFetch setting first context event dispatch depth name inputs onSuccess onError onMessage)
      (runFetch setting second context event dispatch depth name inputs onSuccess
        onError onMessage) := by
  have resumed : ∀ body ∈ [onSuccess, onError, onMessage],
      Tracks lost invariant (newContinuation (.body body context dispatch depth))
        (newContinuation (.body body context dispatch depth)) :=
    fun body member => tracks_new_continuation handover.upholds ⟨permits.body member, sends⟩
  unfold runFetch
  cases found : Keyed.find? name (setting.instances context.host).apis with
  | none => exact tracks_warn handover.upholds _
  | some api =>
      refine tracks_bind (resumed onSuccess (by simp)) fun success => ?_
      refine tracks_bind (resumed onError (by simp)) fun error => ?_
      refine tracks_bind (resumed onMessage (by simp)) fun message => ?_
      refine tracks_bind (tracks_named_values handover.toBacking permits.1 inputs) fun entries => ?_
      have spares := handover.governs.fetches _ name api found entries
        { onSuccess := success, onError := error, onMessage := message }
      refine tracks_bind_of_yields (handover.serves.tracks _ spares)
        (handover.serves.yields _ spares)
        fun answer returned => ?_
      cases answer with
      | deferred plan => exact tracks_spawn handover.upholds (returned.deferred plan rfl) none
      | value content => exact tracks_pure ()
      | cleanup plan => exact tracks_pure ()
      | promise number => exact tracks_pure ()

theorem tracks_abort (name : String) :
    Tracks lost invariant (abortFetch setting first context name)
      (abortFetch setting second context name) := by
  unfold abortFetch
  cases found : Keyed.find? name (setting.instances context.host).apis with
  | none => exact tracks_pure ()
  | some api =>
      dsimp only
      cases given : api.cancel with
      | none => exact tracks_pure ()
      | some plan =>
          exact tracks_perform handover.serves
            (handover.governs.cancels _ name api plan found given)

/-- What host code returns is registered where it spares what is free. -/
theorem tracks_answered (context : ActionContext) {plan : Plan}
    (spares : Signal.Script.Spares frame.free plan) :
    Tracks lost invariant
      (first.call plan >>= fun answer => first.heed (.returned context answer) >>= fun _ =>
        registerAnswer setting first context answer)
      (second.call plan >>= fun answer => second.heed (.returned context answer) >>= fun _ =>
        registerAnswer setting second context answer) :=
  tracks_bind_of_yields (handover.serves.tracks _ spares)
    (handover.serves.yields _ spares) fun _ returned =>
    tracks_bind (handover.heeds _) fun _ => tracks_register handover context returned

theorem tracks_custom {name : String} {declared : Value} {arguments : List NamedFormula}
    {events : List ActionBody}
    (permits : frame.Permits [.custom name declared arguments events] context.host)
    (sends : frame.Sends dispatch) :
    Tracks lost invariant
      (runCustom setting first context event dispatch depth name declared arguments events)
      (runCustom setting second context event dispatch depth name declared arguments events) := by
  refine tracks_of_except_bind fun resolution resolved => ?_
  cases resolution with
  | none => exact tracks_warn handover.upholds _
  | some resolution =>
      refine tracks_bind (tracks_new_continuation handover.upholds ⟨fun body member => ?_, sends⟩)
        fun trigger => ?_
      · exact permits.body (List.mem_map_of_mem member)
      refine tracks_bind (tracks_named_values handover.toBacking permits.1 arguments)
        fun entries => ?_
      refine tracks_answered handover context ?_
      cases resolution with
      | versioned handler found =>
          exact handover.governs.handlers _ _ _ handler found (.inl resolved) _ _
      | legacy handler found =>
          exact handover.governs.handlers _ _ _ handler found (.inr resolved) _ _

theorem tracks_dispatch_callback (name : String) (content : Value) (sends : frame.Sends dispatch) :
    Tracks lost invariant (dispatchCallback first name content dispatch)
      (dispatchCallback second name content dispatch) := by
  cases dispatch with
  | none => exact tracks_pure ()
  | external run => exact tracks_perform handover.serves (sends name content)
  | caller workflow callbacks context outer depth =>
      dsimp only [dispatchCallback]
      split
      · exact tracks_warn handover.upholds _
      · rename_i actions found
        exact tracks_execute_below handover (Frame.permits_found sends.1 found) sends.2

theorem tracks_callback (active : frame.active context.host)
    (sends : frame.Sends dispatch) (name : String) (data : Option Formula) :
    Tracks lost invariant (runCallback setting first context event dispatch name data)
      (runCallback setting second context event dispatch name data) := by
  unfold runCallback
  split
  · exact tracks_warn handover.upholds _
  · exact tracks_bind (tracks_evaluate_for handover.toBacking active data) fun content =>
      tracks_dispatch_callback handover name content sends

/-- Every action that stays in a frame tracks itself under two powers, if the body of a workflow
does. -/
theorem tracks_action {action : Action} (permits : frame.Permits [action] context.host)
    (sends : frame.Sends dispatch) (workflows : ∀ name parameters callbacks provider package,
      action = .triggerWorkflow name parameters callbacks provider package → Tracks lost invariant
        (runWorkflow setting first context event dispatch depth name parameters
          callbacks provider package)
        (runWorkflow setting second context event dispatch depth name parameters
          callbacks provider package)) :
    Tracks lost invariant (runAction setting first context event dispatch depth action)
      (runAction setting second context event dispatch depth action) := by
  cases action with
  | setVariable name data =>
      exact tracks_set_variable handover permits.1
        (permits.2 name (Action.sets_set_variable name data)) data
  | triggerEvent name data => exact tracks_trigger_event handover permits.1 name data
  | switch cases fallback data => exact tracks_switch handover permits sends
  | fetch name inputs onSuccess onError onMessage => exact tracks_fetch handover permits sends
  | abortFetch name => exact tracks_abort handover name
  | custom name package arguments events => exact tracks_custom handover permits sends
  | setUrlParameter name data mode =>
      exact tracks_set_url_parameter handover permits.1 name data mode
  | setUrlParameters parameters mode =>
      exact tracks_set_url_parameters handover permits.1 parameters mode
  | triggerWorkflow name parameters callbacks provider package => exact workflows _ _ _ _ _ rfl
  | triggerWorkflowCallback name data => exact tracks_callback handover permits.1 sends name data

theorem tracks_resume (number : Nat) (event payload : Value) :
    Tracks lost invariant (resume first number event payload)
      (resume second number event payload) := by
  refine tracks_get_bind fun world holds => ?_
  cases found : world.stage.continuations[number]? with
  | none => exact ⟨rfl, holds⟩
  | some continuation =>
      have resumes := handover.upholds.resumed world number continuation holds found
      cases continuation with
      | body actions context dispatch depth =>
          exact tracks_execute_below handover resumes.1 resumes.2 world holds
      | emitter action events context dispatch depth =>
          refine tracks_bind (tracks_of_except _) (fun key => ?_) world holds
          dsimp only
          split
          · exact tracks_warn handover.upholds _
          · rename_i actions known
            split at known
            · exact tracks_execute_below handover (Frame.permits_found resumes.1 known) resumes.2
            · cases known

theorem tracks_effect (effect : Effect) :
    Tracks lost invariant (performEffect first effect) (performEffect second effect) := by
  cases effect with
  | note note => exact fun world holds => ⟨rfl, handover.upholds.noted world (fun _ => _) holds⟩
  | advance seconds =>
      refine tracks_bind ?_ fun _ => tracks_pure Value.null
      refine tracks_on_machine fun world holds => tracks_update fun machine after kept moved => ?_
      cases advanced : machine.journal.advance seconds with
      | error failure =>
          rw [advanced] at moved
          cases moved
      | ok journal =>
          rw [advanced] at moved
          cases moved
          exact handover.upholds.noted (world.setMachine machine) (fun _ => journal) kept
  | resume number event payload =>
      exact tracks_bind (tracks_resume handover number event payload)
        fun _ => tracks_pure Value.null
  | invoke handle arguments => exact handover.invokes handle arguments
  | promise =>
      exact tracks_bind (handover.heeds _) fun _ world holds =>
        ⟨rfl, handover.upholds.promised world holds⟩

/-- Host code that stays in the frame tracks itself if what it hands over does. -/
theorem script_serves :
    Signal.Serves lost frame.free invariant (Signal.runScript first.call (performEffect first))
      (Signal.runScript second.call (performEffect second)) :=
  have served := fun (plan : Plan) (spares : plan.Spares frame.free) =>
    Signal.run_script_serves handover.upholds.signals handover.serves
      (tracks_effect handover) spares
  ⟨fun plan spares => (served plan spares).1, fun plan spares => (served plan spares).2⟩

end Actions

section Lists

variable {lost : Prop} {setting : Setting} {frame : Frame} {invariant : World → Prop}

theorem tracks_record_failure (upholds : frame.Upholds setting invariant) {context : ActionContext}
    (active : frame.active context.host) (kind : String) (index : Nat) (failure : Failure) :
    Tracks lost invariant (recordFailure setting context kind index failure)
      (recordFailure setting context kind index failure) := by
  have kept : ∀ fault, Tracks lost invariant (onMachine (Machine.addFault context.host fault))
      (onMachine (Machine.addFault context.host fault)) :=
    fun fault => tracks_on_books upholds active fun _ tolerant =>
      Machine.tracks_add_fault tolerant fault
  refine tracks_bind tracks_get fun world => ?_
  cases failure with
  | fault fault => exact tracks_bind (tracks_warn upholds _) fun _ => kept _
  | mishap mishap => exact tracks_bind (tracks_world_log upholds _ _) fun _ => kept _

theorem tracks_contain {first second : Powers}
    (backing : Backing lost setting frame invariant first.toMeans second.toMeans)
    {context : ActionContext}
    (active : frame.active context.host) (kind : String) (index : Nat) {body other : Run World Unit}
    (tracks : Tracks lost invariant body other) :
    Tracks lost invariant (contain setting first context kind index body)
      (contain setting second context kind index other) := by
  refine tracks_bind (tracks_attempt tracks) fun outcome => tracks_bind
    (backing.heeds _) fun _ => ?_
  cases outcome with
  | ok => exact tracks_pure true
  | error failure =>
      exact tracks_bind (tracks_record_failure backing.upholds active kind index failure)
        fun _ => tracks_pure false

theorem tracks_boundary {first second : Powers} (upholds : frame.Upholds setting invariant)
    {context : ActionContext}
    (active : frame.active context.host) {kind : String} {index : Nat} {body other : Run World Unit}
    (tracks : Tracks lost invariant
      (onTrail context.stackHost "action" kind (contain setting first context kind index body))
      (onTrail context.stackHost "action" kind (contain setting second context kind index other))) :
    Tracks lost invariant (behindBoundary setting first context kind index body)
      (behindBoundary setting second context kind index other) := by
  refine tracks_bind tracks_get fun before => tracks_bind tracks fun succeeded => ?_
  refine tracks_bind tracks_get fun after => tracks_on_books upholds active fun _ tolerant => ?_
  exact Machine.tracks_record tolerant _ _ _ _ _ _ _

theorem tracks_entry (upholds : frame.Upholds setting invariant)
    {run other : Action → Run World Unit} {entry : Entry}
    (tracks : ∀ action, entry.Reads action → Tracks lost invariant (run action) (other action)) :
    Tracks lost invariant (runEntryWith run entry) (runEntryWith other entry) := by
  cases entry with
  | action action => exact tracks action rfl
  | persisted source =>
      refine tracks_of_except_bind fun found reads => ?_
      cases found with
      | none => exact tracks_warn upholds _
      | some action => exact tracks action reads

theorem tracks_run_list (upholds : frame.Upholds setting invariant) {context : ActionContext}
    (active : frame.active context.host) (depth : Value) {body other : Run World Unit}
    (tracks : Tracks lost invariant body other) :
    Tracks lost invariant (runList context depth body) (runList context depth other) := by
  have timed : ∀ name category budget, Tracks lost invariant
      (timed context.host name category budget body)
      (Execute.timed context.host name category budget other) := by
    intro name category budget world holds
    refine tracks_followed_by tracks
      (tracks_on_books upholds active fun _ tolerant => ?_) world holds
    exact Machine.tracks_finish_timing tolerant _ _ _ _ _
  refine tracks_bind tracks_get fun world => ?_
  split
  · refine tracks_bind (tracks_world_log upholds _ _) fun _ => ?_
    exact tracks_on_books upholds active fun _ tolerant => Machine.tracks_add_fault tolerant _
  · exact tracks_raise _
  · split
    · exact timed _ _ _
    · exact tracks

end Lists

end Execute
end Interplay
