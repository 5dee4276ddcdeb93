import Interplay.Proofs.Execute.Notification

/-!
Execution with memos, beside execution without them.

Each action that is done in a world without memos, and adds no fault, is done alike in its twin.  An
assignment is the only action that changes the data of an instance: it leaves the instance exempt
until its memo is forgotten, and by then the memo is empty.  Failures are caught and recorded, so a
list of actions that adds no fault has caught none.  Nested lists and host code are taken in through
`Concord`, which says what their powers have to grant.
-/

namespace Interplay

namespace Machine

def forgetting (host : Nat) (machine : Machine) : Machine :=
  machine.modifyHost host fun state => { state with memo := state.memo.map fun _ => Memo.empty }

theorem size_forgetting (host : Nat) (machine : Machine) :
    (machine.forgetting host).hosts.size = machine.hosts.size := by
  simp [forgetting, modifyHost]

theorem memo_forgetting_self {host : Nat} {machine : Machine}
    (present : host < machine.hosts.size) :
    ((machine.forgetting host).host host).memo = (machine.host host).memo.map fun _ => Memo.empty :=
  congrArg HostState.memo (host_modify_host_self present _)

theorem memo_forgetting_of_ne {host number : Nat} (different : number ≠ host) {machine : Machine} :
    ((machine.forgetting host).host number).memo = (machine.host number).memo :=
  congrArg HostState.memo (host_modify_host_of_ne different machine _)

end Machine

namespace Execute

open Run

def OrdinaryEntries (entries : List Entry) : Prop :=
  ∀ entry ∈ entries, ∀ action, entry.Reads action → action.IsOrdinary

/-- Powers under which host code and nested lists of twins are followed. -/
structure Concord (company : Company) (powers : Powers) : Prop where
  silent : powers.toMeans = .silent company.setting
  handover : ∀ size least, Handover True company.setting Frame.whole
    (World.Above size least) powers powers
  observes : Observes company powers.call
  calls : ∀ plan other, Courteous plan other →
    Follows (Twins company) (fun answer reply => Courteous (.finish answer) (.finish reply))
      (powers.call plan) (powers.call other)
  executes : ∀ entries context counterpart event another dispatch outer depth,
    OrdinaryEntries entries →
    ActionContext.Twin company context counterpart → event.Alike another →
    Dispatch.Twin company dispatch outer →
    Follows (Twins company) (fun _ _ => True) (powers.execute entries context event dispatch depth)
      (powers.execute entries counterpart another outer depth)

section Parts

variable {company : Company} {powers : Powers}
  {context counterpart : ActionContext} {event another : Value}
  {dispatch outer : Dispatch} {depth : Value}

theorem follows_warn (message other : String) :
    Follows (Twins company) (fun _ _ => True) (warn message) (warn other) :=
  follows_of_mirrors (mirrors_modify fun _ _ twin => twin.log _ _ _ _ _ _)

theorem follows_new_continuation {continuation other : Continuation}
    (twins : continuation.Twin company other) :
    Follows (Twins company) (fun number found => found = number) (newContinuation continuation)
      (newContinuation other) :=
  follows_of_mirrors fun _ _ twin => ⟨twin.new_continuation twins, twin.stage.continuations⟩

theorem still_new_continuation (continuation : Continuation) :
    Still (newContinuation continuation) := by
  intro world value after ended
  cases ended
  exact fun _ => rfl

theorem provided_present {world beside : World}
    (stages : StageTwin company world.stage beside.stage) {key : Value}
    {number : Nat} (made : providedHost company.setting context key world = .ok (some number)) :
    number < company.size := by
  unfold providedHost at made
  split at made
  · cases made
  · rename_i scope _
    simp only [bind, Except.bind, pure, Except.pure, Scopes.consumeAt] at made
    cases keyed : key.toKey with
    | error failure =>
        rw [keyed] at made
        cases made
    | ok found =>
        rw [keyed] at made
        dsimp only at made
        split at made
        · rename_i host consumed
          cases made
          exact stages.provided scope found number consumed
        · cases made

theorem follows_spawn (plan other : Plan) (awaiting waiting : Option ActionContext) :
    Follows (Twins company) (fun _ _ => True) (spawn plan awaiting) (spawn other waiting) := by
  refine follows_get_bind fun world counterpart twin => follows_if ?_ ?_ (follows_warn _ _)
  · rw [twin.stage.hasLoop]
  · exact follows_of_mirrors (mirrors_modify fun _ _ twin => twin.enqueue _ _)

theorem assign_alike (name : String) {content other current base : Value}
    (contents : content.Alike other)
    (currents : current.Alike base) {changed : Value}
    (made : assign name content current = .ok changed) :
    ∃ reached, assign name other base = .ok reached ∧ changed.Alike reached := by
  unfold assign at made ⊢
  simp only [bind, Except.bind, pure, Except.pure] at made ⊢
  cases spread : current.spreadFilled with
  | error failure =>
      rw [spread] at made
      cases made
  | ok entries =>
      obtain ⟨others, otherSpread, same⟩ := currents.spread_filled spread
      rw [spread] at made
      rw [otherSpread]
      dsimp only at made ⊢
      cases held : (Value.field "Variables" (.mapping entries)).spreadFilled with
      | error failure =>
          rw [held] at made
          cases made
      | ok assigned =>
          obtain ⟨otherAssigned, otherHeld, sameAssigned⟩ :=
            (same.field "Variables").spread_filled held
          rw [held] at made
          rw [otherHeld]
          cases made
          exact ⟨_, rfl, (same.insert "Variables" (sameAssigned.insert name contents).value).value⟩

theorem MachineTwin.forgetting {size host : Nat} (present : host < size) {machine other : Machine}
    (twin : MachineTwin size machine other) : MachineTwin size (machine.forgetting host)
    (other.forgetting host) := by
  have books : ∀ (state : Machine) number, ∃ memo,
      (state.forgetting host).host number = { state.host number with memo := memo } := by
    intro state number
    rcases Machine.host_modify_host_cases host number state fun state =>
        { state with memo := state.memo.map fun _ => Memo.empty } with same | ⟨_, changed⟩
    · exact ⟨_, same⟩
    · exact ⟨_, changed⟩
  refine ⟨twin.limits, twin.cycles, ?_, ?_, fun number => ?_, fun number => ?_,
    fun number => ?_, twin.journal⟩
  · rw [Machine.size_forgetting, twin.hosts]
  · rw [Machine.size_forgetting, twin.otherHosts]
  · obtain ⟨_, left⟩ := books machine number
    obtain ⟨_, right⟩ := books other number
    rw [left, right]
    exact twin.timings number
  · obtain ⟨_, left⟩ := books machine number
    obtain ⟨_, right⟩ := books other number
    unfold Machine.faults
    rw [left, right]
    exact twin.faults number
  · by_cases own : number = host
    · rw [own, Machine.memo_forgetting_self (by rw [twin.hosts]; exact present), twin.bare]
      rfl
    · rw [Machine.memo_forgetting_of_ne own, twin.bare]

theorem Twin.forgetting {host : Nat} (present : host < company.size) {world counterpart : World}
    (twin : Twin company (fun number => number = host) world counterpart) :
    Twins company (world.modifyMachine (Machine.forgetting host))
      (counterpart.modifyMachine (Machine.forgetting host)) := by
  refine ⟨twin.sizes, twin.cells, twin.machine.forgetting present, twin.stage.set_machine _ _, ?_⟩
  intro number inside _ memo held
  change ((counterpart.machine.forgetting host).host number).memo = some memo at held
  by_cases own : number = host
  · rw [own, Machine.memo_forgetting_self (by rw [twin.machine.otherHosts]; exact present)] at held
    obtain ⟨_, _, rfl⟩ := Option.map_eq_some_iff.mp held
    exact fun _ _ _ _ _ _ _ => Evaluate.backs_empty _
  · rw [Machine.memo_forgetting_of_ne own] at held
    exact twin.memos number inside own memo held

/-- The context in which an instance itself runs is its own twin. -/
theorem twin_of_host (orderly : company.IsOrderly) {number : Nat}
    (present : number < company.size) :
    (company.setting.contextOf number).Twin company (company.setting.contextOf number) := by
  obtain ⟨entries, overlay, alike⟩ := orderly.overlays number present
  obtain ⟨fields, _, found, _⟩ := alike.tables
  have known : (company.setting.instances number).overlay.content? =
      some (.mapping (Content.arrange fields)) := by
    rw [overlay]
    exact Evaluate.content_of_table found
  refine ⟨rfl, rfl, present, ?_, _, _, known, known, _, _, rfl, rfl, fun _ _ => rfl⟩
  change (company.setting.instances number).overlay.Alike (company.setting.instances number).overlay
  rw [overlay]
  exact alike.value

/-- The context of a workflow's body: its owner's, with the parameters laid over it. -/
theorem ActionContext.Twin.parametrized (orderly : company.IsOrderly) {owner double : ActionContext}
    (owners : owner.Twin company double) (stackHost : Nat) {entries others : Entries}
    (parameters : entries.Alike others) {overlay laid : Entries}
    (otherSpread : double.overlay.spread = .ok laid) (overlays : overlay.Alike laid) :
    ActionContext.Twin company
      { host := owner.host, stackHost := stackHost
        overlay := .mapping (Keyed.insert (.text "Parameters") (.mapping entries) overlay) }
      { host := double.host, stackHost := stackHost
        overlay := .mapping (Keyed.insert (.text "Parameters") (.mapping others) laid) } := by
  refine ⟨owners.host, rfl, owners.present, (overlays.insert "Parameters" parameters.value).value,
    ?_⟩
  obtain ⟨content, own, known, ownKnown, agrees⟩ := owners.own
  obtain ⟨fields, found, rfl⟩ := table_of_spread known otherSpread
  obtain ⟨said, _, valued, _⟩ := parameters.value
  have inserted := Evaluate.table_of_insert "Parameters" found valued
  have distinct := (Evaluate.table_of_eq_some.mp found).2
  refine ⟨_, own, Evaluate.content_of_table inserted, ownKnown, ?_⟩
  obtain ⟨_, slots, made, rfl, same⟩ := agrees
  cases made
  refine ⟨_, slots, rfl, rfl, fun key outside => ?_⟩
  have different : key ≠ "Parameters" := fun equal => outside (equal ▸ orderly.slots.2)
  rw [Content.find?_arrange (Evaluate.table_of_eq_some.mp inserted).2,
    Keyed.find?_insert_of_ne _ _ different, ← Content.find?_arrange distinct]
  exact same key outside

theorem still_find_workflow (setting : Setting) (context : ActionContext) (name : String)
    (provider package : Value) :
    Still (findWorkflow setting context name provider package) := by
  have nothing : ∀ message : String,
      Still (warn message >>= fun _ => pure (none : Option (ActionContext × Workflow))) :=
    fun message => still_bind (still_warn message) fun _ => still_pure none
  unfold findWorkflow
  dsimp only
  split
  · refine still_bind still_get fun world => still_bind (still_of_except _) fun provided => ?_
    split
    · exact nothing _
    · split
      · split
        · exact still_pure _
        · exact nothing _
      · exact nothing _
  · split
    · exact still_pure _
    · exact nothing _

theorem follows_find_workflow (orderly : company.IsOrderly)
    (contexts : context.Twin company counterpart) (name : String) (provider package : Value) :
    Follows (Twins company)
      (fun found other => (found = none ∧ other = none) ∨ ∃ owner double workflow, found =
        some (owner, workflow) ∧
        other = some (double, workflow) ∧ ActionContext.Twin company owner double ∧
        ∀ action ∈ workflow.actions, action.IsOrdinary)
      (findWorkflow company.setting context name provider package)
      (findWorkflow company.setting counterpart name provider package) := by
  have nothing : ∀ message other : String, Follows (Twins company)
      (fun (found other : Option (ActionContext × Workflow)) => (found = none ∧ other = none) ∨
        ∃ owner double workflow, found = some (owner, workflow) ∧ other = some (double, workflow) ∧
          ActionContext.Twin company owner double ∧ ∀ action ∈ workflow.actions, action.IsOrdinary)
      (warn message >>= fun _ => pure none) (warn other >>= fun _ => pure none) := by
    intro message other
    refine follows_of_mirrors
      (mirrors_bind (mirrors_modify fun _ _ twin => twin.log _ _ _ _ _ _) fun _ _ _ => ?_)
    exact mirrors_pure (.inl ⟨rfl, rfl⟩)
  have owned : ∀ number, number < company.size →
      ∀ workflow, ((company.setting.instances number).component.bind
      fun component => Keyed.find? name component.workflows) = some workflow →
      ∀ action ∈ workflow.actions, action.IsOrdinary := by
    intro number present workflow found
    obtain ⟨component, owner, listed⟩ := Option.bind_eq_some_iff.mp found
    exact orderly.workflows number present component name workflow owner listed
  unfold findWorkflow
  dsimp only
  by_cases filled : provider.isFilled = true
  · rw [if_pos filled, if_pos filled]
    refine follows_get_bind fun world beside twin => follows_of_except_bind
      fun provided made => ⟨provided, ?_, ?_⟩
    · rw [← made]
      unfold providedHost
      rw [contexts.host, twin.stage.scopes]
    · cases provided with
      | none => exact nothing _ _
      | some number =>
          have present : number < company.size := provided_present twin.stage made
          dsimp only
          cases found : (company.setting.instances number).component.bind fun component =>
              Keyed.find? name component.workflows with
          | none => exact nothing _ _
          | some workflow =>
              dsimp only
              split
              · exact follows_pure (.inr ⟨_, _, workflow, rfl, rfl, twin_of_host orderly present,
                  owned number present workflow found⟩)
              · exact nothing _ _
  · rw [if_neg filled, if_neg filled, contexts.host]
    cases found : (company.setting.instances context.host).component.bind fun component =>
        Keyed.find? name component.workflows with
    | none => exact nothing _ _
    | some workflow =>
        exact follows_pure (.inr ⟨_, _, workflow, rfl, rfl, contexts,
          owned context.host contexts.present workflow found⟩)

theorem follows_await (number : Nat) :
    Follows (Twins company) (fun _ _ => True) (awaitPromise company.setting powers context number)
      (awaitPromise company.setting powers counterpart number) := by
  have pending : ∀ promises : Array Promise,
      (∀ number : Nat, ∀ promise, promises[number]? = some promise → promise.settlement = none) →
      (promises[number]?).bind Promise.settlement = none := by
    intro promises unsettled
    cases found : promises[number]? with
    | none => rfl
    | some promise => exact unsettled number promise found
  refine follows_get_bind fun world beside twin => ?_
  rw [pending _ twin.stage.unsettled, pending _ twin.stage.otherUnsettled]
  exact follows_of_mirrors (mirrors_modify fun _ _ twin => twin.await number _ _)

theorem follows_on_trail {α β : Type} {view : α → β → Prop} {body : Run World α}
    {other : Run World β} (number : Nat)
    (kind name : String) (follows : Follows (Twins company) view body other) :
    Follows (Twins company) view (onTrail number kind name body)
      (onTrail number kind name other) := by
  intro world beside twin value after ended clean
  have pushed : Twins company (world.modifyMachine (Machine.pushStep number kind name))
      (beside.modifyMachine (Machine.pushStep number kind name)) := twin.trail number _
  unfold onTrail ensuring at ended ⊢
  cases started : body (world.modifyMachine (Machine.pushStep number kind name)) with
  | exhausted =>
      rw [started] at ended
      cases ended
  | raised failure last =>
      rw [started] at ended
      cases ended
  | done inside last =>
      rw [started] at ended
      cases ended
      have unspoiled : World.Clean
          (world.modifyMachine (Machine.pushStep number kind name)) last := by
        intro host
        have before :=
          (untouched_trail number (fun trail => trail.pushNamed kind name) world.machine).faults
            host
        have behind := (untouched_trail number Trail.pop last.machine).faults host
        exact (behind.symm.trans (clean host)).trans before.symm
      obtain ⟨answer, later, answered, twinLater, known⟩ :=
        follows _ _ pushed value last started unspoiled
      refine ⟨answer, later.modifyMachine (Machine.popStep number), ?_,
        twinLater.trail number Trail.pop, known⟩
      rw [answered]
      rfl

theorem follows_under_workflow {α β : Type} {view : α → β → Prop}
    {body : Run World α} {other : Run World β}
    (number : Nat) (key : String) (follows : Follows (Twins company) view body other) :
    Follows (Twins company) view (underWorkflow number key body)
      (underWorkflow number key other) := by
  intro world beside twin value after ended clean
  have running : beside.workflows number = world.workflows number := by
    unfold World.workflows
    rw [twin.stage.workflows]
  unfold underWorkflow ensuring at ended ⊢
  rw [running]
  cases entry : (world.workflows number).enter key with
  | error failure =>
      rw [entry] at ended
      cases ended
  | ok entered =>
      rw [entry] at ended
      dsimp only at ended ⊢
      cases started : body (world.modifyWorkflows number fun _ => entered) with
      | exhausted =>
          rw [started] at ended
          cases ended
      | raised failure last =>
          rw [started] at ended
          cases ended
      | done inside last =>
          rw [started] at ended
          cases ended
          obtain ⟨answer, later, answered, twinLater, known⟩ :=
            follows _ _ (twin.modify_workflows number fun _ => entered) value last started clean
          refine ⟨answer, later.modifyWorkflows number (Cycle.Workflow.leave key), ?_,
            twinLater.modify_workflows number _, known⟩
          rw [answered]
          rfl

end Parts

section Accruals

variable {company : Company} {powers : Powers} (concord : Concord company powers)

include concord

theorem accrues_call (plan : Plan) : Accrues (powers.call plan) :=
  fun size least => (concord.handover size least).serves.tracks plan (Frame.whole_spares plan)

theorem accrues_perform (plan : Plan) : Accrues (powers.perform plan) :=
  fun size least => tracks_perform (concord.handover size least).serves (Frame.whole_spares plan)

theorem accrues_execute_below (actions : List Action) (context : ActionContext)
    (event : Value) (dispatch : Dispatch)
    (depth : Value) : Accrues (powers.executeBelow actions context event dispatch depth) :=
  fun size least => tracks_execute_below (concord.handover size least)
    (Frame.whole_permits _ _) (Frame.whole_sends _)

theorem accrues_evaluate_for (context : ActionContext) (event : Value) (formula : Option Formula) :
    Accrues (evaluateFor company.setting powers context event formula) :=
  fun size least => tracks_evaluate_for (concord.handover size least).toBacking trivial formula

theorem accrues_named_values (context : ActionContext) (event : Value) (named : List NamedFormula) :
    Accrues (namedValues company.setting powers context event named) :=
  fun size least => tracks_named_values (concord.handover size least).toBacking trivial named

theorem accrues_spawn (plan : Plan) (awaiting : Option ActionContext) :
    Accrues (spawn plan awaiting) :=
  fun size least => tracks_spawn (concord.handover size least).upholds
    (Frame.whole_spares plan) awaiting

end Accruals

section Actions

variable {company : Company} {powers : Powers} (orderly : company.IsOrderly)
  (concord : Concord company powers)
  {context counterpart : ActionContext} {event another : Value}
  {dispatch outer : Dispatch} {depth : Value}

include concord

theorem follows_perform {plan other : Plan} (courteous : Courteous plan other) :
    Follows (Twins company) (fun _ _ => True) (powers.perform plan) (powers.perform other) :=
  follows_bind (accrues_call concord plan) (fun _ _ _ => tracks_pure ())
    (concord.calls plan other courteous)
    fun _ _ _ => follows_pure trivial

theorem follows_execute_below {actions : List Action}
    (ordinary : ∀ action ∈ actions, action.IsOrdinary)
    (contexts : context.Twin company counterpart) (events : event.Alike another)
    (dispatches : dispatch.Twin company outer) :
    Follows (Twins company) (fun _ _ => True)
      (powers.executeBelow actions context event dispatch depth)
      (powers.executeBelow actions counterpart another outer depth) := by
  refine follows_of_except_bind fun below made => ⟨below, made, ?_⟩
  refine concord.executes _ _ _ _ _ _ _ _ ?_ contexts events dispatches
  intro entry member action reads
  obtain ⟨given, listed, rfl⟩ := List.mem_map.mp member
  cases reads
  exact ordinary action listed

/-- A variable is set in both worlds, and what was memoized for its instance is forgotten. -/
theorem follows_assignment {host signal : Nat} (present : host < company.size)
    (signals : ∀ other, other < company.size → (company.setting.instances other).signal = signal →
      other = host)
    {changed reached : Value} (alike : changed.Alike reached) :
    Follows (Twins company) (fun _ _ => True)
      (Signal.write powers.call signal changed >>= fun _ => modify
        (World.modifyMachine (Machine.forgetting host)))
      (Signal.write powers.call signal reached >>= fun _ =>
        modify (World.modifyMachine (Machine.forgetting host))) := by
  intro world counterpart twin value after ended _
  obtain ⟨_, middle, written, cleared⟩ := done_of_bind ended
  cases cleared
  -- until the memo is forgotten the instance is exempt
  have exempted : Twin company (fun number => number = host) world counterpart :=
    twin.weaken fun _ never => never.elim
  have mirrored := mirrors_write concord.observes alike signals world counterpart exempted
  rw [written] at mirrored
  cases answered : Signal.write powers.call signal reached counterpart with
  | done answer later =>
      rw [answered] at mirrored
      refine ⟨(), World.modifyMachine (Machine.forgetting host) later, ?_,
        mirrored.1.forgetting present, trivial⟩
      rw [bind_of_done answered]
      rfl
  | raised failure later =>
      rw [answered] at mirrored
      exact mirrored.elim
  | exhausted =>
      rw [answered] at mirrored
      exact mirrored.elim

theorem follows_on_destroy (contexts : context.Twin company counterpart) {cleanup other : Plan}
    (courteous : Courteous cleanup other) :
    Follows (Twins company) (fun _ _ => True) (onDestroy company.setting powers context cleanup)
      (onDestroy company.setting powers counterpart other) := by
  refine follows_get_bind fun world beside twin => ?_
  rw [contexts.host]
  refine follows_if ?_ (follows_perform concord courteous) (follows_of_mirrors ?_)
  · rw [(twin.cells _).destroyed]
  · refine mirrors_bind (mirrors_attach concord.observes _ ?_ _ _) fun _ _ _ => mirrors_pure trivial
    exact fun _ _ _ => .finish Value.alike_null

theorem follows_register (contexts : context.Twin company counterpart)
    {answer reply : Signal.Answer Effect} (courteous : Courteous (.finish answer) (.finish reply)) :
    Follows (Twins company) (fun _ _ => True) (registerAnswer company.setting powers context answer)
      (registerAnswer company.setting powers counterpart reply) := by
  obtain ⟨means, runners⟩ := powers
  obtain rfl : means = .silent company.setting := concord.silent
  -- a value that has a content is no closure
  have inert : ∀ {value : Value}, value.Alike value → callable? (.value value) = none := by
    rintro value ⟨content, known, _⟩
    unfold callable?
    split
    · rename_i impossible
      cases impossible
    · rename_i impossible
      cases impossible
      rw [Value.content?] at known
      cases known
    · rfl
  cases courteous with
  | value alike =>
      unfold registerAnswer
      rw [inert alike.left, inert alike.right]
      exact follows_pure trivial
  | cleanup courteous => exact follows_on_destroy concord contexts courteous
  | promise number => exact follows_await number
  | deferred plan other => exact follows_spawn plan other _ _

theorem follows_dispatch_callback (name : String) {content other : Value}
    (contents : content.Alike other) (dispatches : dispatch.Twin company outer) :
    Follows (Twins company) (fun _ _ => True) (dispatchCallback powers name content dispatch)
      (dispatchCallback powers name other outer) := by
  cases dispatches with
  | none => exact follows_pure trivial
  | external courteous => exact follows_perform concord (courteous name content other contents)
  | @caller workflow callbacks context counterpart dispatch outer depth ordinary contexts outers =>
      dsimp only [dispatchCallback]
      cases found : ActionBody.find? name callbacks with
      | none => exact follows_warn _ _
      | some actions =>
          obtain ⟨callback, member, rfl⟩ := Action.body_of_find found
          exact follows_execute_below concord (ordinary callback member) contexts contents outers

include orderly

theorem follows_set_variable (contexts : context.Twin company counterpart)
    (events : event.Alike another)
    (name : String) {data : Option Formula} (ordinary : Ordinary data) :
    Follows (Twins company) (fun _ _ => True)
      (setVariable company.setting powers context event name data)
      (setVariable company.setting powers counterpart another name data) := by
  refine follows_bind (accrues_evaluate_for concord _ _ _) (fun content size least => ?_)
    (follows_evaluate_for concord.silent orderly contexts events ordinary)
    fun content other contents => ?_
  · have handover := concord.handover size least
    refine tracks_bind tracks_get fun world => tracks_bind (tracks_of_except _) fun changed => ?_
    refine tracks_bind (Signal.tracks_write handover.upholds.signals handover.serves trivial _)
      fun _ => ?_
    refine tracks_modify fun state above => ?_
    exact above_tolerant state context.host state.machine _
      (Machine.booked_modify_host state.machine rfl rfl rfl (Nat.le_refl _)) above
  · refine follows_get_bind fun world beside twin => follows_of_except_bind fun changed made => ?_
    have cells := twin.cells (company.setting.instances context.host).signal
    obtain ⟨reached, otherMade, alike⟩ := assign_alike name contents cells.content made
    rw [contexts.host]
    refine ⟨reached, otherMade, follows_assignment concord contexts.present
      (fun host present shared => ?_) alike⟩
    exact orderly.signals host context.host present contexts.present shared

theorem follows_trigger_event (contexts : context.Twin company counterpart)
    (events : event.Alike another)
    (name : String) {data : Option Formula} (ordinary : Ordinary data) :
    Follows (Twins company) (fun _ _ => True)
      (triggerEvent company.setting powers context event name data)
      (triggerEvent company.setting powers counterpart another name data) := by
  unfold triggerEvent
  rw [contexts.host]
  cases given : (company.setting.instances context.host).triggerEvent with
  | none => exact follows_warn _ _
  | some run =>
      refine follows_bind (accrues_evaluate_for concord _ _ _) (fun _ => accrues_perform concord _)
        (follows_evaluate_for concord.silent orderly contexts events ordinary)
        fun content other contents => ?_
      exact follows_perform concord
        (orderly.events context.host contexts.present run given name content other contents)

theorem follows_set_url_parameter (contexts : context.Twin company counterpart)
    (events : event.Alike another)
    (name : String) {data : Option Formula} (ordinary : Ordinary data) (mode : Value) :
    Follows (Twins company) (fun _ _ => True)
      (setUrlParameter company.setting powers context event name data mode)
      (setUrlParameter company.setting powers counterpart another name data mode) := by
  unfold setUrlParameter
  rw [contexts.host]
  cases given : (company.setting.instances context.host).setUrlParameters with
  | none => exact follows_warn _ _
  | some run =>
      refine follows_bind (accrues_evaluate_for concord _ _ _) (fun _ => accrues_perform concord _)
        (follows_evaluate_for concord.silent orderly contexts events ordinary)
        fun content other contents => ?_
      exact follows_perform concord (orderly.urls context.host contexts.present run given _ _ mode
        (Entries.alike_nil.insert name contents))

theorem follows_set_url_parameters (contexts : context.Twin company counterpart)
    (events : event.Alike another)
    {parameters : List NamedFormula} (ordinary : ∀ item ∈ parameters, Ordinary item.formula)
    (mode : Value) :
    Follows (Twins company) (fun _ _ => True)
      (setUrlParameters company.setting powers context event parameters mode)
      (setUrlParameters company.setting powers counterpart another parameters mode) := by
  unfold setUrlParameters
  rw [contexts.host]
  cases given : (company.setting.instances context.host).setUrlParameters with
  | none => exact follows_warn _ _
  | some run =>
      refine follows_bind (accrues_named_values concord _ _ _) (fun _ => accrues_perform concord _)
        (follows_named_values concord.silent orderly contexts events ordinary)
        fun entries others alike => ?_
      exact follows_perform concord
        (orderly.urls context.host contexts.present run given _ _ mode alike)

theorem follows_abort (contexts : context.Twin company counterpart) (name : String) :
    Follows (Twins company) (fun _ _ => True) (abortFetch company.setting powers context name)
      (abortFetch company.setting powers counterpart name) := by
  unfold abortFetch
  rw [contexts.host]
  cases found : Keyed.find? name (company.setting.instances context.host).apis with
  | none => exact follows_pure trivial
  | some api =>
      dsimp only
      cases given : api.cancel with
      | none => exact follows_pure trivial
      | some plan =>
          exact follows_perform concord
            (orderly.cancels context.host contexts.present name api plan found given)

theorem follows_switch (contexts : context.Twin company counterpart) (events : event.Alike another)
    (dispatches : dispatch.Twin company outer) {cases : List ActionCase}
    {fallback : Option (List Action)}
    {data : Option Formula} (ordinary : (Action.switch cases fallback data).IsOrdinary) :
    Follows (Twins company) (fun _ _ => True)
      (runSwitch company.setting powers context event dispatch depth cases fallback)
      (runSwitch company.setting powers counterpart another outer depth cases fallback) := by
  obtain ⟨means, runners⟩ := powers
  obtain rfl : means = .silent company.setting := concord.silent
  obtain ⟨operands, inside⟩ := ordinary
  have branches : ∀ branch ∈ cases, Ordinary branch.condition ∧
      ∀ action ∈ branch.actions, action.IsOrdinary := by
    refine fun branch member => ⟨fun present found => operands present ?_, inside branch.actions ?_⟩
    · exact List.mem_filterMap.mpr ⟨branch, member, found⟩
    · exact List.mem_append_left _ (List.mem_map_of_mem member)
  have last : ∀ actions, fallback = some actions → ∀ action ∈ actions, action.IsOrdinary := by
    intro actions present
    exact inside actions (List.mem_append_right _ (by simp [present]))
  unfold runSwitch
  rw [← bind_assoc, ← bind_assoc]
  refine follows_bind (fun size least => ?_) (fun selected => ?_)
    (follows_of_over context.host fun content =>
    follows_still_bind (still_formula_context _ _ _)
      (follows_formula_context contexts events) fun _ _ poised =>
      follows_select_case orderly poised branches last) ?_
  · refine tracks_bind (tracks_formula_context (concord.handover size least).upholds _ _)
      fun inner => ?_
    exact tracks_select_case (concord.handover size least).toBacking trivial _ _
  · cases selected with
    | none => exact fun _ _ => tracks_pure ()
    | some actions => exact accrues_execute_below concord actions _ _ _ _
  · rintro _ selected ⟨rfl, listed⟩
    cases selected with
    | none => exact follows_pure trivial
    | some actions =>
        exact follows_execute_below concord (listed actions rfl) contexts events dispatches

omit orderly in
theorem accrues_fetched (answer : Signal.Answer Effect) : Accrues (match answer with
    | .deferred plan => spawn plan none
    | _ => pure ()) := by
  intro size least
  cases answer with
  | deferred plan => exact accrues_spawn concord plan none size least
  | value content => exact tracks_pure ()
  | cleanup plan => exact tracks_pure ()
  | promise number => exact tracks_pure ()

theorem follows_fetch (contexts : context.Twin company counterpart) (events : event.Alike another)
    (dispatches : dispatch.Twin company outer) {name : String} {inputs : List NamedFormula}
    {onSuccess onError onMessage : List Action}
    (ordinary : (Action.fetch name inputs onSuccess onError onMessage).IsOrdinary) :
    Follows (Twins company) (fun _ _ => True)
      (runFetch company.setting powers context event dispatch depth name inputs
        onSuccess onError onMessage)
      (runFetch company.setting powers counterpart another outer depth name inputs onSuccess
        onError onMessage) := by
  obtain ⟨operands, inside⟩ := ordinary
  have named : ∀ item ∈ inputs, Ordinary item.formula :=
    fun item member present found => operands present (List.mem_filterMap.mpr ⟨item, member, found⟩)
  have resumed : ∀ body ∈ [onSuccess, onError, onMessage],
      Follows (Twins company) (fun number found => found = number)
        (newContinuation (.body body context dispatch depth))
        (newContinuation (.body body counterpart outer depth)) :=
    fun body member => follows_new_continuation
      (.body depth (inside body member) contexts dispatches)
  unfold runFetch
  rw [contexts.host]
  cases found : Keyed.find? name (company.setting.instances context.host).apis with
  | none => exact follows_warn _ _
  | some api =>
      refine follows_still_bind (still_new_continuation _) (resumed onSuccess (by simp)) ?_
      rintro success _ rfl
      refine follows_still_bind (still_new_continuation _) (resumed onError (by simp)) ?_
      rintro error _ rfl
      refine follows_still_bind (still_new_continuation _) (resumed onMessage (by simp)) ?_
      rintro message _ rfl
      refine follows_bind (accrues_named_values concord _ _ _) (fun entries size least => ?_)
        (follows_named_values concord.silent orderly contexts events named)
        fun entries others alike => ?_
      · exact tracks_bind (accrues_call concord _ size least) fun answer =>
          accrues_fetched concord answer size least
      · refine follows_bind (accrues_call concord _) (accrues_fetched concord)
          (concord.calls _ _
            (orderly.fetches context.host contexts.present name api found entries others _ alike))
            ?_
        intro answer reply courteous
        cases courteous with
        | value alike => exact follows_pure trivial
        | cleanup courteous => exact follows_pure trivial
        | promise number => exact follows_pure trivial
        | deferred plan other => exact follows_spawn plan other none none

theorem follows_custom (contexts : context.Twin company counterpart) (events : event.Alike another)
    (dispatches : dispatch.Twin company outer) {name : String} {declared : Value}
    {arguments : List NamedFormula}
    {bodies : List ActionBody}
    (ordinary : (Action.custom name declared arguments bodies).IsOrdinary) :
    Follows (Twins company) (fun _ _ => True)
      (runCustom company.setting powers context event dispatch depth name declared arguments bodies)
      (runCustom company.setting powers counterpart another outer depth name
        declared arguments bodies) := by
  obtain ⟨operands, inside⟩ := ordinary
  have named : ∀ item ∈ arguments, Ordinary item.formula :=
    fun item member present found => operands present (List.mem_filterMap.mpr ⟨item, member, found⟩)
  have emitted : ∀ body ∈ bodies, ∀ action ∈ body.actions, action.IsOrdinary :=
    fun body member => inside body.actions (List.mem_map_of_mem member)
  obtain ⟨means, runners⟩ := powers
  obtain rfl : means = .silent company.setting := concord.silent
  unfold runCustom
  rw [contexts.host]
  refine follows_of_except_bind fun resolution resolved => ⟨resolution, resolved, ?_⟩
  cases resolution with
  | none => exact follows_warn _ _
  | some resolution =>
      refine follows_still_bind (still_new_continuation _)
        (follows_new_continuation (.emitter name depth emitted contexts dispatches)) ?_
      rintro trigger _ rfl
      have registered : ∀ answer,
          Accrues (registerAnswer company.setting
            ⟨.silent company.setting, runners⟩ context answer) := by
        intro answer size least
        exact tracks_register (concord.handover size least) context
          ⟨fun plan _ => Frame.whole_spares plan, fun plan _ => Frame.whole_spares plan⟩
      refine follows_bind (accrues_named_values concord _ _ _) (fun entries size least => ?_)
        (follows_named_values concord.silent orderly contexts events named)
        fun entries others alike => ?_
      · exact tracks_bind (accrues_call concord _ size least) fun answer =>
          registered answer size least
      · refine follows_bind (accrues_call concord _) registered (concord.calls _ _ ?_)
          fun answer reply courteous => follows_register concord contexts courteous
        cases resolution with
        | versioned handler found =>
            exact orderly.handlers context.host contexts.present _ _ handler found
              (.inl resolved) _ _ _ _ _ _ alike events
        | legacy handler found =>
            exact orderly.handlers context.host contexts.present _ _ handler found
              (.inr resolved) _ _ _ _ _ _ alike events

theorem follows_callback (contexts : context.Twin company counterpart)
    (events : event.Alike another)
    (dispatches : dispatch.Twin company outer) (name : String) {data : Option Formula}
    (ordinary : Ordinary data) :
    Follows (Twins company) (fun _ _ => True)
      (runCallback company.setting powers context event dispatch name data)
      (runCallback company.setting powers counterpart another outer name data) := by
  have dispatched : ∀ (dispatch : Dispatch) (content : Value),
      Accrues (dispatchCallback powers name content dispatch) :=
    fun dispatch content size least =>
      tracks_dispatch_callback (concord.handover size least) name content
        (Frame.whole_sends dispatch)
  have sent := follows_bind (accrues_evaluate_for concord context event data) (dispatched dispatch)
    (follows_evaluate_for concord.silent orderly contexts events ordinary)
    fun content other contents =>
      follows_dispatch_callback concord name contents dispatches
  cases dispatches with
  | none => exact follows_warn _ _
  | external courteous => exact sent
  | caller workflow depth ordinary contexts outers => exact sent

theorem follows_workflow (contexts : context.Twin company counterpart)
    (events : event.Alike another)
    (dispatches : dispatch.Twin company outer) {name : String} {parameters : List NamedFormula}
    {callbacks : List ActionBody} {provider package : Value}
    (ordinary : (Action.triggerWorkflow name parameters callbacks provider package).IsOrdinary) :
    Follows (Twins company) (fun _ _ => True)
      (runWorkflow company.setting powers context event dispatch depth name parameters
        callbacks provider package)
      (runWorkflow company.setting powers counterpart another outer depth name
        parameters callbacks provider package) := by
  obtain ⟨operands, inside⟩ := ordinary
  have named : ∀ item ∈ parameters, Ordinary item.formula :=
    fun item member present found => operands present (List.mem_filterMap.mpr ⟨item, member, found⟩)
  have answered : ∀ callback ∈ callbacks, ∀ action ∈ callback.actions, action.IsOrdinary :=
    fun callback member => inside callback.actions (List.mem_map_of_mem member)
  unfold runWorkflow
  refine follows_still_bind (still_find_workflow _ _ _ _ _)
    (follows_find_workflow orderly contexts name provider package) ?_
  rintro found other (⟨rfl, rfl⟩ | ⟨owner, double, workflow, rfl, rfl, owners, actions⟩)
  · exact follows_pure trivial
  · dsimp only
    have bodies : ∀ (target : ActionContext) (event : Value), Accrues (
        underWorkflow context.stackHost (ownerName company.setting owner.host ++ ":" ++ name)
          (onTrail context.stackHost "workflow"
            (ownerName company.setting owner.host ++ ":" ++ name)
            (powers.executeBelow workflow.actions target event
              (.caller name callbacks context dispatch depth) depth))) := by
      intro target event size least
      refine tracks_under_workflow above_indifferent _ _
        (tracks_on_trail above_indifferent _ _ _ ?_)
      exact accrues_execute_below concord _ _ _ _ _ size least
    refine follows_bind (accrues_named_values concord _ _ _) (fun entries size least => ?_)
      (follows_named_values concord.silent orderly contexts events named)
      fun entries others alike => ?_
    · exact tracks_bind (tracks_of_except _) fun overlay => bodies _ _ size least
    · refine follows_of_except_bind fun overlay spread => ?_
      obtain ⟨laid, otherSpread, overlays⟩ := owners.overlay.spread spread
      refine ⟨laid, otherSpread, ?_⟩
      rw [owners.host, contexts.stackHost]
      refine follows_under_workflow _ _ (follows_on_trail _ _ _ ?_)
      have target := owners.parametrized orderly context.stackHost alike otherSpread overlays
      rw [owners.host] at target
      exact follows_execute_below concord actions target events
        (.caller name depth answered contexts dispatches)

theorem follows_action (contexts : context.Twin company counterpart) (events : event.Alike another)
    (dispatches : dispatch.Twin company outer) {action : Action} (ordinary : action.IsOrdinary) :
    Follows (Twins company) (fun _ _ => True)
      (runAction company.setting powers context event dispatch depth action)
      (runAction company.setting powers counterpart another outer depth action) := by
  have single : ∀ data : Option Formula, action.operands = data.toList → Ordinary data := by
    intro data listed present found
    obtain ⟨operands, _⟩ := ordinary
    exact operands present (by rw [listed, found]; exact List.mem_singleton_self present)
  cases action with
  | setVariable name data =>
      exact follows_set_variable orderly concord contexts events name (single data rfl)
  | triggerEvent name data =>
      exact follows_trigger_event orderly concord contexts events name (single data rfl)
  | switch cases fallback data =>
      exact follows_switch orderly concord contexts events dispatches ordinary
  | fetch name inputs onSuccess onError onMessage =>
      exact follows_fetch orderly concord contexts events dispatches ordinary
  | abortFetch name => exact follows_abort orderly concord contexts name
  | custom name package arguments bodies =>
      exact follows_custom orderly concord contexts events dispatches ordinary
  | setUrlParameter name data mode =>
      exact follows_set_url_parameter orderly concord contexts events name (single data rfl) mode
  | setUrlParameters parameters mode =>
      obtain ⟨operands, _⟩ := ordinary
      exact follows_set_url_parameters orderly concord contexts events
        (fun item member present found => operands present
          (List.mem_filterMap.mpr ⟨item, member, found⟩)) mode
  | triggerWorkflow name parameters callbacks provider package =>
      exact follows_workflow orderly concord contexts events dispatches ordinary
  | triggerWorkflowCallback name data =>
      exact follows_callback orderly concord contexts events dispatches name (single data rfl)

end Actions

section Records

variable {company : Company} {context counterpart : ActionContext}

theorem faults_of_added {host : Nat} {fault : Fault} {machine after : Machine}
    (present : host < machine.hosts.size)
    (ended : Machine.addFault host fault machine = .done () after) : after.faults host =
    machine.faults host + 1 := by
  unfold Machine.addFault update at ended
  simp only [bind, Except.bind, pure, Except.pure] at ended
  cases added : (machine.host host).sink.add fault with
  | error failure =>
      rw [added] at ended
      cases ended
  | ok sink =>
      rw [added] at ended
      cases ended
      unfold Machine.faults
      rw [Machine.host_modify_host_self present]
      exact Sink.total_add added

theorem faults_of_recorded {setting : Setting} {kind : String} {index : Nat}
    {failure : Failure} {world after : World} (present : context.host < world.machine.hosts.size)
    (ended : recordFailure setting context kind index failure world = .done () after) :
    after.machine.faults context.host = world.machine.faults context.host + 1 := by
  have added : ∀ (fault : Fault) (logged : World), logged.machine.hosts.size =
      world.machine.hosts.size →
      logged.machine.faults context.host = world.machine.faults context.host →
      onMachine (Machine.addFault context.host fault) logged = .done () after →
      after.machine.faults context.host = world.machine.faults context.host + 1 := by
    intro fault logged size same done
    obtain ⟨last, recorded, rfl⟩ := done_of_on_machine done
    rw [← same]
    exact faults_of_added (by rw [size]; exact present) recorded
  cases failure with
  | fault fault => exact added _ (world.log .warning fault.text) rfl rfl ended
  | mishap mishap =>
      exact added _ (world.log .error ("Action execution error in " ++ kind)) rfl rfl ended

theorem follows_recorded {body other : Run World Unit} (accrues : Accrues body)
    (contexts : context.Twin company counterpart) (kind : String) (index : Nat)
    (follows : Follows (Twins company) (fun _ _ => True) body other) :
    Follows (Twins company) (fun succeeded passed => passed = succeeded)
      (attempt body >>= keepOutcome company.setting context kind index)
      (attempt other >>= keepOutcome company.setting counterpart kind index) := by
  refine follows_attempt_bind accrues (fun _ _ _ => tracks_pure true) follows
    (fun _ _ _ => follows_pure rfl) ?_
  intro world beside twin failure middle started succeeded after ended clean
  obtain ⟨_, last, recorded, left⟩ := done_of_bind ended
  cases left
  have before := faults_of_accrues accrues (congrArg Result.state? started) context.host
  have sizes := hosts_of_accrues accrues (congrArg Result.state? started)
  have present : context.host < middle.machine.hosts.size := by
    rw [sizes, twin.machine.hosts]
    exact contexts.present
  have behind := faults_of_recorded present recorded
  have same := clean context.host
  omega

theorem follows_record (contexts : context.Twin company counterpart)
    (name : String) {now duration : Value} (succeeded : Bool) :
    Follows (Twins company) (fun _ _ => True)
      (onMachine (Machine.onMetrics context.host ()
        (Metrics.record (.text name) (.text "action") now duration (some succeeded))))
      (onMachine (Machine.onMetrics counterpart.host ()
        (Metrics.record (.text name) (.text "action") now duration (some succeeded)))) := by
  intro world beside twin value after ended _
  obtain ⟨last, recorded, rfl⟩ := done_of_on_machine ended
  rw [contexts.host]
  obtain ⟨later, otherRecorded, timings⟩ :=
    Evaluate.record_beside (twin.machine.timings context.host) recorded
  refine ⟨(), beside.setMachine later, on_machine_of_done otherRecorded, ?_, trivial⟩
  have left : Evaluate.Aside context.host world.machine last :=
    Evaluate.aside_on_metrics (congrArg Result.state? recorded)
  have right : Evaluate.Aside context.host beside.machine later :=
    Evaluate.aside_on_metrics (congrArg Result.state? otherRecorded)
  exact twin.measured left right (Evaluate.on_metrics_stores (congrArg Result.state? recorded))
    (Evaluate.on_metrics_stores (congrArg Result.state? otherRecorded)) timings

theorem follows_add_fault {β : Type} {view : Unit → β → Prop}
    (contexts : context.Twin company counterpart) (fault : Fault) (other : Run World β) :
    Follows (Twins company) view (onMachine (Machine.addFault context.host fault)) other := by
  intro world beside twin value after ended clean
  obtain ⟨last, added, rfl⟩ := done_of_on_machine ended
  have more := faults_of_added (by rw [twin.machine.hosts]; exact contexts.present) added
  have same : last.faults context.host = world.machine.faults context.host := clean context.host
  omega

theorem follows_timed (contexts : context.Twin company counterpart) (budget : Value)
    {body other : Run World Unit} (follows : Follows (Twins company) (fun _ _ => True) body other) :
    Follows (Twins company) (fun _ _ => True)
      (timed context.host (.text "execute") (.text "action") budget body)
      (timed counterpart.host (.text "execute") (.text "action") budget other) := by
  intro world beside twin value after ended clean
  rw [contexts.host]
  unfold timed followedBy at ended ⊢
  cases started : body world with
  | exhausted =>
      rw [started] at ended
      cases ended
  | raised failure reached =>
      rw [started] at ended
      obtain ⟨_, _, _, impossible⟩ := done_of_bind ended
      cases impossible
  | done inside reached =>
      rw [started] at ended
      obtain ⟨_, _, finished, left⟩ := done_of_bind ended
      cases left
      obtain ⟨last, timed, rfl⟩ := done_of_on_machine finished
      have aside : Evaluate.Aside context.host reached.machine last :=
        Evaluate.aside_finish_timing (congrArg Result.state? timed)
      have stores : Evaluate.SameStores context.host reached.machine last :=
        Evaluate.finish_timing_stores (congrArg Result.state? timed)
      have unspoiled : World.Clean world reached := by
        intro host
        have same : last.faults host = world.machine.faults host := clean host
        rw [← same]
        unfold Machine.faults
        by_cases own : host = context.host
        · rw [own, stores.1]
        · rw [(aside.others host own).sink]
      obtain ⟨answer, later, answered, twinLater, _⟩ :=
        follows world beside twin value reached started unspoiled
      obtain ⟨closing, closed, timings⟩ :=
        Evaluate.finish_timing_beside twinLater.machine.now
          (twinLater.machine.timings context.host) timed
      refine ⟨answer, later.setMachine closing, ?_, ?_, trivial⟩
      · rw [answered, twin.machine.now]
        exact bind_of_done (on_machine_of_done closed)
      · exact twinLater.measured aside
          (Evaluate.aside_finish_timing (congrArg Result.state? closed)) stores
          (Evaluate.finish_timing_stores (congrArg Result.state? closed)) timings

theorem follows_run_list (contexts : context.Twin company counterpart) (depth : Value)
    {body other : Run World Unit} (follows : Follows (Twins company) (fun _ _ => True) body other) :
    Follows (Twins company) (fun _ _ => True) (runList context depth body)
      (runList counterpart depth other) := by
  refine follows_get_bind fun world beside twin => ?_
  rw [twin.machine.limits]
  cases world.machine.limits.check "action" "max_depth" depth with
  | error failure =>
      cases failure with
      | mishap mishap => exact follows_raise _ _
      | fault fault =>
          have logged : Follows (Twins company) (fun _ _ => True)
              (modify (World.log .error fault.text)) (modify (World.log .error fault.text)) :=
            follows_of_mirrors (mirrors_modify fun _ _ twin => twin.log _ _ _ _ _ _)
          refine follows_still_bind (fun _ _ _ ended => ?_) logged fun _ _ _ =>
            follows_add_fault contexts _ _
          cases ended
          exact fun _ => rfl
  | ok _ =>
      refine follows_if ?_ (follows_timed contexts _ follows) follows
      rw [contexts.host, twin.machine.has_metrics]

end Records

section Lists

variable {company : Company} {powers : Powers} (orderly : company.IsOrderly)
  (concord : Concord company powers)
  {context counterpart : ActionContext} {event another : Value}
  {dispatch outer : Dispatch} {depth : Value}

include concord

theorem accrues_action (context : ActionContext) (event : Value)
    (dispatch : Dispatch) (depth : Value)
    (action : Action) : Accrues
    (runAction company.setting powers context event dispatch depth action) :=
  fun size least => tracks_any_action (concord.handover size least) above_indifferent
    (Frame.whole_permits _ _) (Frame.whole_sends dispatch)

theorem accrues_guarded (context : ActionContext) (event : Value) (dispatch : Dispatch)
    (depth : Value) (index : Nat)
    (action : Action) : Accrues
    (runGuarded company.setting powers context event dispatch depth index action) :=
  fun size least => tracks_guarded (concord.handover size least) above_indifferent
    (Frame.whole_permits _ _) (Frame.whole_sends dispatch) index

theorem follows_resume (number : Nat) {payload reply : Value} (events : event.Alike another)
    (payloads : payload.Alike reply) :
    Follows (Twins company) (fun _ _ => True) (resume powers number event payload)
      (resume powers number another reply) := by
  refine follows_get_bind fun world beside twin => ?_
  cases found : world.stage.continuations[number]? with
  | none =>
      have absent : beside.stage.continuations[number]? = none := by
        rw [Array.getElem?_eq_none_iff] at found ⊢
        rw [twin.stage.continuations]
        exact found
      rw [absent]
      exact follows_pure trivial
  | some continuation =>
      obtain ⟨other, present, twins⟩ := twin.stage.resumed number continuation found
      rw [present]
      cases twins with
      | body depth ordinary contexts dispatches =>
          exact follows_execute_below concord ordinary contexts payloads dispatches
      | @emitter action bodies _ _ _ _ depth ordinary contexts dispatches =>
          refine follows_of_except_bind fun key made => ?_
          obtain ⟨other, otherMade, same⟩ := events.to_key made
          refine ⟨other, otherMade, ?_⟩
          -- only texts name events, and alike texts are equal
          cases key with
          | text name =>
              cases other with
              | text found =>
                  cases same
                  dsimp only
                  cases found : ActionBody.find? name bodies with
                  | none => exact follows_warn _ _
                  | some actions =>
                      obtain ⟨body, member, rfl⟩ := Action.body_of_find found
                      exact follows_execute_below concord
                        (ordinary body member) contexts payloads dispatches
              | _ => cases same
          | _ =>
              cases other with
              | text found => cases same
              | _ => exact follows_warn _ _

include orderly

theorem follows_guarded (contexts : context.Twin company counterpart) (events : event.Alike another)
    (dispatches : dispatch.Twin company outer) {action : Action}
    (ordinary : action.IsOrdinary) (index : Nat) :
    Follows (Twins company) (fun _ _ => True)
      (runGuarded company.setting powers context event dispatch depth index action)
      (runGuarded company.setting powers counterpart another outer depth index action) := by
  obtain ⟨means, runners⟩ := powers
  obtain rfl : means = .silent company.setting := concord.silent
  have recorded :=
    follows_recorded
      (accrues_action concord context event dispatch depth action) contexts action.kind
    index (follows_action orderly concord contexts events dispatches ordinary)
  unfold runGuarded behindBoundary
  rw [contexts.stackHost]
  refine follows_get_bind fun before beside twin => ?_
  refine follows_bind (fun size least => ?_) (fun succeeded size least => ?_)
    (follows_on_trail context.stackHost "action" action.kind recorded) ?_
  · have active : Frame.whole.active context.host := trivial
    exact tracks_on_trail above_indifferent _ _ _
      (tracks_contain (concord.handover size least).toBacking active _ _
      (accrues_action concord _ _ _ _ _ size least))
  · have active : Frame.whole.active context.host := trivial
    refine tracks_bind tracks_get fun after => tracks_on_books
      (concord.handover size least).upholds active ?_
    exact fun _ tolerant => Machine.tracks_record tolerant _ _ _ _ _ _ _
  · rintro _ succeeded rfl
    refine follows_get_bind fun after behind there => ?_
    rw [there.machine.now, twin.machine.now]
    exact follows_record contexts action.kind succeeded

theorem follows_entries (contexts : context.Twin company counterpart) (events : event.Alike another)
    (dispatches : dispatch.Twin company outer) {entries : List Entry}
    (ordinary : OrdinaryEntries entries) :
    Follows (Twins company) (fun _ _ => True)
      (executeWith company.setting powers entries context event dispatch depth)
      (executeWith company.setting powers entries counterpart another outer depth) := by
  refine follows_run_list contexts depth
    (follows_for_each_indexed (fun index entry => ?_) (fun entry member index => ?_) 0)
  · exact fun size least => tracks_entry (concord.handover size least).upholds fun action _ =>
      accrues_guarded concord _ _ _ _ index action size least
  · have read := ordinary entry member
    cases entry with
    | action action =>
        exact follows_guarded orderly concord contexts events dispatches (read action rfl) index
    | persisted source =>
        refine follows_of_except_bind fun found reads => ⟨found, reads, ?_⟩
        cases found with
        | none => exact follows_warn _ _
        | some action =>
            exact follows_guarded orderly concord contexts events dispatches
              (read action reads) index

end Lists

end Execute
end Interplay
