import Interplay.Proofs.Evaluate.Listing
import Interplay.Proofs.Evaluate.Tracking
import Interplay.Proofs.Run.Safety
import Interplay.Proofs.Traversal.Bareness

/-!
Closures in custody.

Evaluation hands closures on in values, and host code calls those it is given.  As long as known
closures were written in a component and hold formulas that the walk over it lists, and whatever is
in reach mentions known closures only, evaluation stays among these formulas: every operand and
every body that it goes on with is listed again.
-/

namespace Interplay

namespace Routine

/-- The routine calls and answers with closures it knows only, given that what it gets back mentions
no others.  It evaluates no formula of its own. -/
def Uses (known : Nat → Prop) : Routine → Prop
  | answer value => value.Within known
  | fail _ => True
  | invoke handle arguments next => known handle ∧ arguments.Within known ∧
      (∀ value, value.Within known → (next (.ok value)).Uses known) ∧
      ∀ failure, (next (.error failure)).Uses known
  | evaluate .. => False
  | limits next => ∀ table, (next table).Uses known
  | record _ next => next.Uses known
  | advance _ next => ∀ outcome, (next outcome).Uses known
  | occurrence next => ∀ number, (next number).Uses known

end Routine

def Arguments.Within (known : Nat → Prop) : Arguments → Prop
  | named entries => entries.Within known
  | positional items => ∀ item ∈ items, item.Within known

structure View.Within (known : Nat → Prop) (view : View) : Prop where
  data : view.data.Within known
  package : view.package.Within known
  component : view.component.Within known

def FormulaHandler.IsHonest (handler : FormulaHandler) : Prop :=
  ∀ known arguments view, arguments.Within known → view.Within known →
    (handler arguments view).Uses known

/-- The host shows the component.  Its registry has no definitions and honest handlers only, and the
formulas of the component are bare. -/
structure Environment.Encloses (environment : Environment) (host : Nat) (component : Component) :
    Prop where
  own : (environment host).component = some component
  undefined : ∀ definition, ¬(environment host).formulas.Holds (.definition definition)
  honest : ∀ handler, Evaluate.Registered (environment host).formulas handler → handler.IsHonest
  bare : ∀ formula, component.Lists formula → formula.IsBare

/-- A context of the host and the package, with data that mention known closures only. -/
structure Context.IsWithin (host : Nat) (package : Value) (known : Nat → Prop) (context : Context) :
    Prop where
  host : context.host = host
  package : context.package = package
  data : context.data.Within known

theorem Context.IsWithin.with_arguments {host : Nat} {package : Value} {known : Nat → Prop}
    {context inner : Context}
    (within : context.IsWithin host package known) {arguments : Entries}
    (given : arguments.Within known)
    (made : Evaluate.withArguments arguments context = .ok inner) :
    inner.IsWithin host package known := by
  unfold Evaluate.withArguments withSlots at made
  split at made
  · cases made
  · rename_i entries spread
    cases made
    have base := Value.within_of_spread within.data spread
    have slot : Entries.Within known [(.text "Args", .mapping arguments)] := by
      intro entry member
      cases List.mem_singleton.mp member
      exact ⟨Value.within_text _, Value.within_mapping given⟩
    exact ⟨within.host, within.package, Value.within_mapping (base.merge slot)⟩

/-- Every known closure was written in the component and holds one of its formulas; so will be every
new one.  The memo of the host mentions known closures only. -/
structure Machine.Custody (component : Component) (host : Nat)
    (package : Value) (known : Nat → Prop) (machine : Machine) : Prop where
  fresh : ∀ handle, machine.closures.size ≤ handle → known handle
  closures : ∀ (handle : Nat) closure, known handle → machine.closures[handle]? = some closure →
    closure.context.IsWithin host package known ∧ ∀ formula, closure.formula = some formula →
    component.Lists formula
  memo : ∀ memo, (machine.host host).memo = some memo →
    ∀ entry ∈ memo.entries, entry.2.2.Within known

namespace Machine

open Run

variable {component : Component} {host : Nat} {package : Value} {known : Nat → Prop} {α : Type}
  {property : α → Prop}

theorem memo_modify_host {change : HostState → HostState}
    (kept : ∀ state, (change state).memo = state.memo) (number other : Nat) (machine : Machine) :
    ((machine.modifyHost number change).host other).memo = (machine.host other).memo := by
  rcases host_modify_host_cases number other machine change with same | ⟨_, changed⟩
  · rw [same]
  · rw [changed, kept]

theorem Custody.modify_host {machine : Machine}
    (custody : machine.Custody component host package known) (number : Nat)
    {change : HostState → HostState} (kept : ∀ state, (change state).memo = state.memo) :
    (machine.modifyHost number change).Custody component host package known where
  fresh := custody.fresh
  closures := custody.closures
  memo := by
    rw [memo_modify_host kept]
    exact custody.memo

theorem Custody.modify_journal {machine : Machine}
    (custody : machine.Custody component host package known)
    (change : Journal → Journal) : (machine.modifyJournal change).Custody
    component host package known :=
  ⟨custody.fresh, custody.closures, custody.memo⟩

theorem Custody.modify_stack {machine : Machine}
    (custody : machine.Custody component host package known)
    (number : Nat) (change : Cycle.Stack → Cycle.Stack) :
    (machine.modifyStack number change).Custody component host package known :=
  ⟨custody.fresh, custody.closures, custody.memo⟩

theorem Custody.new_closure {machine : Machine}
    (custody : machine.Custody component host package known)
    {closure : Closure} (within : closure.context.IsWithin host package known)
    (listed : ∀ formula, closure.formula = some formula → component.Lists formula) :
    (machine.newClosure closure).2.Custody component host package known where
  fresh := by
    intro handle beyond
    apply custody.fresh
    simp only [newClosure, Array.size_push] at beyond
    omega
  closures := by
    intro handle found isKnown present
    simp only [newClosure, Array.getElem?_push] at present
    split at present
    · cases present
      exact ⟨within, listed⟩
    · exact custody.closures handle found isKnown present
  memo := custody.memo

/-- Storing a result that mentions known closures only. -/
theorem Custody.store {machine : Machine} (custody : machine.Custody component host package known)
    {content : Value} (within : content.Within known) (number : Nat) (name fingerprint : String) :
    (machine.modifyHost number fun state =>
      { state with memo := state.memo.map (Memo.store name fingerprint content) }).Custody component
        host package known where
  fresh := custody.fresh
  closures := custody.closures
  memo := by
    intro memo present
    rcases host_modify_host_cases number host machine fun state =>
      { state with memo := state.memo.map (Memo.store name fingerprint content) } with same |
        ⟨_, changed⟩
    · rw [same] at present
      exact custody.memo memo present
    · rw [changed] at present
      obtain ⟨before, had, rfl⟩ := Option.map_eq_some_iff.mp present
      intro entry member
      rcases Keyed.mem_of_insert member with old | ⟨same, _⟩
      · exact custody.memo before had entry old
      · rw [same]
        exact within

/-! ### Bookkeeping -/

theorem safe_log (level : LogLevel) (source : LogSource) (message : String) :
    Safe (Custody component host package known) (fun _ => True)
      (modify (log level source message)) :=
  safe_modify fun _ custody => custody.modify_journal _

theorem safe_advance (seconds : Value) :
    Safe (Custody component host package known) (fun _ => True) (advance seconds) := by
  apply safe_update
  intro machine after custody changed
  cases moved : machine.journal.advance seconds with
  | error failure =>
      rw [moved] at changed
      cases changed
  | ok journal =>
      rw [moved] at changed
      cases changed
      exact custody.modify_journal fun _ => journal

theorem safe_add_fault (number : Nat) (fault : Fault) :
    Safe (Custody component host package known) (fun _ => True) (addFault number fault) := by
  apply safe_update
  intro machine after custody changed
  cases added : (machine.host number).sink.add fault with
  | error failure =>
      rw [added] at changed
      cases changed
  | ok sink =>
      rw [added] at changed
      cases changed
      exact custody.modify_host number fun _ => rfl

theorem safe_on_metrics (number : Nat) {standard : α}
    {body : Run (Metrics Value) α} (ends : Ends body) :
    Safe (Custody component host package known) (fun _ => True)
      (onMetrics number standard body) := by
  intro machine custody
  unfold onMetrics
  split
  · exact ⟨custody, trivial⟩
  · rename_i metrics _
    have ended := Result.ends_of_tracks (ends metrics trivial)
    cases result : body metrics with
    | done value after => exact ⟨custody.modify_host number fun _ => rfl, trivial⟩
    | raised failure after => exact custody.modify_host number fun _ => rfl
    | exhausted => exact absurd result ended

theorem safe_finish_timing (number : Nat) (name category budget started : Value) :
    Safe (Custody component host package known) (fun _ => True)
      (finishTiming number name category budget started) := by
  refine safe_get_bind fun machine custody =>
    safe_bind (safe_on_metrics number (Metrics.record_ends _ _ _ _ _))
      (fun _ _ => ?_) machine custody
  refine safe_of_except_bind fun exceeded _ => ?_
  split
  · exact safe_log _ _ _
  · exact safe_pure trivial

theorem safe_timed (number : Nat) (name category budget : Value) {body : Run Machine α}
    (safe : Safe (Custody component host package known) property body) :
    Safe (Custody component host package known) property (timed number name category budget body) :=
  fun machine custody => safe_followed_by safe (safe_finish_timing _ _ _ _ _) machine custody

theorem safe_on_trail (number : Nat) (kind name : String) {body : Run Machine α}
    (safe : Safe (Custody component host package known) property body) :
    Safe (Custody component host package known) property (onTrail number kind name body) :=
  fun _ custody => Result.safe_map_state (safe _ (custody.modify_host number fun _ => rfl))
    fun _ custody => custody.modify_host number fun _ => rfl

theorem safe_under_key (number : Nat) (key : String) {body : Run Machine α}
    (safe : Safe (Custody component host package known) property body) :
    Safe (Custody component host package known) property (underKey number key body) := by
  intro machine custody
  unfold underKey
  split
  · exact custody
  · exact Result.safe_map_state (safe _ (custody.modify_stack number _)) fun _ kept =>
      kept.modify_stack number _

end Machine

namespace Evaluate

open Run

section Pieces

variable {environment : Environment} {component : Component} {host : Nat}
    {package : Value} {known : Nat → Prop}

theorem safe_record_fault (context : Context) (fault : Fault) :
    Safe (Machine.Custody component host package known) (fun _ => True)
      (recordFault environment context fault) := by
  refine safe_get_bind fun machine custody => safe_bind (Machine.safe_add_fault _ _)
    (fun _ _ => ?_) machine custody
  split
  · exact Machine.safe_log _ _ _
  · exact safe_pure trivial

theorem safe_not_found (context : Context) (name type message : String) :
    Safe (Machine.Custody component host package known) (Value.Within known)
      (notFound environment context name type message) :=
  safe_bind (Machine.safe_log _ _ _) fun _ _ =>
    safe_bind (safe_record_fault _ _) fun _ _ => safe_pure Value.within_null

theorem safe_collect_named {step : Argument → Run Machine Value} {arguments : List Argument}
    (names : ∀ argument ∈ arguments, argument.name.HasNoClosures)
    (each : ∀ argument ∈ arguments,
      Safe (Machine.Custody component host package known) (Value.Within known) (step argument))
    {entries : Entries} (within : entries.Within known) :
    Safe (Machine.Custody component host package known) (Entries.Within known)
      (collectNamed step arguments entries) := by
  induction arguments generalizing entries with
  | nil => exact safe_pure within
  | cons argument rest ih =>
      have others {entries : Entries} (within : entries.Within known) := ih
        (fun other member => names other (List.mem_cons_of_mem _ member))
        (fun other member => each other (List.mem_cons_of_mem _ member)) within
      unfold collectNamed
      split
      · refine safe_bind (each argument List.mem_cons_self) fun content contentWithin => ?_
        refine safe_of_except_bind fun key keyed => others (within.insert ?_ contentWithin)
        exact Value.within_of_to_key ((names argument List.mem_cons_self).within known) keyed
      · exact others within

theorem safe_any_operand (truth : Bool) {operand : Argument → Run Machine Value}
    {arguments : List Argument} (each : ∀ argument ∈ arguments,
      Safe (Machine.Custody component host package known) (Value.Within known) (operand argument)) :
    Safe (Machine.Custody component host package known) (fun _ => True)
      (anyOperand truth operand arguments) := by
  induction arguments with
  | nil => exact safe_pure trivial
  | cons argument rest ih =>
      refine safe_bind (each argument List.mem_cons_self) fun content _ => ?_
      split
      · exact safe_pure trivial
      · exact ih fun other member => each other (List.mem_cons_of_mem _ member)

theorem safe_first_case {condition result : FormulaCase → Run Machine Value}
    {fallback : Run Machine Value} {cases : List FormulaCase}
    (conditions : ∀ branch ∈ cases,
      Safe (Machine.Custody component host package known) (Value.Within known) (condition branch))
    (results : ∀ branch ∈ cases,
      Safe (Machine.Custody component host package known) (Value.Within known) (result branch))
    (last : Safe (Machine.Custody component host package known) (Value.Within known) fallback) :
    Safe (Machine.Custody component host package known) (Value.Within known)
      (firstCase condition result fallback cases) := by
  induction cases with
  | nil => exact last
  | cons branch rest ih =>
      refine safe_bind (conditions branch List.mem_cons_self) fun content _ => ?_
      split
      · exact results branch List.mem_cons_self
      · exact ih (fun other member => conditions other (List.mem_cons_of_mem _ member))
          fun other member => results other (List.mem_cons_of_mem _ member)

/-- An evaluator that keeps custody wherever a listed formula is evaluated in a context within. -/
def Keeps (component : Component) (host : Nat) (package : Value) (known : Nat → Prop)
    (evaluator : Evaluator) : Prop :=
  ∀ formula context depth, component.Lists formula → context.IsWithin host package known →
    Safe (Machine.Custody component host package known) (Value.Within known)
      (evaluator formula context depth)

variable {evaluator : Evaluator} {context : Context}

theorem safe_below (keeps : Keeps component host package known evaluator)
    (within : context.IsWithin host package known) (depth : Value) {formula : Option Formula}
    (listed : ∀ present, formula = some present → component.Lists present) :
    Safe (Machine.Custody component host package known) (Value.Within known)
      (evaluateBelow evaluator context depth formula) := by
  refine safe_of_except_bind fun below _ => ?_
  cases formula with
  | none => exact safe_pure Value.within_null
  | some present => exact keeps present context below (listed present rfl) within

theorem safe_top (keeps : Keeps component host package known evaluator)
    (within : context.IsWithin host package known) (depth : Value) {formula : Option Formula}
    (listed : ∀ present, formula = some present → component.Lists present) :
    Safe (Machine.Custody component host package known) (Value.Within known)
      (evaluateTop evaluator context depth formula) := by
  cases formula with
  | none => exact safe_pure Value.within_null
  | some present =>
      have inner := keeps present context depth (listed present rfl) within
      intro machine custody
      unfold evaluateTop
      dsimp only
      split
      · exact Machine.safe_timed _ _ _ _ inner machine custody
      · exact inner machine custody

theorem safe_argument (keeps : Keeps component host package known evaluator)
    (within : context.IsWithin host package known) (depth : Value) {argument : Argument}
    (listed : ∀ present, argument.formula = some present → component.Lists present) :
    Safe (Machine.Custody component host package known) (Value.Within known)
      (evaluateArgument evaluator context depth argument) := by
  unfold evaluateArgument
  cases argument.isFunction with
  | true =>
      intro machine custody
      refine ⟨custody.new_closure within listed, fun handle mentioned => ?_⟩
      cases mentioned with
      | here tag => exact custody.fresh _ (Nat.le_refl _)
  | false => exact safe_below keeps within depth listed

theorem safe_named_arguments (keeps : Keeps component host package known evaluator)
    (within : context.IsWithin host package known) (depth : Value) {arguments : List Argument}
    (names : ∀ argument ∈ arguments, argument.name.HasNoClosures)
    (listed : ∀ argument ∈ arguments, ∀ present, argument.formula = some present →
      component.Lists present) :
    Safe (Machine.Custody component host package known) (Entries.Within known)
      (namedArguments evaluator context depth arguments) :=
  safe_collect_named names
    (fun argument member => safe_argument keeps within depth (listed argument member))
    Entries.within_nil

theorem safe_guarded (keeps : Keeps component host package known evaluator)
    (within : context.IsWithin host package known) (depth : Value) (key : String)
    (fingerprint : Option String)
    {body : Option Formula} (listed : ∀ present, body = some present → component.Lists present) :
    Safe (Machine.Custody component host package known) (Value.Within known)
      (evaluateGuarded evaluator context depth key fingerprint body) := by
  have inner := safe_below keeps within depth listed
  refine Machine.safe_on_trail _ _ _ ?_
  cases fingerprint with
  | none => exact inner
  | some content => exact Machine.safe_under_key _ _ inner

/-- What the memo has mentions known closures only, and so does what is stored. -/
theorem safe_memoized (keeps : Keeps component host package known evaluator)
    (within : context.IsWithin host package known) (depth : Value) (name key fingerprint : String)
    {memo : Memo String String} (kept : ∀ entry ∈ memo.entries, entry.2.2.Within known)
    {body : Option Formula} (listed : ∀ present, body = some present → component.Lists present) :
    Safe (Machine.Custody component host package known) (Value.Within known)
      (evaluateMemoized evaluator context depth name key fingerprint memo body) := by
  refine safe_bind (Machine.safe_on_metrics _ (Metrics.record_cache_ends _ _)) fun _ _ => ?_
  cases found : memo.lookup name fingerprint with
  | some content =>
      refine safe_pure ?_
      unfold Memo.lookup at found
      split at found
      · rename_i stored value present
        split at found
        · cases found
          obtain ⟨spelled, member⟩ := Keyed.mem_of_find? present
          exact kept _ member
        · cases found
      · cases found
  | none =>
      refine safe_get_bind fun before custody => safe_bind
        (safe_guarded keeps within depth key _ listed)
        (fun content contentWithin => ?_) before custody
      refine safe_get_bind fun after afterCustody => ?_
      dsimp only
      split
      · exact safe_bind (safe_modify fun _ custody => custody.store contentWithin _ _ _)
          (fun _ _ => safe_pure contentWithin) after afterCustody
      · exact safe_pure contentWithin after afterCustody

/-- A known closure goes on with a listed formula in its own context. -/
theorem safe_invoke (keeps : Keeps component host package known evaluator) {handle : Nat}
    (isKnown : known handle) {arguments : Value} (given : arguments.Within known) :
    Safe (Machine.Custody component host package known) (Value.Within known)
      (invoke evaluator handle arguments) := by
  refine safe_get_bind fun machine custody => ?_
  cases found : machine.closures[handle]? with
  | none => exact ⟨custody, Value.within_null⟩
  | some closure =>
      obtain ⟨within, listed⟩ := custody.closures handle closure isKnown found
      refine safe_of_except_bind (fun entries made => ?_) machine custody
      refine safe_of_except_bind fun inner opened => safe_of_except_bind fun below _ => ?_
      exact safe_top keeps
        (within.with_arguments (Value.within_of_to_arguments given made) opened) below listed

theorem safe_routine (keeps : Keeps component host package known evaluator) {routine : Routine}
    (uses : routine.Uses known) :
    Safe (Machine.Custody component host package known) (Value.Within known)
      (runRoutine evaluator context routine) := by
  induction routine with
  | answer value => exact safe_pure uses
  | fail failure => exact safe_raise failure
  | invoke handle arguments next ih =>
      obtain ⟨isKnown, given, answered, failed⟩ := uses
      refine safe_bind (safe_attempt (safe_invoke keeps isKnown given)) fun outcome within => ?_
      cases outcome with
      | ok value => exact ih (.ok value) (answered value (within value rfl))
      | error failure => exact ih (.error failure) (failed failure)
  | evaluate source depth next _ => exact uses.elim
  | limits next ih =>
      exact safe_get_bind fun machine custody => ih machine.limits
        (uses machine.limits) machine custody
  | record entry next ih =>
      exact safe_bind (safe_modify fun _ custody => custody.modify_journal _) fun _ _ => ih uses
  | advance seconds next ih =>
      exact safe_bind (safe_attempt (Machine.safe_advance seconds)) fun outcome _ =>
        ih outcome (uses outcome)
  | occurrence next ih =>
      refine safe_get_bind fun machine custody => ?_
      exact safe_bind (safe_modify fun _ custody => custody.modify_journal _)
        (fun _ _ => ih _ (uses _)) machine custody

theorem safe_called (keeps : Keeps component host package known evaluator)
    (within : context.IsWithin host package known) (packaged : package.Within known)
    {handler : FormulaHandler}
    (honest : handler.IsHonest) {arguments : Arguments} (given : arguments.Within known) :
    Safe (Machine.Custody component host package known) (Value.Within known)
      (callHandler environment evaluator context handler arguments) := by
  intro machine custody
  refine safe_routine keeps (honest known arguments _ given ⟨within.data, ?_, ?_⟩) machine custody
  · change context.package.Within known
    rw [within.package]
    exact packaged
  · change (componentName environment context).Within known
    unfold componentName
    split
    · exact Value.within_text _
    · exact Value.within_null

end Pieces

section Nodes

variable {environment : Environment} {component : Component} {package : Value} {known : Nat → Prop}
  {evaluator : Evaluator} {context : Context}

theorem safe_function (enclosed : environment.Encloses context.host component)
    (keeps : Keeps component context.host package known evaluator)
    (within : context.IsWithin context.host package known)
    (packaged : package.Within known) (depth : Value)
    {name : String} {arguments : List Argument} {declared : Value}
    (listed : component.Lists (.function name arguments declared)) :
    Safe (Machine.Custody component context.host package known) (Value.Within known)
      (evaluateFunction environment evaluator context depth name arguments declared) := by
  have operands : ∀ argument ∈ arguments, ∀ present, argument.formula = some present →
      component.Lists present :=
    fun argument member present same => listed.operand member same
  have named := safe_named_arguments keeps within depth (enclosed.bare _ listed).names operands
  refine safe_of_except_bind fun resolution resolved => ?_
  match resolution with
  | none => exact safe_of_except_bind fun _ _ => safe_not_found _ _ _ _
  | some (.legacy handler found) =>
      refine safe_bind
        (safe_collect fun argument member => safe_argument keeps within depth
          (operands argument member))
        fun items given => ?_
      exact safe_called keeps within packaged
        (enclosed.honest handler ⟨_, _, _, .inr resolved⟩) given
  | some (.versioned (.handler handler) found) =>
      refine safe_bind named fun entries given => ?_
      exact safe_called keeps within packaged
        (enclosed.honest handler ⟨_, _, _, .inl resolved⟩) given
  | some (.versioned (.value content) found) => exact safe_bind named fun _ _ => safe_raise _
  | some (.versioned (.definition definition) found) =>
      -- a lookup leads to a definition only where one is registered
      rcases Catalog.resolve_cases resolved with ⟨entry, holder, same, holds⟩ |
        ⟨key, entry, same, _⟩
      · cases same
        exact absurd holds (enclosed.undefined definition)
      · cases same

theorem safe_apply (enclosed : environment.Encloses context.host component)
    (keeps : Keeps component context.host package known evaluator)
    (within : context.IsWithin context.host package known) (depth : Value) {name : String}
    {arguments : List Argument} (listed : component.Lists (.apply name arguments)) :
    Safe (Machine.Custody component context.host package known) (Value.Within known)
      (evaluateApply environment evaluator context depth name arguments) := by
  have operands : ∀ argument ∈ arguments, ∀ present, argument.formula = some present →
      component.Lists present :=
    fun argument member present same => listed.operand member same
  unfold evaluateApply
  rw [enclosed.own]
  dsimp only
  cases found : Keyed.find? name component.formulas with
  | none => exact safe_not_found _ _ _ _
  | some definition =>
      have body : ∀ present, definition.formula = some present → component.Lists present :=
        fun present same => Component.lists_body found same
      refine safe_bind
        (safe_named_arguments keeps within depth (enclosed.bare _ listed).names operands)
        fun entries given => ?_
      refine safe_of_except_bind fun inner made => safe_get_bind fun machine custody => ?_
      have innerWithin := within.with_arguments given made
      -- from here on the machine matters for the memo that it was asked for only
      refine (show Safe _ _ _ from ?_) machine custody
      split
      · rename_i memo fingerprint _ present _
        exact safe_memoized keeps innerWithin depth _ _ _ (custody.memo memo present) body
      · exact safe_guarded keeps innerWithin depth _ _ body

/-- Every kind of node keeps custody, with operands and bodies that are listed like the node
itself. -/
theorem safe_dispatch (enclosed : environment.Encloses context.host component)
    (keeps : Keeps component context.host package known evaluator)
    (within : context.IsWithin context.host package known)
    (packaged : package.Within known) (depth : Value)
    {formula : Formula} (listed : component.Lists formula) :
    Safe (Machine.Custody component context.host package known) (Value.Within known)
      (dispatch environment evaluator formula context depth) := by
  have bare := enclosed.bare formula listed
  have operand : ∀ argument ∈ formula.arguments,
      Safe (Machine.Custody component context.host package known) (Value.Within known)
        (evaluateBelow evaluator context depth argument.formula) :=
    fun argument member => safe_below keeps within depth fun present same =>
      listed.operand member same
  cases formula with
  | value content => exact safe_pure ((bare.literal content rfl).within known)
  | path segments => exact safe_of_except fun value walked => Path.within_of_walk within.data walked
  | function name arguments declared =>
      exact safe_function enclosed keeps within packaged depth listed
  | apply name arguments => exact safe_apply enclosed keeps within depth listed
  | object arguments | record arguments =>
      exact safe_bind (safe_collect_named bare.names operand Entries.within_nil)
        fun entries given => safe_pure (Value.within_mapping given)
  | array arguments =>
      exact safe_bind (safe_collect operand) fun items given => safe_pure (Value.within_list given)
  | or arguments | and arguments =>
      exact safe_bind (safe_any_operand _ operand) fun _ _ => safe_pure (Value.within_scalar nofun)
  | switch cases fallback =>
      refine safe_first_case (fun branch member => ?_) (fun branch member => ?_) ?_
      · exact safe_below keeps within depth fun present same =>
          listed.part (Formula.parts_of_switch (.inl ⟨branch, member, .inl (same ▸ rfl)⟩))
      · exact safe_below keeps within depth fun present same =>
          listed.part (Formula.parts_of_switch (.inl ⟨branch, member, .inr (same ▸ rfl)⟩))
      · exact safe_below keeps within depth fun present same => listed.part
          (Formula.parts_of_switch (.inr same))

/-- A node whose work keeps custody keeps custody as a whole. -/
theorem safe_evaluate_by {host : Nat} {depth : Value} {work : Run Machine Value}
    (safe : Safe (Machine.Custody component host package known) (Value.Within known) work)
    (formula : Formula) :
    Safe (Machine.Custody component host package known) (Value.Within known)
      (evaluateBy environment context depth work formula) := by
  refine safe_get_bind fun machine custody => ?_
  cases machine.limits.check "formula" "max_depth" depth with
  | error failure =>
      cases failure with
      | fault fault =>
          exact safe_bind (safe_record_fault _ _)
            (fun _ _ => safe_pure Value.within_null) machine custody
      | mishap mishap => exact custody
  | ok =>
      refine safe_bind (safe_attempt safe) (fun outcome within => ?_) machine custody
      cases outcome with
      | ok content => exact safe_pure (within content rfl)
      | error failure =>
          refine safe_get_bind fun reached reachedCustody => ?_
          exact safe_bind (safe_record_fault _ _)
            (fun _ _ => safe_pure Value.within_null) reached reachedCustody

end Nodes

end Evaluate
end Interplay
