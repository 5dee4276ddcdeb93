import Interplay.Proofs.Evaluate.Ground

/-!
One node under two evaluators of smaller nodes.

Evaluating a node asks the evaluator of smaller nodes for its operands, enters the bodies of
definitions and calls handlers.  If the requests that the node makes track each other under two
evaluators, then so does the whole node.  What is known about evaluation with fuel comes from this
one statement, by induction on the fuel.
-/

namespace Interplay
namespace Evaluate

open Run

/-- Contexts over the same host, on the same trail and with the same cycle stack. -/
structure SameHome (first second : Context) : Prop where
  host : second.host = first.host
  trail : second.trailHost = first.trailHost
  stack : second.stack = first.stack

theorem same_home_refl (context : Context) : SameHome context context :=
  ⟨rfl, rfl, rfl⟩

theorem SameHome.trans {first second third : Context} (left : SameHome first second)
    (right : SameHome second third) : SameHome first third :=
  ⟨right.host.trans left.host, right.trail.trans left.trail, right.stack.trans left.stack⟩

theorem same_home_with_arguments {arguments : Entries} {context inner : Context}
    (made : withArguments arguments context = .ok inner) : SameHome context inner := by
  unfold withArguments Context.withSlots at made
  split at made
  · cases made
  · cases made
    exact ⟨rfl, rfl, rfl⟩

/-- A handler that some lookup in a catalog leads to. -/
def Registered (catalog : FormulaCatalog) (handler : FormulaHandler) : Prop :=
  ∃ name package found,
    catalog.resolve name package = .ok (some (.versioned (.handler handler) found)) ∨
      catalog.resolve name package = .ok (some (.legacy handler found))

/-- What a call can enter: a formula of the component, or a definition by the package and the name
it is registered under. -/
inductive Callee where
  | component (name : String)
  | registered (package : Value) (name : String)

structure Entrance where
  callee : Callee
  /-- The name on the trail. -/
  label : String
  fingerprint : Option String
  body : Option Formula

def Callee.HasLabel (environment : Environment) (host : Nat) (label : String) : Callee → Prop
  | component name => ∃ component definition, (environment host).component = some component ∧
      Keyed.find? name component.formulas = some definition ∧ label = component.name ++ "/" ++ name
  | registered package name => ∃ asked definition,
      (environment host).formulas.resolve (.text name) asked =
        .ok (some (.versioned (.definition definition) package)) ∧
      label = (package.orElse (.text "")).display ++ "/" ++ definition.name.display

/-- A call that evaluation in contexts of the host can come to. -/
structure Entrance.IsReal (environment : Environment) (host : Nat) (entrance : Entrance) :
    Prop where
  labelled : entrance.callee.HasLabel environment host entrance.label
  printed : ∃ arguments : Entries, arguments.fingerprint = entrance.fingerprint

section Entering

variable (environment : Environment) (evaluator : Evaluator)
  (enter : Context → Entrance → Run Machine Value) (context : Context) (depth : Value)

/-- As `evaluateFunction`, but it is left open how the body of a definition is entered. -/
def functionBy (name : String) (arguments : List Argument) (declared : Value) :
    Run Machine Value := do
  let package := declared.orElse context.package
  match ← Run.ofExcept ((environment context.host).formulas.resolve (.text name) package) with
  | none => do
    let _ ← Run.ofExcept package.written
    notFound environment context name "function" ("Formula not found: " ++ package.qualify name)
  | some (.legacy handler _) => do
    let items ← Run.collect (evaluateArgument evaluator context depth) arguments
    callHandler environment evaluator context handler (.positional items)
  | some (.versioned (.handler handler) _) => do
    let entries ← namedArguments evaluator context depth arguments
    callHandler environment evaluator context handler (.named entries)
  | some (.versioned (.value content) _) => do
    let _ ← namedArguments evaluator context depth arguments
    Run.raise (.mishap (.notCallable content.typeName))
  | some (.versioned (.definition definition) found) => do
    let entries ← namedArguments evaluator context depth arguments
    let inner ← Run.ofExcept (withArguments entries context)
    enter { inner with package := found.orElse package }
      { callee := .registered found name
        label := (found.orElse (.text "")).display ++ "/" ++ definition.name.display
        fingerprint := entries.fingerprint
        body := definition.formula }

/-- As `evaluateMemoized`, but it is left open how a result is computed that the memo does not
have. -/
def memoizedBy (compute : Run Machine Value) (name fingerprint : String)
    (memo : Memo String String) :
    Run Machine Value := do
  let cached := memo.lookup name fingerprint
  Machine.onMetrics context.host () (Metrics.recordCache (.text name) cached.isSome)
  match cached with
  | some content => pure content
  | none => do
    let before ← Run.get
    let content ← compute
    let after ← Run.get
    if (after.host context.host).sink.total = (before.host context.host).sink.total then
      Run.modify (Machine.modifyHost context.host fun state =>
        { state with memo := state.memo.map (Memo.store name fingerprint content) })
    pure content

@[inherit_doc functionBy]
def applyBy (name : String) (arguments : List Argument) : Run Machine Value :=
  match (environment context.host).component with
  | none => notFound environment context name "apply" ("Component formula not found: " ++ name)
  | some component =>
    match Keyed.find? name component.formulas with
    | none => notFound environment context name "apply" ("Component formula not found: " ++ name)
    | some definition => do
      let entries ← namedArguments evaluator context depth arguments
      let inner ← Run.ofExcept (withArguments entries context)
      let entrance (fingerprint : Option String) : Entrance :=
        { callee := .component name, label := component.name ++ "/" ++ name, fingerprint := fingerprint
          body := definition.formula }
      let machine ← Run.get
      match definition.memoize, (machine.host context.host).memo, entries.fingerprint with
      | true, some memo, some fingerprint =>
        memoizedBy inner (enter inner (entrance (some fingerprint))) name fingerprint memo
      | _, _, fingerprint => enter inner (entrance fingerprint)

@[inherit_doc functionBy]
def dispatchBy : Formula → Run Machine Value
  | .function name arguments package => functionBy environment evaluator enter context depth name arguments package
  | .apply name arguments => applyBy environment evaluator enter context depth name arguments
  | other => dispatch environment evaluator other context depth

/-- As `evaluateWith`, but it is left open what work is done in the node. -/
def evaluateBy (work : Run Machine Value) (formula : Formula) : Run Machine Value := do
  let machine ← Run.get
  match machine.limits.check "formula" "max_depth" depth with
  | .error (.fault fault) => do
    recordFault environment context fault
    pure .null
  | .error failure => Run.raise failure
  | .ok () => do
    match ← Run.attempt work with
    | .ok content => pure content
    | .error failure => do
      let reached ← Run.get
      recordFault environment context (nodeFault environment formula context reached failure)
      pure .null

end Entering

def enterGuarded (evaluator : Evaluator) (depth : Value) (context : Context) (entrance : Entrance) :
    Run Machine Value :=
  evaluateGuarded evaluator context depth entrance.label entrance.fingerprint entrance.body

theorem dispatch_eq (environment : Environment) (evaluator : Evaluator) (context : Context) (depth : Value)
    (formula : Formula) :
    dispatch environment evaluator formula context depth =
      dispatchBy environment evaluator (enterGuarded evaluator depth) context depth formula := by
  cases formula <;> rfl

theorem evaluate_with_eq (environment : Environment) (evaluator : Evaluator)
    (formula : Formula) (context : Context) (depth : Value) :
    evaluateWith environment evaluator formula context depth =
      evaluateBy environment context depth
        (dispatch environment evaluator formula context depth) formula :=
  rfl

/-- The operands that a node asks for, followed under two evaluators. -/
structure Operands (lost : Prop) (invariant : Machine → Prop)
    (first second : Evaluator) (context : Context) (depth : Value) : Prop where
  closure : ∀ formula machine, invariant machine →
    invariant (machine.newClosure { formula := formula, context := context, depth := depth }).2
  below : ∀ formula, Tracks lost invariant (evaluateBelow first context depth formula)
    (evaluateBelow second context depth formula)

structure Requests (lost : Prop) (invariant : Machine → Prop) (environment : Environment)
    (first second : Evaluator) (context : Context) (depth : Value) : Prop
    extends Operands lost invariant first second context depth where
  tolerant : Machine.Tolerant context.host invariant
  guarded : ∀ inner key fingerprint body, SameHome context inner →
    Tracks lost invariant (evaluateGuarded first inner depth key fingerprint body)
      (evaluateGuarded second inner depth key fingerprint body)
  called : ∀ handler arguments, Registered (environment context.host).formulas handler →
    Tracks lost invariant (callHandler environment first context handler arguments)
      (callHandler environment second context handler arguments)

/-- All requests that a node makes, where it is left open how bodies are entered. -/
structure RequestsBy (lost : Prop) (invariant : Machine → Prop) (environment : Environment)
    (first second : Evaluator) (enter other : Context → Entrance → Run Machine Value)
    (context : Context)
    (depth : Value) : Prop extends Operands lost invariant first second context depth where
  tolerant : Machine.Tolerant context.host invariant
  entered : ∀ inner entrance, SameHome context inner → entrance.IsReal environment context.host →
    Tracks lost invariant (enter inner entrance) (other inner entrance)
  called : ∀ handler arguments, Registered (environment context.host).formulas handler →
    Tracks lost invariant (callHandler environment first context handler arguments)
      (callHandler environment second context handler arguments)

theorem Requests.by_guarded {lost : Prop} {invariant : Machine → Prop} {environment : Environment}
    {first second : Evaluator} {context : Context} {depth : Value}
    (requests : Requests lost invariant environment first second context depth) :
    RequestsBy lost invariant environment first second (enterGuarded first depth)
      (enterGuarded second depth) context depth :=
  ⟨requests.toOperands, requests.tolerant, fun inner _ home _ => requests.guarded inner _ _ _ home,
    requests.called⟩

section Steps

variable {lost : Prop} {invariant : Machine → Prop} {environment : Environment}

theorem tracks_record_fault {context : Context} (tolerant : Machine.Tolerant context.host invariant)
    (fault : Fault) :
    Tracks lost invariant (recordFault environment context fault)
      (recordFault environment context fault) := by
  refine tracks_bind tracks_get fun machine => ?_
  refine tracks_bind (Machine.tracks_add_fault tolerant _) fun _ => ?_
  split
  · exact Machine.tracks_log tolerant _ _ _
  · exact tracks_pure ()

theorem tracks_not_found {context : Context} (tolerant : Machine.Tolerant context.host invariant)
    (name type message : String) :
    Tracks lost invariant (notFound environment context name type message)
      (notFound environment context name type message) := by
  refine tracks_bind (Machine.tracks_log tolerant _ _ _) fun _ => ?_
  exact tracks_bind (tracks_record_fault tolerant _) fun _ => tracks_pure Value.null

theorem tracks_collect_named {step other : Argument → Run Machine Value}
    (tracks : ∀ argument, Tracks lost invariant (step argument) (other argument))
    (arguments : List Argument) (entries : Entries) :
    Tracks lost invariant (collectNamed step arguments entries)
      (collectNamed other arguments entries) := by
  induction arguments generalizing entries with
  | nil => exact tracks_pure entries
  | cons argument rest ih =>
      unfold collectNamed
      split
      · refine tracks_bind (tracks argument) fun content => ?_
        exact tracks_bind (tracks_of_except _) fun key => ih _
      · exact ih entries

theorem tracks_any_operand {operand other : Argument → Run Machine Value} (truth : Bool)
    (tracks : ∀ argument, Tracks lost invariant (operand argument) (other argument))
    (arguments : List Argument) :
    Tracks lost invariant (anyOperand truth operand arguments)
      (anyOperand truth other arguments) := by
  induction arguments with
  | nil => exact tracks_pure false
  | cons argument rest ih =>
      refine tracks_bind (tracks argument) fun content => ?_
      split
      · exact tracks_pure true
      · exact ih

theorem tracks_first_case
    {condition result otherCondition otherResult : FormulaCase → Run Machine Value}
    {fallback otherFallback : Run Machine Value}
    (conditions : ∀ branch, Tracks lost invariant (condition branch) (otherCondition branch))
    (results : ∀ branch, Tracks lost invariant (result branch) (otherResult branch))
    (last : Tracks lost invariant fallback otherFallback) (cases : List FormulaCase) :
    Tracks lost invariant (firstCase condition result fallback cases)
      (firstCase otherCondition otherResult otherFallback cases) := by
  induction cases with
  | nil => exact last
  | cons branch rest ih =>
      refine tracks_bind (conditions branch) fun content => ?_
      split
      · exact results branch
      · exact ih

end Steps

section Nodes

variable {lost : Prop} {invariant : Machine → Prop} {environment : Environment}
  {first second : Evaluator} {context : Context} {depth : Value}

theorem tracks_argument (operands : Operands lost invariant first second context depth)
    (argument : Argument) :
    Tracks lost invariant (evaluateArgument first context depth argument)
      (evaluateArgument second context depth argument) := by
  unfold evaluateArgument
  cases argument.isFunction with
  | true => exact fun machine holds => ⟨rfl, operands.closure argument.formula machine holds⟩
  | false => exact operands.below argument.formula

theorem tracks_named_arguments (operands : Operands lost invariant first second context depth)
    (arguments : List Argument) :
    Tracks lost invariant (namedArguments first context depth arguments)
      (namedArguments second context depth arguments) :=
  tracks_collect_named (tracks_argument operands) arguments []

variable {enter other : Context → Entrance → Run Machine Value}

theorem tracks_function_by
    (requests : RequestsBy lost invariant environment first second enter other context depth)
    (name : String) (arguments : List Argument) (declared : Value) :
    Tracks lost invariant (functionBy environment first enter context depth name arguments declared)
      (functionBy environment second other context depth name arguments declared) := by
  refine tracks_of_except_bind fun resolution resolved => ?_
  match resolution with
  | none => exact tracks_bind (tracks_of_except _) fun _ => tracks_not_found requests.tolerant _ _ _
  | some (.legacy handler found) =>
      refine tracks_bind (tracks_collect (tracks_argument requests.toOperands) arguments)
        fun items => ?_
      exact requests.called handler (.positional items) ⟨_, _, _, .inr resolved⟩
  | some (.versioned (.handler handler) found) =>
      refine tracks_bind (tracks_named_arguments requests.toOperands arguments) fun entries => ?_
      exact requests.called handler (.named entries) ⟨_, _, _, .inl resolved⟩
  | some (.versioned (.value content) found) =>
      exact tracks_bind (tracks_named_arguments requests.toOperands arguments) fun _ =>
        tracks_raise _
  | some (.versioned (.definition definition) found) =>
      refine tracks_bind (tracks_named_arguments requests.toOperands arguments) fun entries => ?_
      refine tracks_of_except_bind fun inner made => ?_
      have home := same_home_with_arguments made
      exact requests.entered _ _ ⟨home.host, home.trail, home.stack⟩
        ⟨⟨_, definition, resolved, rfl⟩, entries, rfl⟩

/-- A memoized call tracks if the body does that it may fall back to. -/
theorem tracks_memoized_by (tolerant : Machine.Tolerant context.host invariant)
    {compute computed : Run Machine Value}
    (tracks : Tracks lost invariant compute computed) (name fingerprint : String)
    (memo : Memo String String) :
    Tracks lost invariant (memoizedBy context compute name fingerprint memo)
      (memoizedBy context computed name fingerprint memo) := by
  refine tracks_bind ?_ fun _ => ?_
  · exact Machine.tracks_on_metrics tolerant _ _ (Metrics.record_cache_ends _ _)
      (Metrics.record_cache_keeps _ _)
  · split
    · exact tracks_pure _
    · refine tracks_bind tracks_get fun before => tracks_bind tracks fun content => ?_
      refine tracks_bind tracks_get fun after => ?_
      dsimp only
      split
      · refine tracks_bind ?_ fun _ => tracks_pure content
        exact Machine.tracks_booked_modify tolerant fun machine =>
          Machine.booked_modify_host machine rfl rfl rfl (Nat.le_refl _)
      · exact tracks_pure content

theorem tracks_memoized (tolerant : Machine.Tolerant context.host invariant)
    {name key fingerprint : String} {memo : Memo String String} {body : Option Formula}
    (guarded : Tracks lost invariant
      (evaluateGuarded first context depth key (some fingerprint) body)
      (evaluateGuarded second context depth key (some fingerprint) body)) :
    Tracks lost invariant (evaluateMemoized first context depth name key fingerprint memo body)
      (evaluateMemoized second context depth name key fingerprint memo body) :=
  tracks_memoized_by tolerant guarded name fingerprint memo

theorem tracks_apply_by (requests : RequestsBy lost invariant environment first second enter other context depth)
    (name : String) (arguments : List Argument) :
    Tracks lost invariant (applyBy environment first enter context depth name arguments)
      (applyBy environment second other context depth name arguments) := by
  unfold applyBy
  cases present : (environment context.host).component with
  | none => exact tracks_not_found requests.tolerant _ _ _
  | some component =>
      dsimp only
      cases found : Keyed.find? name component.formulas with
      | none => exact tracks_not_found requests.tolerant _ _ _
      | some definition =>
          refine tracks_bind (tracks_named_arguments requests.toOperands arguments) fun entries => ?_
          refine tracks_of_except_bind fun inner made => tracks_bind tracks_get fun machine => ?_
          have home := same_home_with_arguments made
          have labelled : (Callee.component name).HasLabel environment context.host (component.name ++ "/" ++ name) :=
            ⟨component, definition, present, found, rfl⟩
          split
          · rename_i memo fingerprint _ _ printed
            refine tracks_memoized_by ?_ ?_ name fingerprint memo
            · rw [home.host]
              exact requests.tolerant
            · exact requests.entered inner _ home ⟨labelled, entries, printed⟩
          · exact requests.entered inner _ home ⟨labelled, entries, rfl⟩

theorem tracks_dispatch_of_operands
    (below : ∀ formula, Tracks lost invariant (evaluateBelow first context depth formula)
      (evaluateBelow second context depth formula)) (formula : Formula)
    (functions : ∀ name arguments package, formula = .function name arguments package →
      Tracks lost invariant
        (evaluateFunction environment first context depth name arguments package)
        (evaluateFunction environment second context depth name arguments package))
    (applies : ∀ name arguments, formula = .apply name arguments →
      Tracks lost invariant (evaluateApply environment first context depth name arguments)
        (evaluateApply environment second context depth name arguments)) :
    Tracks lost invariant (dispatch environment first formula context depth)
      (dispatch environment second formula context depth) := by
  have operand : ∀ argument : Argument,
      Tracks lost invariant (evaluateBelow first context depth argument.formula)
        (evaluateBelow second context depth argument.formula) :=
    fun argument => below argument.formula
  cases formula with
  | value content => exact tracks_pure content
  | path segments => exact tracks_of_except _
  | function name arguments package => exact functions name arguments package rfl
  | apply name arguments => exact applies name arguments rfl
  | object arguments =>
      exact tracks_bind (tracks_collect_named operand arguments []) fun _ => tracks_pure _
  | record arguments =>
      exact tracks_bind (tracks_collect_named operand arguments []) fun _ => tracks_pure _
  | array arguments => exact tracks_bind (tracks_collect operand arguments) fun _ => tracks_pure _
  | or arguments =>
      exact tracks_bind (tracks_any_operand true operand arguments) fun _ => tracks_pure _
  | and arguments =>
      exact tracks_bind (tracks_any_operand false operand arguments) fun _ => tracks_pure _
  | switch cases fallback =>
      exact tracks_first_case (fun branch => below branch.condition)
        (fun branch => below branch.result) (below fallback) cases

/-- Every kind of node tracks itself under two evaluators, and two ways to enter bodies, if its
requests do. -/
theorem tracks_dispatch_by (requests : RequestsBy lost invariant environment first second enter other context depth)
    (formula : Formula) :
    Tracks lost invariant (dispatchBy environment first enter context depth formula)
      (dispatchBy environment second other context depth formula) := by
  unfold dispatchBy
  split
  · exact tracks_function_by requests _ _ _
  · exact tracks_apply_by requests _ _
  · rename_i noFunction noApply
    exact tracks_dispatch_of_operands requests.below _
      (fun name arguments package same => absurd same (noFunction name arguments package))
      fun name arguments same => absurd same (noApply name arguments)

theorem tracks_dispatch (requests : Requests lost invariant environment first second context depth)
    (formula : Formula) :
    Tracks lost invariant (dispatch environment first formula context depth)
      (dispatch environment second formula context depth) := by
  rw [dispatch_eq, dispatch_eq]
  exact tracks_dispatch_by requests.by_guarded formula

/-- A node whose work tracks, wherever its depth lets it get to work, tracks as a whole. -/
theorem tracks_evaluate_by (tolerant : Machine.Tolerant context.host invariant)
    {work done : Run Machine Value}
    (works : ∀ machine, invariant machine →
      machine.limits.check "formula" "max_depth" depth = .ok () →
      Tracks lost invariant work done) (formula : Formula) :
    Tracks lost invariant (evaluateBy environment context depth work formula)
      (evaluateBy environment context depth done formula) := by
  refine tracks_get_bind fun machine holds => ?_
  cases checked : machine.limits.check "formula" "max_depth" depth with
  | error failure =>
      cases failure with
      | fault fault =>
          exact tracks_bind (tracks_record_fault tolerant fault)
            (fun _ => tracks_pure Value.null) machine holds
      | mishap mishap => exact tracks_raise _ machine holds
  | ok =>
      refine tracks_bind (tracks_attempt (works machine holds checked))
        (fun outcome => ?_) machine holds
      cases outcome with
      | ok content => exact tracks_pure content
      | error failure =>
          refine tracks_bind tracks_get fun reached => ?_
          exact tracks_bind (tracks_record_fault tolerant _) fun _ => tracks_pure Value.null

theorem tracks_evaluate_with (tolerant : Machine.Tolerant context.host invariant)
    (formula : Formula)
    (works : ∀ machine, invariant machine →
      machine.limits.check "formula" "max_depth" depth = .ok () →
      Tracks lost invariant (dispatch environment first formula context depth)
        (dispatch environment second formula context depth)) :
    Tracks lost invariant (evaluateWith environment first formula context depth)
      (evaluateWith environment second formula context depth) :=
  tracks_evaluate_by tolerant works formula

theorem tracks_evaluate_top (tolerant : Machine.Tolerant context.host invariant)
    {formula : Option Formula} (tracks : ∀ present, formula = some present →
      Tracks lost invariant (first present context depth) (second present context depth)) :
    Tracks lost invariant (evaluateTop first context depth formula)
      (evaluateTop second context depth formula) := by
  cases formula with
  | none => exact tracks_pure Value.null
  | some present =>
      intro machine holds
      unfold evaluateTop
      dsimp only
      split
      · exact Machine.tracks_timed tolerant _ _ _ _ (tracks present rfl) machine holds
      · exact tracks present rfl machine holds

end Nodes

end Evaluate
end Interplay
