import Interplay.Execute.Executor
import Interplay.Proofs.Evaluate.Raising
import Interplay.Proofs.Run.Consulting

/-!
Short circuits of formulas and actions.

A disjunction, a conjunction and the cases of a switch are searched in order.  Whatever else there
is behind the first item that decides is as if it were not there: it adds no call, no fault, no memo
and no duration.
-/

namespace Interplay

open Run

namespace Evaluate

/-- A body behind the boundary of a node: a failure is kept as a fault, and the node is null. -/
def atBoundary (environment : Environment) (formula : Formula) (context : Context)
    (body : Run Machine Value) :
    Run Machine Value := do
  match ← Run.attempt body with
  | .ok content => pure content
  | .error failure => do
    let reached ← Run.get
    recordFault environment context (nodeFault environment formula context reached failure)
    pure .null

variable {environment : Environment} {context : Context} {depth : Value} {machine : Machine}

theorem node_at_boundary (within : machine.limits.check "formula" "max_depth" depth = .ok ())
    (evaluator : Evaluator) (formula : Formula) :
    evaluateWith environment evaluator formula context depth machine =
      atBoundary environment formula context
        (dispatch environment evaluator formula context depth) machine := by
  unfold evaluateWith
  rw [bind_of_done (rfl : Run.get machine = .done machine machine), within]
  rfl

theorem at_boundary_of_same {body other : Run Machine Value} (formula : Formula)
    (same : body machine = other machine) :
    atBoundary environment formula context body machine =
    atBoundary environment formula context other machine := by
  have attempted : Run.attempt body machine = Run.attempt other machine := by
    unfold Run.attempt
    rw [same]
  change Run.bind (Run.attempt body) _ machine = Run.bind (Run.attempt other) _ machine
  unfold Run.bind
  rw [attempted]

theorem evaluate_top_of_same {evaluator other : Evaluator} {formula : Formula}
    (same : evaluator formula context depth machine = other formula context depth machine) :
    evaluateTop evaluator context depth (some formula) machine =
      evaluateTop other context depth (some formula) machine := by
  unfold evaluateTop Machine.timed Run.followedBy
  dsimp only
  rw [same]

/-- Evaluating a formula is evaluating its consulted items in order and going on from there, behind
the boundary of the node and timed like any other formula. -/
def Consults {α : Type} (environment : Environment) (fuel : Nat) (context : Context) (depth : Value)
    (machine : Machine) (formula : Formula) (truth : Bool)
    (step : α → Run Machine Value) (items : List α)
    (continues : List α → List Value → Run Machine Value) : Prop :=
  ∃ consulted, Consulted truth step machine items consulted ∧
    evaluate environment (fuel + 1) (some formula) context depth machine =
      evaluateTop
        (fun _ _ _ => atBoundary environment formula context
          (Run.collect step consulted >>= continues consulted))
        context depth (some formula) machine

theorem consults_of_dispatch {α : Type} {fuel : Nat} {formula : Formula} {truth : Bool}
    {step : α → Run Machine Value} {items : List α}
    {continues : List α → List Value → Run Machine Value}
    (within : machine.limits.check "formula" "max_depth" depth = .ok ())
    (circuits : ShortCircuits truth step items continues
      (dispatch environment (evaluateNode environment fuel) formula context depth) machine) :
    Consults environment fuel context depth machine formula truth step items continues := by
  obtain ⟨consulted, known, same⟩ := circuits
  refine ⟨consulted, known, ?_⟩
  apply evaluate_top_of_same
  exact (node_at_boundary within _ formula).trans (at_boundary_of_same formula same)

theorem any_operand_eq_search (truth : Bool) (operand : Argument → Run Machine Value)
    (operands : List Argument) :
    anyOperand truth operand operands = search truth operand (fun _ => pure true)
      (pure false) operands := by
  induction operands with
  | nil => rfl
  | cons first rest ih => rw [anyOperand, search, ih]

theorem first_case_eq_search (condition result : FormulaCase → Run Machine Value)
    (fallback : Run Machine Value) (cases : List FormulaCase) :
    firstCase condition result fallback cases = search true condition result fallback cases := by
  induction cases with
  | nil => rfl
  | cons first rest ih => rw [firstCase, search, ih]

theorem any_operand_short_circuits (truth : Bool) (operand : Argument → Run Machine Value)
    (operands : List Argument) :
    ShortCircuits truth operand operands
      (fun _ contents => pure (contents.any fun content => content.isTrue = truth))
      (anyOperand truth operand operands) machine := by
  rw [any_operand_eq_search]
  apply (search_short_circuits truth operand _ _ operands machine).mono
  intro consulted contents matched
  rw [← verdict_flag matched]
  exact verdict_apply pure truth (fun _ => true) false consulted contents

theorem or_consults (within : machine.limits.check "formula" "max_depth" depth = .ok ())
    (fuel : Nat) (operands : List Argument) :
    Consults environment fuel context depth machine (.or operands) true
      (fun operand => evaluateBelow (evaluateNode environment fuel) context depth operand.formula)
      operands
      fun _ contents => pure (.bool (contents.any Value.isTrue)) := by
  apply consults_of_dispatch within
  apply ((any_operand_short_circuits true _ operands).bind _).mono
  intro consulted contents _
  simp only [Bool.decide_eq_true]
  rfl

theorem and_consults (within : machine.limits.check "formula" "max_depth" depth = .ok ())
    (fuel : Nat) (operands : List Argument) :
    Consults environment fuel context depth machine (.and operands) false
      (fun operand => evaluateBelow (evaluateNode environment fuel) context depth operand.formula)
      operands
      fun _ contents => pure (.bool (contents.all Value.isTrue)) := by
  apply consults_of_dispatch within
  apply ((any_operand_short_circuits false _ operands).bind _).mono
  intro consulted contents _
  have flipped : (!contents.any fun content => decide (content.isTrue = false)) =
      contents.all Value.isTrue := by
    simp [List.not_any_eq_all_not]
  rw [← flipped]
  rfl

theorem switch_consults (within : machine.limits.check "formula" "max_depth" depth = .ok ())
    (fuel : Nat) (cases : List FormulaCase) (fallback : Option Formula) :
    Consults environment fuel context depth machine (.switch cases fallback) true
      (fun branch => evaluateBelow (evaluateNode environment fuel) context depth branch.condition)
      cases
      fun consulted contents => evaluateBelow (evaluateNode environment fuel) context depth
        (verdict true FormulaCase.result fallback consulted contents) := by
  apply consults_of_dispatch within
  change ShortCircuits true _ cases _ (firstCase _ _ _ cases) machine
  rw [first_case_eq_search]
  apply (search_short_circuits true _ _ _ cases machine).mono
  intro consulted contents _
  exact verdict_apply (evaluateBelow (evaluateNode environment fuel) context depth)
    true _ _ consulted contents

end Evaluate

namespace Execute

theorem select_case_eq_search (condition : Option Formula → Run World Value)
    (fallback : Option (List Action)) (cases : List ActionCase) :
    selectCase condition fallback cases =
      search true (fun branch => condition branch.condition)
        (fun branch => pure (some branch.actions)) (pure fallback) cases := by
  induction cases with
  | nil => rfl
  | cons first rest ih => rw [selectCase, search, ih]

/-- Runs a list that was chosen one level deeper, if any was. -/
def runChosen (runners : Runners) (context : ActionContext) (event : Value)
    (dispatch : Dispatch) (depth : Value) :
    Option (List Action) → Run World Unit
  | some actions => do
    let deeper ← Run.ofExcept depth.successor
    runners.execute (actions.map Entry.action) context event dispatch deeper
  | none => pure ()

theorem select_case_short_circuits (condition : Option Formula → Run World Value)
    (fallback : Option (List Action)) (cases : List ActionCase) (world : World) :
    ShortCircuits true (fun branch => condition branch.condition) cases
      (fun consulted contents => pure
        (verdict true (fun branch => some branch.actions) fallback consulted contents))
      (selectCase condition fallback cases) world := by
  rw [select_case_eq_search]
  apply (search_short_circuits true _ _ _ cases world).mono
  intro consulted contents _
  exact verdict_apply
    (Pure.pure : Option (List Action) → Run World (Option (List Action))) true _ fallback
    consulted contents

open Evaluate (Consults evaluate evaluateNode evaluateOptional)

/-- A disjunction evaluates its operands one level down and in order, up to the first that is true,
or all of them; a conjunction those up to the first that is false; a switch its conditions up to the
first that is true, and then only the result of that case or, if there is none, the fallback.  An
action that switches does the same with all conditions in one context and runs the list of that
case, or the fallback if there is one.  Nothing else happens. -/
theorem short_circuits_are_exact :
    (∀ (environment : Environment) (fuel : Nat) (context : Context)
      (depth : Value) (machine : Machine),
      machine.limits.check "formula" "max_depth" depth = .ok () →
      let operand (formula : Option Formula) : Run Machine Value := do
        let deeper ← Run.ofExcept depth.successor
        evaluateOptional (evaluateNode environment fuel) context deeper formula
      (∀ operands, Consults environment fuel context depth machine (.or operands) true
          (fun argument => operand argument.formula) operands
          fun _ contents => pure (.bool (contents.any Value.isTrue))) ∧
        (∀ operands, Consults environment fuel context depth machine (.and operands) false
          (fun argument => operand argument.formula) operands
          fun _ contents => pure (.bool (contents.all Value.isTrue))) ∧
        ∀ cases fallback, Consults environment fuel context depth machine
          (.switch cases fallback) true (fun branch => operand branch.condition) cases
          fun consulted contents => operand
            (verdict true FormulaCase.result fallback consulted contents)) ∧
    ∀ (setting : Setting) (runners : Runners) (context : ActionContext)
      (event : Value) (dispatch : Dispatch)
      (depth : Value) (cases : List ActionCase) (fallback : Option (List Action))
      (data : Option Formula), ∃ switching : Context → Run World Unit,
        runAction setting ⟨.silent setting, runners⟩ context event dispatch depth
          (.switch cases fallback data) =
            (formulaContext setting context event >>= switching) ∧
          ∀ inner world, ShortCircuits true
            (fun branch =>
              onMachine (evaluate setting.environment setting.formulaFuel branch.condition inner
                (.int 0)))
            cases
            (fun consulted contents => runChosen runners context event dispatch depth
              (verdict true (fun branch => some branch.actions) fallback consulted contents))
            (switching inner) world := by
  constructor
  · intro environment fuel context depth machine within
    exact ⟨Evaluate.or_consults within fuel, Evaluate.and_consults within fuel,
      Evaluate.switch_consults within fuel⟩
  · intro setting runners context event dispatch depth cases fallback data
    refine ⟨fun inner => selectCase (evaluateIn setting inner) fallback cases >>=
      runChosen runners context event dispatch depth, ?_, ?_⟩
    · refine congrArg (formulaContext setting context event >>= ·) (funext fun inner => ?_)
      exact congrArg (selectCase (evaluateIn setting inner) fallback cases >>= ·)
        (funext fun chosen => by cases chosen <;> rfl)
    · intro inner world
      exact (select_case_short_circuits (evaluateIn setting inner) fallback cases world).bind _

/-- An absent operand, a true one, and a call of a formula that nobody knows. -/
def lazyOperands : List Argument :=
  [.mk none .null false, .mk (some (.value (.int 1))) .null false,
    .mk (some (.function "unknown" [] .null)) .null false]

/-- The call of the third operand, which would add a fault, is never made. -/
theorem third_operand_is_spared :
    Limits.standard.check "formula" "max_depth" (.int 0) = .ok () ∧
      Consulted true
        (fun argument : Argument =>
          evaluateOptional (evaluateNode Evaluate.barren 1) (Context.lone .null)
            (.int 1) argument.formula)
        (Machine.lone Limits.standard 5) lazyOperands (lazyOperands.take 2) ∧
      Evaluate.evaluate Evaluate.barren 2 (some (.or lazyOperands)) (Context.lone .null) (.int 0)
        (Machine.lone Limits.standard 5) = .done (.bool true) (Machine.lone Limits.standard 5) := by
  have within : Limits.standard.check "formula" "max_depth" (.int 0) = .ok () := rfl
  have circuits := short_circuits_are_exact.1 Evaluate.barren 1 (Context.lone .null) (.int 0)
    (Machine.lone Limits.standard 5) within
  obtain ⟨consulted, known, same⟩ := circuits.1 lazyOperands
  have two : Consulted true
      (fun argument : Argument =>
        evaluateOptional (evaluateNode Evaluate.barren 1) (Context.lone .null)
          (.int 1) argument.formula)
      (Machine.lone Limits.standard 5) lazyOperands (lazyOperands.take 2) :=
    .cons rfl (by decide) (.of_found rfl rfl)
  rw [known.unique two] at same
  exact ⟨within, two, same.trans rfl⟩

end Execute
end Interplay
