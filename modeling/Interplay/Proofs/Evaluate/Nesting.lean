import Interplay.Proofs.Cycle.Stack
import Interplay.Proofs.Evaluate.Watch

/-!
Evaluation with its nesting spelled out.

In nested evaluation the steps that enclose a node are handed down to it instead of being looked up:
the body of a definition is given one step more than its caller, and a fault is stamped with the
steps that were handed down.  Nested evaluation is broken off, as if its fuel had run out, as soon
as a node, a handler or a fault finds the trails of the machine different from them.  Evaluation
that comes to an end is the same as nested evaluation, and leaves the trails and the cycle stacks as
they were.
-/

namespace Interplay

/-- The steps that enclose a piece of work, on the trail of each host. -/
abbrev Nest := Array Trail

namespace Nest

def push (number : Nat) (kind name : String) (nest : Nest) : Nest :=
  nest.modify number (Trail.pushNamed kind name)

def steps (number : Nat) (nest : Nest) : List TrailStep :=
  ((nest[number]?).getD Trail.empty).steps

theorem pop_push (number : Nat) (kind name : String) (nest : Nest) :
    (nest.push number kind name).modify number Trail.pop = nest := by
  apply Array.ext_getElem?
  intro index
  simp only [push, Array.getElem?_modify]
  split
  · cases nest[index]? with
    | none => rfl
    | some trail => exact congrArg some (Trail.pop_push _ trail)
  · rfl

end Nest

namespace Machine

/-- The trails of all hosts. -/
def trails (machine : Machine) : Nest :=
  machine.hosts.map HostState.trail

theorem trails_modify_trail (number : Nat) (change : Trail → Trail) (machine : Machine) :
    (machine.modifyHost number fun state => { state with trail := change state.trail }).trails =
      machine.trails.modify number change := by
  apply Array.ext_getElem?
  intro index
  simp only [trails, modifyHost, Array.getElem?_map, Array.getElem?_modify]
  split
  · cases machine.hosts[index]? <;> rfl
  · rfl

theorem trails_push_step (number : Nat) (kind name : String) (machine : Machine) :
    (machine.pushStep number kind name).trails = machine.trails.push number kind name :=
  trails_modify_trail number _ machine

theorem trails_pop_step (number : Nat) (machine : Machine) :
    (machine.popStep number).trails = machine.trails.modify number Trail.pop :=
  trails_modify_trail number _ machine

theorem trail_steps_eq (number : Nat) (machine : Machine) :
    machine.trailSteps number = machine.trails.steps number := by
  simp only [trailSteps, host, Nest.steps, trails, Array.getElem?_map]
  cases machine.hosts[number]? <;> rfl

theorem Booked.trails_eq {number : Nat} {before after : Machine}
    (booked : Booked number before after) :
    after.trails = before.trails := by
  apply Array.ext_getElem?
  intro index
  have same := booked.trails index
  unfold Machine.trails
  rw [Array.getElem?_map, Array.getElem?_map]
  by_cases present : index < before.hosts.size
  · have later : index < after.hosts.size := by
      rw [booked.hosts]
      exact present
    simp only [host, Array.getElem?_eq_getElem present, Array.getElem?_eq_getElem later,
      Option.getD_some] at same
    simp only [Array.getElem?_eq_getElem present, Array.getElem?_eq_getElem later, Option.map_some,
      same]
  · have later : after.hosts.size ≤ index := by
      rw [booked.hosts]
      exact Nat.le_of_not_lt present
    rw [Array.getElem?_eq_none (Nat.le_of_not_lt present), Array.getElem?_eq_none later]

/-- Machines with the same trails and the same cycle stacks. -/
structure Restored (before after : Machine) : Prop where
  trails : after.trails = before.trails
  cycles : after.cycleStacks = before.cycleStacks

theorem Restored.refl (machine : Machine) : Restored machine machine :=
  ⟨rfl, rfl⟩

theorem Restored.trans {first second third : Machine} (left : Restored first second)
    (right : Restored second third) :
    Restored first third :=
  ⟨right.trails.trans left.trails, right.cycles.trans left.cycles⟩

theorem restored_tolerant (origin : Machine) (number : Nat) : Tolerant number (Restored origin) :=
  fun _ _ booked kept => ⟨booked.trails_eq.trans kept.trails, booked.cycles.trans kept.cycles⟩

theorem Restored.pop {number : Nat} {kind name : String} {machine after : Machine}
    (kept : Restored (machine.pushStep number kind name) after) : Restored machine
    (after.popStep number) := by
  refine ⟨?_, kept.cycles⟩
  rw [trails_pop_step, kept.trails, trails_push_step, Nest.pop_push]

theorem Restored.leave {number : Nat} {key : String}
    {machine after : Machine} {entered : Cycle.Stack}
    (entry : (machine.stack number).enter machine.limits key = .ok entered)
    (kept : Restored (machine.modifyStack number fun _ => entered) after) :
    Restored machine (after.modifyStack number (Cycle.Stack.leave key)) := by
  obtain ⟨inactive, rfl⟩ := Cycle.Stack.entered_is_pushed entry
  refine ⟨kept.trails, ?_⟩
  have entered : after.cycleStacks = machine.cycleStacks.modify number fun _ =>
    (machine.stack number).pushed key :=
    kept.cycles
  change after.cycleStacks.modify number _ = machine.cycleStacks
  rw [entered]
  apply Array.ext_getElem?
  intro index
  simp only [Array.getElem?_modify]
  split
  · rename_i same
    subst same
    cases found : machine.cycleStacks[number]? with
    | none => rfl
    | some stack =>
        have held : machine.stack number = stack := by
          simp [Machine.stack, found]
        simp only [Option.map_some]
        rw [Cycle.Stack.leave_pushed inactive, held]
  · rfl

end Machine

namespace Run

variable {σ α : Type} {lost : Prop} {invariant : σ → Prop}

open Classical in
noncomputable def provided (test : σ → Prop) (body : Run σ α) : Run σ α := fun state =>
  if test state then body state else .exhausted

theorem tracks_provided {test : σ → Prop} (passes : ∀ state, invariant state → test state)
    {run other : Run σ α}
    (tracks : Tracks lost invariant run other) : Tracks lost invariant run
    (provided test other) := by
  intro state holds
  unfold provided
  rw [if_pos (passes state holds)]
  exact tracks state holds

end Run

namespace Evaluate

open Run

/-- Work that finds the trails as they were handed down. -/
noncomputable def within {α : Type} (nest : Nest) (body : Run Machine α) : Run Machine α :=
  provided (fun machine => machine.trails = nest) body

section Nested

variable (environment : Environment) (smaller : Nest → Evaluator) (nest : Nest)

noncomputable def recordNested (context : Context) (fault : Fault) : Run Machine Unit :=
  within nest do
    Machine.addFault context.host (fault.stamp (nest.steps context.trailHost))
    if (environment context.host).logErrors then
      Run.modify (Machine.log .error .evaluate fault.text)

noncomputable def notFoundNested (context : Context) (name type message : String) :
    Run Machine Value := do
  Run.modify (Machine.log .warning .evaluate message)
  recordNested environment nest context (Fault.formula name type message [] .null none)
  pure .null

noncomputable def functionNested (context : Context) (depth : Value) (name : String)
    (arguments : List Argument) (declared : Value) : Run Machine Value := do
  let package := declared.orElse context.package
  match ← Run.ofExcept ((environment context.host).formulas.resolve (.text name) package) with
  | none => do
    let _ ← Run.ofExcept package.written
    notFoundNested environment nest context name "function"
      ("Formula not found: " ++ package.qualify name)
  | some (.legacy handler _) => do
    let items ← Run.collect (evaluateArgument (smaller nest) context depth) arguments
    within nest (callHandler environment (smaller nest) context handler (.positional items))
  | some (.versioned (.handler handler) _) => do
    let entries ← namedArguments (smaller nest) context depth arguments
    within nest (callHandler environment (smaller nest) context handler (.named entries))
  | some (.versioned (.value content) _) => do
    let _ ← namedArguments (smaller nest) context depth arguments
    Run.raise (.mishap (.notCallable content.typeName))
  | some (.versioned (.definition definition) found) => do
    let entries ← namedArguments (smaller nest) context depth arguments
    let inner ← Run.ofExcept (withArguments entries context)
    let bodyContext := { inner with package := found.orElse package }
    let key := (found.orElse (.text "")).display ++ "/" ++ definition.name.display
    evaluateGuarded (smaller (nest.push context.trailHost "formula" key)) bodyContext
      depth key entries.fingerprint definition.formula

noncomputable def applyNested (context : Context) (depth : Value) (name : String)
    (arguments : List Argument) :
    Run Machine Value :=
  match (environment context.host).component with
  | none =>
    notFoundNested environment nest context name "apply" ("Component formula not found: " ++ name)
  | some component =>
    match Keyed.find? name component.formulas with
    | none =>
      notFoundNested environment nest context name "apply" ("Component formula not found: " ++ name)
    | some definition => do
      let entries ← namedArguments (smaller nest) context depth arguments
      let bodyContext ← Run.ofExcept (withArguments entries context)
      let key := component.name ++ "/" ++ name
      let inside := smaller (nest.push context.trailHost "formula" key)
      let machine ← Run.get
      match definition.memoize, (machine.host context.host).memo, entries.fingerprint with
      | true, some memo, some fingerprint =>
        evaluateMemoized inside bodyContext depth name key fingerprint memo definition.formula
      | _, _, fingerprint =>
        evaluateGuarded inside bodyContext depth key fingerprint definition.formula

noncomputable def dispatchNested (formula : Formula) (context : Context) (depth : Value) :
    Run Machine Value :=
  match formula with
  | .function name arguments package =>
    functionNested environment smaller nest context depth name arguments package
  | .apply name arguments => applyNested environment smaller nest context depth name arguments
  | other => dispatch environment (smaller nest) other context depth

def faultNested (formula : Formula) (context : Context) : Failure → Fault
  | .fault fault => fault
  | .mishap mishap =>
    Fault.formula (formula.name?.getD formula.tag) formula.tag
      ("Formula evaluation error: " ++ mishap.message) (nest.steps context.trailHost)
      (componentName environment context) (some mishap)

noncomputable def nodeNested (formula : Formula) (context : Context) (depth : Value) :
    Run Machine Value :=
  within nest do
    let machine ← Run.get
    match machine.limits.check "formula" "max_depth" depth with
    | .error (.fault fault) => do
      recordNested environment nest context fault
      pure .null
    | .error failure => Run.raise failure
    | .ok () => do
      match ← Run.attempt (dispatchNested environment smaller nest formula context depth) with
      | .ok content => pure content
      | .error failure => do
        recordNested environment nest context (faultNested environment nest formula context failure)
        pure .null

end Nested

noncomputable def nestedNode (environment : Environment) : Nat → Nest → Evaluator
  | 0 => fun _ _ _ _ => Run.exhaust
  | fuel + 1 => nodeNested environment (nestedNode environment fuel)

section Steps

variable {environment : Environment} {origin : Machine}

theorem tracks_within {α : Type} {run other : Run Machine α}
    (tracks : Tracks True (Machine.Restored origin) run other) :
    Tracks True (Machine.Restored origin) run (within origin.trails other) :=
  tracks_provided (fun _ kept => kept.trails) tracks

theorem tracks_record_nested (context : Context) (fault : Fault) :
    Tracks True (Machine.Restored origin) (recordFault environment context fault)
      (recordNested environment origin.trails context fault) := by
  intro machine kept
  have path : machine.trailSteps context.trailHost = origin.trails.steps context.trailHost := by
    rw [Machine.trail_steps_eq, kept.trails]
  have same : recordNested environment origin.trails context fault machine =
      recordFault environment context fault machine := by
    unfold recordNested within provided
    rw [if_pos kept.trails, ← path]
    rfl
  rw [same]
  exact tracks_record_fault (Machine.restored_tolerant origin _) fault machine kept

theorem tracks_not_found_nested (context : Context) (name type message : String) :
    Tracks True (Machine.Restored origin) (notFound environment context name type message)
      (notFoundNested environment origin.trails context name type message) := by
  refine tracks_bind (Machine.tracks_log (Machine.restored_tolerant origin 0) _ _ _) fun _ => ?_
  exact tracks_bind (tracks_record_nested context _) fun _ => tracks_pure Value.null

def NodesNest (evaluator : Evaluator) (nested : Nest → Evaluator) : Prop :=
  ∀ origin formula context depth, Tracks True (Machine.Restored origin)
    (evaluator formula context depth) (nested origin.trails formula context depth)

variable {evaluator : Evaluator} {nested : Nest → Evaluator} (nests : NodesNest evaluator nested)

include nests

theorem tracks_below_nested (context : Context) (depth : Value) (formula : Option Formula) :
    Tracks True (Machine.Restored origin) (evaluateBelow evaluator context depth formula)
      (evaluateBelow (nested origin.trails) context depth formula) :=
  tracks_below (fun below _ present => nests origin present context below) formula

theorem operands_nested (context : Context) (depth : Value) :
    Operands True (Machine.Restored origin) evaluator (nested origin.trails) context depth :=
  ⟨fun _ _ kept => ⟨kept.trails, kept.cycles⟩, tracks_below_nested nests context depth⟩

theorem tracks_key_nested (context : Context) (depth : Value) (number : Nat) (key : String)
    (body : Option Formula) :
    Tracks True (Machine.Restored origin)
      (Machine.underKey number key (evaluateBelow evaluator context depth body))
      (Machine.underKey number key (evaluateBelow (nested origin.trails) context depth body)) := by
  intro machine kept
  unfold Machine.underKey
  cases entry : (machine.stack number).enter machine.limits key with
  | error failure => exact ⟨rfl, kept⟩
  | ok entered =>
      -- the body starts from the stack with the key, and is told the trails that it starts on
      have inner :=
        tracks_below_nested nests context depth body (machine.modifyStack number fun _ => entered)
          (.refl _)
      have same : (machine.modifyStack number fun _ => entered).trails = origin.trails :=
        kept.trails
      rw [same] at inner
      exact Result.tracks_map_state inner fun after left => kept.trans (left.leave entry)

/-- The body of a definition is told one step more. -/
theorem tracks_guarded_nested (context : Context) (depth : Value) (key : String)
    (fingerprint : Option String) (body : Option Formula) :
    Tracks True (Machine.Restored origin)
      (evaluateGuarded evaluator context depth key fingerprint body)
      (evaluateGuarded (nested (origin.trails.push context.trailHost "formula" key))
        context depth key fingerprint body) := by
  intro machine kept
  let pushed := machine.pushStep context.trailHost "formula" key
  have trails : pushed.trails = origin.trails.push context.trailHost "formula" key := by
    rw [Machine.trails_push_step, kept.trails]
  rw [← trails]
  refine Result.tracks_map_state ?_ fun after (left : pushed.Restored after) => kept.trans left.pop
  cases fingerprint with
  | none => exact tracks_below_nested nests context depth body pushed (.refl _)
  | some content => exact tracks_key_nested nests context depth _ _ body pushed (.refl _)

theorem tracks_handler_nested (context : Context) (handler : FormulaHandler)
    (arguments : Arguments) :
    Tracks True (Machine.Restored origin)
      (callHandler environment evaluator context handler arguments)
      (within origin.trails
        (callHandler environment (nested origin.trails) context handler arguments)) := by
  refine tracks_within fun machine kept => ?_
  refine tracks_routine (Machine.restored_tolerant origin 0) (fun (_ : True) handle inputs => ?_)
    (fun (_ : True) level source => ?_)
    (Routine.confined_of_permitted trivial trivial _) machine kept
  · exact tracks_invoke handle inputs
      (fun _ closure _ _ => Machine.restored_tolerant origin closure.context.host)
      fun _ _ inner below formula _ _ _ _ _ => nests origin formula inner below
  · exact tracks_source (Machine.restored_tolerant origin _)
      (fun formula => nests origin formula context level) source

theorem tracks_function_nested (context : Context) (depth : Value) (name : String)
    (arguments : List Argument) (declared : Value) :
    Tracks True (Machine.Restored origin)
      (evaluateFunction environment evaluator context depth name arguments declared)
      (functionNested environment nested origin.trails context depth name arguments declared) := by
  have operands : Operands True (Machine.Restored origin) evaluator
      (nested origin.trails) context depth :=
    operands_nested nests context depth
  refine tracks_of_except_bind fun resolution _ => ?_
  match resolution with
  | none => exact tracks_bind (tracks_of_except _) fun _ => tracks_not_found_nested context _ _ _
  | some (.legacy handler found) =>
      refine tracks_bind (tracks_collect (tracks_argument operands) arguments) fun items => ?_
      exact tracks_handler_nested nests context handler _
  | some (.versioned (.handler handler) found) =>
      refine tracks_bind (tracks_named_arguments operands arguments) fun entries => ?_
      exact tracks_handler_nested nests context handler _
  | some (.versioned (.value content) found) =>
      exact tracks_bind (tracks_named_arguments operands arguments) fun _ => tracks_raise _
  | some (.versioned (.definition definition) found) =>
      refine tracks_bind (tracks_named_arguments operands arguments) fun entries => ?_
      refine tracks_of_except_bind fun inner made => ?_
      rw [← (same_home_with_arguments made).trail]
      exact tracks_guarded_nested nests _ depth _ _ _

theorem tracks_apply_nested (context : Context) (depth : Value) (name : String)
    (arguments : List Argument) :
    Tracks True (Machine.Restored origin)
      (evaluateApply environment evaluator context depth name arguments)
      (applyNested environment nested origin.trails context depth name arguments) := by
  unfold evaluateApply applyNested
  cases (environment context.host).component with
  | none => exact tracks_not_found_nested context _ _ _
  | some component =>
      dsimp only
      cases Keyed.find? name component.formulas with
      | none => exact tracks_not_found_nested context _ _ _
      | some definition =>
          refine tracks_bind
            (tracks_named_arguments (operands_nested nests context depth) arguments)
              fun entries => ?_
          refine tracks_of_except_bind fun inner made => tracks_bind tracks_get fun machine => ?_
          rw [← (same_home_with_arguments made).trail]
          have guarded : ∀ fingerprint, Tracks True (Machine.Restored origin) _ _ :=
            fun fingerprint => tracks_guarded_nested nests inner depth
              (component.name ++ "/" ++ name) fingerprint definition.formula
          cases definition.memoize with
          | false => exact guarded _
          | true =>
              cases (machine.host context.host).memo with
              | none => exact guarded _
              | some memo =>
                  cases entries.fingerprint with
                  | none => exact guarded _
                  | some fingerprint =>
                      exact tracks_memoized (Machine.restored_tolerant origin _) (guarded _)

theorem tracks_dispatch_nested (formula : Formula) (context : Context) (depth : Value) :
    Tracks True (Machine.Restored origin) (dispatch environment evaluator formula context depth)
      (dispatchNested environment nested origin.trails formula context depth) := by
  unfold dispatchNested
  split
  · exact tracks_function_nested nests context depth _ _ _
  · exact tracks_apply_nested nests context depth _ _
  · rename_i other noFunction noApply
    exact tracks_dispatch_of_operands (tracks_below_nested nests context depth) _
      (fun name arguments package same => absurd same (noFunction name arguments package))
      fun name arguments same => absurd same (noApply name arguments)

theorem tracks_node_nested : NodesNest (evaluateWith environment evaluator)
    (nodeNested environment nested) := by
  intro origin formula context depth
  refine tracks_within (tracks_bind tracks_get fun machine => ?_)
  cases machine.limits.check "formula" "max_depth" depth with
  | error failure =>
      cases failure with
      | fault fault =>
          exact tracks_bind (tracks_record_nested context fault) fun _ => tracks_pure Value.null
      | mishap mishap => exact tracks_raise _
  | ok =>
      refine tracks_bind (tracks_attempt (tracks_dispatch_nested nests formula context depth))
        fun outcome => ?_
      cases outcome with
      | ok content => exact tracks_pure content
      | error failure =>
          refine tracks_get_bind_left fun reached kept => ?_
          have same : nodeFault environment formula context reached failure =
              faultNested environment origin.trails formula context failure := by
            cases failure with
            | fault fault => rfl
            | mishap mishap =>
                simp only [nodeFault, faultNested, Machine.trail_steps_eq, kept.trails]
          rw [same]
          exact tracks_bind (tracks_record_nested context _)
            (fun _ => tracks_pure Value.null) reached kept

end Steps

theorem nodes_nest (environment : Environment) (fuel : Nat) :
    NodesNest (evaluateNode environment fuel) (nestedNode environment fuel) := by
  induction fuel with
  | zero => exact fun _ _ _ _ => tracks_exhaust trivial _
  | succ fuel ih => exact tracks_node_nested ih

theorem evaluation_nests (environment : Environment) (fuel : Nat)
    (formula : Option Formula) (context : Context) (depth : Value) (origin : Machine) :
    Tracks True (Machine.Restored origin) (evaluate environment fuel formula context depth)
      (evaluateTop (nestedNode environment fuel origin.trails) context depth formula) :=
  tracks_evaluate_top (Machine.restored_tolerant origin _) fun present _ =>
    nodes_nest environment fuel origin present context depth

theorem invocation_nests (environment : Environment) (fuel handle : Nat)
    (arguments : Value) (origin : Machine) :
    Tracks True (Machine.Restored origin) (invoke (evaluateNode environment fuel) handle arguments)
      (invoke (nestedNode environment fuel origin.trails) handle arguments) :=
  tracks_invoke handle arguments
    (fun _ closure _ _ => Machine.restored_tolerant origin closure.context.host)
    fun _ _ inner below formula _ _ _ _ _ => nodes_nest environment fuel origin formula inner below

end Evaluate
end Interplay
