import Interplay.Proofs.Evaluate.Tracking
import Interplay.Proofs.Registry.Lookup

/-!
Fuel, and watching over an evaluation.

More fuel never changes how an evaluation ends.  A watched evaluation is broken off, as if its fuel
had run out, as soon as a node is about to be evaluated that is not allowed; so one that comes to an
end says of every node it evaluated that it was allowed, and is the evaluation itself.
-/

namespace Interplay

namespace Routine

/-- A routine that calls closures, or evaluates persisted formulas, only as far as it is permitted
to. -/
def Confined (invoking evaluating : Prop) : Routine → Prop
  | answer _ => True
  | fail _ => True
  | invoke _ _ next => invoking ∧ ∀ outcome, (next outcome).Confined invoking evaluating
  | evaluate _ _ next => evaluating ∧ ∀ outcome, (next outcome).Confined invoking evaluating
  | limits next => ∀ table, (next table).Confined invoking evaluating
  | record _ next => next.Confined invoking evaluating
  | advance _ next => ∀ outcome, (next outcome).Confined invoking evaluating
  | occurrence next => ∀ number, (next number).Confined invoking evaluating

theorem confined_of_permitted {invoking evaluating : Prop} (invokes : invoking)
    (evaluates : evaluating) (routine : Routine) : routine.Confined invoking evaluating := by
  induction routine with
  | answer value => trivial
  | fail failure => trivial
  | invoke handle arguments next ih => exact ⟨invokes, ih⟩
  | evaluate source depth next ih => exact ⟨evaluates, ih⟩
  | limits next ih => exact ih
  | record entry next ih => exact ih
  | advance seconds next ih => exact ih
  | occurrence next ih => exact ih

end Routine

/-- All handlers that lookups for a host can lead to are confined, whatever they are called with. -/
def Environment.Confined (invoking evaluating : Prop) (environment : Environment) (host : Nat) :
    Prop :=
  ∀ handler, Evaluate.Registered (environment host).formulas handler →
    ∀ arguments view, (handler arguments view).Confined invoking evaluating

theorem Evaluate.registered_cases {catalog : FormulaCatalog} {handler : FormulaHandler}
    (known : Registered catalog handler) :
    catalog.Holds (.handler handler) ∨ ∃ key, (key, handler) ∈ catalog.legacy := by
  obtain ⟨name, package, found, resolved | resolved⟩ := known
  · rcases Catalog.resolve_cases resolved with ⟨entry, holder, same, holds⟩ | ⟨key, entry, same, _⟩
    · cases same
      exact .inl holds
    · cases same
  · rcases Catalog.resolve_cases resolved with ⟨entry, holder, same, _⟩ | ⟨key, entry, same, member⟩
    · cases same
    · cases same
      exact .inr ⟨key, member⟩

theorem Environment.confined_of_registered {invoking evaluating : Prop}
    {environment : Environment} {host : Nat}
    (versioned : ∀ handler, (environment host).formulas.Holds (.handler handler) →
      ∀ arguments view, (handler arguments view).Confined invoking evaluating)
    (legacy : ∀ entry ∈ (environment host).formulas.legacy,
      ∀ arguments view, (entry.2 arguments view).Confined invoking evaluating) :
    environment.Confined invoking evaluating host := by
  intro handler known
  rcases Evaluate.registered_cases known with holds | ⟨key, member⟩
  · exact versioned handler holds
  · exact legacy _ member

def Component.ofFormulas (name : String) (formulas : Table ComponentFormula) : Component :=
  { name := name, formulas := formulas, workflows := [], initialValues := [],
    apis := [], nodes := [],
    onLoad := none, onAttributeChange := none, route := none, package := .null }

def Limits.ofFormulaDepth (ceiling : Int) : Limits :=
  { groups := [("formula",
    { label := "FormulaLimits", ceilings := [("max_depth", .int ceiling)] })] }

/-- A machine with one host, which has a sink and a trail only, and one empty cycle stack. -/
def Machine.lone (limits : Limits) (capacity : Int) : Machine :=
  { limits := limits, journal := Journal.empty,
    hosts := #[{ HostState.blank with sink := Sink.ofCapacity (.int capacity) }],
    cycleStacks := #[Cycle.Stack.empty .formula], closures := #[] }

def Context.lone (data : Value) : Context :=
  { host := 0, trailHost := 0, stack := 0, data := data, package := .null }

namespace Evaluate

open Run

section Requests

variable {lost : Prop} {invariant : Machine → Prop} {environment : Environment}
  {first second : Evaluator} {context : Context} {depth : Value}

theorem tracks_below
    (nodes : ∀ below, depth.successor = .ok below → ∀ formula,
      Tracks lost invariant (first formula context below) (second formula context below))
    (formula : Option Formula) :
    Tracks lost invariant (evaluateBelow first context depth formula)
      (evaluateBelow second context depth formula) := by
  refine tracks_of_except_bind fun below next => ?_
  cases formula with
  | none => exact tracks_pure Value.null
  | some present => exact nodes below next present

theorem tracks_guarded (trailing : Machine.Trailing invariant)
    (plain : ∀ formula, Tracks lost invariant (evaluateBelow first context depth formula)
      (evaluateBelow second context depth formula))
    (keyed : ∀ key formula, Tracks lost invariant
      (Machine.underKey context.stack key (evaluateBelow first context depth formula))
      (Machine.underKey context.stack key (evaluateBelow second context depth formula)))
    (key : String) (fingerprint : Option String) (body : Option Formula) :
    Tracks lost invariant (evaluateGuarded first context depth key fingerprint body)
      (evaluateGuarded second context depth key fingerprint body) := by
  refine Machine.tracks_on_trail ?_ (fun machine holds => trailing _ _ machine holds)
    fun machine holds => trailing _ _ machine holds
  cases fingerprint with
  | none => exact plain body
  | some content => exact keyed _ body

theorem tracks_source (tolerant : Machine.Tolerant context.host invariant)
    (nodes : ∀ formula, Tracks lost invariant (first formula context depth)
      (second formula context depth))
    (source : Value) :
    Tracks lost invariant (evaluateSource first context depth source)
      (evaluateSource second context depth source) :=
  tracks_bind (tracks_of_except _) fun _ => tracks_evaluate_top tolerant
    fun present _ => nodes present

/-- Calling a closure comes down to the node that it holds, one level below its own depth. -/
theorem tracks_invoke (handle : Nat) (arguments : Value)
    (tolerant : ∀ machine closure, invariant machine → machine.closures[handle]? = some closure →
      Machine.Tolerant closure.context.host invariant)
    (bodies : ∀ machine closure inner below formula, invariant machine →
      machine.closures[handle]? = some closure →
      SameHome closure.context inner → closure.depth.successor = .ok below →
      closure.formula = some formula →
      Tracks lost invariant (first formula inner below) (second formula inner below)) :
    Tracks lost invariant (invoke first handle arguments) (invoke second handle arguments) := by
  refine tracks_get_bind fun machine holds => ?_
  cases found : machine.closures[handle]? with
  | none => exact ⟨rfl, holds⟩
  | some closure =>
      refine tracks_bind (tracks_of_except _) (fun entries => ?_) machine holds
      refine tracks_of_except_bind fun inner made => tracks_of_except_bind fun below next => ?_
      have home := same_home_with_arguments made
      refine tracks_evaluate_top (by rw [home.host]; exact tolerant machine closure holds found)
        fun formula present => ?_
      exact bodies machine closure inner below formula holds found home next present

theorem tracks_routine {number : Nat} (tolerant : Machine.Tolerant number invariant)
    {invoking evaluating : Prop} (invoked : invoking → ∀ handle arguments,
      Tracks lost invariant (invoke first handle arguments) (invoke second handle arguments))
    (evaluated : evaluating → ∀ level source,
      Tracks lost invariant (evaluateSource first context level source)
        (evaluateSource second context level source))
    {routine : Routine} (confined : routine.Confined invoking evaluating) :
    Tracks lost invariant (runRoutine first context routine)
      (runRoutine second context routine) := by
  induction routine with
  | answer value => exact tracks_pure value
  | fail failure => exact tracks_raise failure
  | invoke handle arguments next ih =>
      exact tracks_bind (tracks_attempt (invoked confined.1 handle arguments))
        fun outcome => ih outcome (confined.2 outcome)
  | evaluate source level next ih =>
      exact tracks_bind (tracks_attempt (evaluated confined.1 level source))
        fun outcome => ih outcome (confined.2 outcome)
  | limits next ih =>
      exact tracks_bind tracks_get fun machine => ih machine.limits (confined machine.limits)
  | record entry next ih =>
      refine tracks_bind ?_ fun _ => ih confined
      exact Machine.tracks_booked_modify tolerant fun machine =>
        Machine.booked_modify_journal _ _ machine
  | advance seconds next ih =>
      exact tracks_bind (tracks_attempt (Machine.tracks_advance tolerant seconds))
        fun outcome => ih outcome (confined outcome)
  | occurrence next ih =>
      refine tracks_bind tracks_get fun machine => tracks_bind ?_ fun _ => ih _ (confined _)
      exact Machine.tracks_booked_modify tolerant fun machine =>
        Machine.booked_modify_journal _ _ machine

theorem tracks_called {number : Nat} (tolerant : Machine.Tolerant number invariant)
    {invoking evaluating : Prop} (confined : environment.Confined invoking evaluating context.host)
    (invoked : invoking → ∀ handle arguments,
      Tracks lost invariant (invoke first handle arguments) (invoke second handle arguments))
    (evaluated : evaluating → ∀ level source,
      Tracks lost invariant (evaluateSource first context level source)
        (evaluateSource second context level source))
    (handler : FormulaHandler) (arguments : Arguments)
    (known : Registered (environment context.host).formulas handler) :
    Tracks lost invariant (callHandler environment first context handler arguments)
      (callHandler environment second context handler arguments) :=
  fun machine holds =>
    tracks_routine tolerant invoked evaluated
      (confined handler known arguments (viewOf environment context machine)) machine holds

end Requests

section Fuel

variable {environment : Environment}

/-- An invariant that evaluation in contexts of some hosts has no means to break. -/
structure Steady (home : Nat → Prop) (invariant : Machine → Prop) : Prop where
  tolerant : ∀ host, home host → Machine.Tolerant host invariant
  trailing : Machine.Trailing invariant
  closures : ∀ closure machine, home closure.context.host → invariant machine →
    invariant (machine.newClosure closure).2
  handles : ∀ machine (handle : Nat) closure, invariant machine →
    machine.closures[handle]? = some closure →
    home closure.context.host
  entering : ∀ number change machine, invariant machine →
    invariant (machine.modifyStack number change)

theorem anything_steady : Steady (fun _ => True) fun _ => True :=
  ⟨fun _ _ _ _ _ _ => trivial, fun _ _ _ _ => trivial, fun _ _ _ _ => trivial,
    fun _ _ _ _ _ => trivial,
    fun _ _ _ _ => trivial⟩

theorem limits_steady (limits : Limits) :
    Steady (fun _ => True) fun machine => machine.limits = limits :=
  ⟨fun _ _ _ _ booked held => booked.limits.trans held,
    fun _ _ _ held => held, fun _ _ _ held => held,
    fun _ _ _ _ _ => trivial, fun _ _ _ held => held⟩

variable {home : Nat → Prop} {invariant : Machine → Prop}

/-- If one evaluator of smaller nodes tracks another one in all contexts at home, so does the work
on the node above. -/
theorem tracks_dispatch_of_everywhere (steady : Steady home invariant) {first second : Evaluator}
    (smaller : ∀ formula context depth, home context.host →
      Tracks True invariant (first formula context depth)
      (second formula context depth)) (formula : Formula) {context : Context}
      (inside : home context.host)
    (depth : Value) :
    Tracks True invariant (dispatch environment first formula context depth)
      (dispatch environment second formula context depth) := by
  have below : ∀ inner, home inner.host → ∀ formula,
      Tracks True invariant (evaluateBelow first inner depth formula)
        (evaluateBelow second inner depth formula) :=
    fun inner near => tracks_below fun level _ present => smaller present inner level near
  refine tracks_dispatch ?_ formula
  refine ⟨⟨fun _ machine holds => steady.closures _ machine inside holds, below context inside⟩,
    steady.tolerant _ inside, fun inner key fingerprint body same => ?_,
    fun handler arguments known => ?_⟩
  · have near : home inner.host := by
      rw [same.host]
      exact inside
    refine tracks_guarded steady.trailing (below inner near)
      (fun key body => ?_) key fingerprint body
    exact Machine.tracks_under_key (below inner near body)
      (fun machine _ holds _ => steady.entering _ _ machine holds)
      fun machine holds => steady.entering _ _ machine holds
  · refine tracks_called (steady.tolerant _ inside)
      (fun handler _ arguments view => Routine.confined_of_permitted trivial trivial
        (handler arguments view))
      (fun _ handle inputs => ?_) (fun _ level source => ?_) handler arguments known
    · refine tracks_invoke handle inputs (fun machine closure holds found => ?_)
        fun machine closure inner level present holds found same _ _ => ?_
      · exact steady.tolerant _ (steady.handles machine handle closure holds found)
      · refine smaller present inner level ?_
        rw [same.host]
        exact steady.handles machine handle closure holds found
    · exact tracks_source (steady.tolerant _ inside)
        (fun present => smaller present context level inside) source

theorem tracks_node_of_everywhere (steady : Steady home invariant) {first second : Evaluator}
    (smaller : ∀ formula context depth, home context.host →
      Tracks True invariant (first formula context depth)
      (second formula context depth)) (formula : Formula) {context : Context}
      (inside : home context.host)
    (depth : Value) :
    Tracks True invariant (evaluateWith environment first formula context depth)
      (evaluateWith environment second formula context depth) :=
  tracks_evaluate_with (steady.tolerant _ inside) formula fun _ _ _ =>
    tracks_dispatch_of_everywhere steady smaller formula inside depth

theorem more_fuel_tracks (steady : Steady home invariant) {fuel more : Nat}
    (enough : fuel ≤ more) (formula : Formula)
    {context : Context} (inside : home context.host) (depth : Value) :
    Tracks True invariant (evaluateNode environment fuel formula context depth)
      (evaluateNode environment more formula context depth) := by
  induction fuel generalizing more formula context depth with
  | zero => exact tracks_exhaust trivial _
  | succ fuel ih =>
      obtain ⟨rest, rfl⟩ : ∃ rest, more = rest + 1 := ⟨more - 1, by omega⟩
      exact tracks_node_of_everywhere steady
        (fun present inner level near => ih (by omega) present near level) formula inside depth

/-- Once an evaluation comes to an end, more fuel changes nothing, and what it cannot break it has
kept. -/
theorem evaluate_of_more_fuel (steady : Steady home invariant)
    {fuel more : Nat} (enough : fuel ≤ more)
    (formula : Option Formula) {context : Context} (inside : home context.host) (depth : Value) :
    Tracks True invariant (evaluate environment fuel formula context depth)
      (evaluate environment more formula context depth) :=
  tracks_evaluate_top (steady.tolerant _ inside) fun present _ => more_fuel_tracks steady
    enough present inside depth

theorem invoke_of_more_fuel (steady : Steady home invariant) {fuel more : Nat}
    (enough : fuel ≤ more) (handle : Nat) (arguments : Value) :
    Tracks True invariant (invoke (evaluateNode environment fuel) handle arguments)
      (invoke (evaluateNode environment more) handle arguments) := by
  refine tracks_invoke handle arguments (fun machine closure holds found => ?_)
    fun machine closure inner level present holds found same _ _ => ?_
  · exact steady.tolerant _ (steady.handles machine handle closure holds found)
  · refine more_fuel_tracks steady enough present ?_ level
    rw [same.host]
    exact steady.handles machine handle closure holds found

end Fuel

structure Visit where
  formula : Formula
  context : Context
  depth : Value
  machine : Machine

open Classical in
/-- Evaluation that is broken off at the first node that is not allowed. -/
noncomputable def watchedNode (allowed : Visit → Prop) (environment : Environment) : Nat → Evaluator
  | 0 => fun _ _ _ => Run.exhaust
  | fuel + 1 => fun formula context depth machine =>
    if allowed { formula := formula, context := context, depth := depth, machine := machine } then
      evaluateWith environment (watchedNode allowed environment fuel) formula context depth machine
    else
      .exhausted

theorem watched_node_of_everything (environment : Environment) (fuel : Nat) :
    watchedNode (fun _ => True) environment fuel = evaluateNode environment fuel := by
  induction fuel with
  | zero => rfl
  | succ fuel ih =>
      funext formula context depth machine
      simp only [watchedNode, if_true, evaluateNode, ih]

end Evaluate
end Interplay
