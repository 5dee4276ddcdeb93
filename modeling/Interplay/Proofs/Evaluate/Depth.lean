import Interplay.Evaluate.Stock
import Interplay.Proofs.Cycle.Stack
import Interplay.Proofs.Evaluate.Watch

/-!
The depth ceiling of formulas.

Every step into a smaller node, or into the body of a definition, goes one level deeper and adds at
most one key to the cycle stack.  So a node at some depth never finds more active keys than its
depth, the ceiling on depth is met before the cycle stack can reach it, and an evaluation whose
handlers do not call back comes to an end.
-/

namespace Interplay
namespace Evaluate

open Run

/-- What stays fixed while nodes of one depth are evaluated: the ceiling, the host with a sink that
counts, and the cycle stack. -/
structure Level (ceiling : Nat) (home : Context) (stack : Cycle.Stack) (machine : Machine) :
    Prop where
  limit : machine.limits.ceiling "formula" "max_depth" = .int ceiling
  hosted : home.host < machine.hosts.size
  counting : (machine.host home.host).sink.IsCounting
  present : home.stack < machine.cycleStacks.size
  held : machine.stack home.stack = stack
  domain : stack.domain = .formula

/-- What is known of a node that is about to be evaluated a number of levels down. -/
structure Bounded (environment : Environment) (ceiling : Nat) (visit : Visit) (level : Nat) :
    Prop where
  depth : visit.depth = .int level
  within : level ≤ ceiling + 1
  keys : (visit.machine.stack visit.context.stack).depth ≤ level
  /-- The node gets to work only within the ceiling. -/
  dispatched : visit.machine.limits.check "formula" "max_depth" visit.depth = .ok () ↔
    level ≤ ceiling
  /-- When the arguments of the node are known, the cycle stack refuses no key but an active one. -/
  entering : level ≤ ceiling → ∀ fuel arguments entries after key failure,
    namedArguments (evaluateNode environment fuel) visit.context visit.depth
      arguments visit.machine = .done entries after →
    (after.stack visit.context.stack).enter after.limits key = .error failure →
    (after.stack visit.context.stack).isActive key = true
  /-- One level beyond the ceiling the node is null, and one fault is added that names both
  numbers. -/
  beyond : level = ceiling + 1 → level < 10 ^ Number.digitLimit → ∀ evaluator, ∃ fault after,
    fault.source = .limit (.text "formula") (.text "max_depth")
      (.int (ceiling + 1 : Nat)) (.int ceiling) ∧
    evaluateWith environment evaluator visit.formula visit.context visit.depth visit.machine =
      .done .null after ∧
    (visit.machine.host visit.context.host).sink.add fault = .ok
      (after.host visit.context.host).sink ∧
    (after.host visit.context.host).sink.total =
      (visit.machine.host visit.context.host).sink.total + 1
  /-- Where that level is too long a number to be written, so is the fault, and the node fails. -/
  unwritable : level = ceiling + 1 → 10 ^ Number.digitLimit ≤ level → ∀ evaluator,
    evaluateWith environment evaluator visit.formula visit.context visit.depth visit.machine =
      .raised (.mishap .notWritable) visit.machine

section Levels

variable {ceiling : Nat} {home : Context} {stack : Cycle.Stack}

theorem level_grounded : Machine.Grounded (Level ceiling home stack) := by
  intro before after same level
  refine ⟨?_, ?_, ?_, ?_, ?_, level.domain⟩
  · rw [same.limits]
    exact level.limit
  · rw [same.hosts]
    exact level.hosted
  · unfold Sink.IsCounting
    rw [same.capacity]
    exact level.counting
  · rw [same.cycles]
    exact level.present
  · unfold Machine.stack
    rw [same.cycles]
    exact level.held

theorem level_new_closure {closure : Closure} {machine : Machine}
    (level : Level ceiling home stack machine) :
    Level ceiling home stack (machine.newClosure closure).2 :=
  ⟨level.limit, level.hosted, level.counting, level.present, level.held, level.domain⟩

theorem level_modify_stack {machine : Machine} (level : Level ceiling home stack machine)
    {change : Cycle.Stack → Cycle.Stack} {changed : Cycle.Stack} (becomes : change stack = changed)
    (domain : changed.domain = .formula) : Level ceiling home changed
    (machine.modifyStack home.stack change) := by
  refine ⟨level.limit, level.hosted, level.counting, ?_, ?_, domain⟩
  · simpa [Machine.modifyStack] using level.present
  · rw [Machine.stack_modify_stack level.present, level.held, becomes]

theorem tracks_under_key_of_level {lost : Prop} {key : String} {body other : Run Machine Value}
    (tracks : stack.isActive key = false →
      Tracks lost (Level ceiling home (stack.pushed key)) body other) :
    Tracks lost (Level ceiling home stack) (Machine.underKey home.stack key body)
      (Machine.underKey home.stack key other) := by
  cases active : stack.isActive key with
  | true =>
      intro machine level
      have refused : (machine.stack home.stack).enter machine.limits key =
          .error (.cycle (.text stack.domain.label) (stack.path.map Value.text)
            (.text (stack.fullKey key))) := by
        rw [level.held]
        simp [Cycle.Stack.enter, active]
      unfold Machine.underKey
      rw [refused]
      exact ⟨rfl, level⟩
  | false =>
      refine Machine.tracks_under_key (tracks active)
        (fun machine entered level entry => ?_) fun machine level => ?_
      · rw [level.held] at entry
        exact level_modify_stack level (Cycle.Stack.entered_is_pushed entry).2 level.domain
      · exact level_modify_stack level (Cycle.Stack.leave_pushed active) level.domain

end Levels

section Nodes

variable {environment : Environment} {ceiling : Nat} {home : Context}

/-- A watch over an evaluation that lets every node pass which stands at its level. -/
def Permits (allowed : Visit → Prop) (ceiling : Nat) (home : Context) : Prop :=
  ∀ formula context (level : Nat) stack machine, SameHome home context → level ≤ ceiling + 1 →
    stack.depth ≤ level → Level ceiling home stack machine →
    allowed { formula := formula, context := context, depth := .int level, machine := machine }

/-- A node at its level makes requests that track if all nodes one level deeper do. -/
theorem requests_at_level {lost : Prop} {first second : Evaluator} {level : Nat}
    (confined : environment.Confined False False home.host)
    (deeper : ∀ stack : Cycle.Stack, stack.depth ≤ level + 1 →
      ∀ formula inner, SameHome home inner →
      Tracks lost (Level ceiling home stack) (first formula inner (.int (level + 1 : Nat)))
        (second formula inner (.int (level + 1 : Nat))))
    {stack : Cycle.Stack} (keys : stack.depth ≤ level) {context : Context}
      (same : SameHome home context) :
    Requests lost (Level ceiling home stack) environment first second context (.int level) := by
  have below : ∀ stack : Cycle.Stack, stack.depth ≤ level + 1 →
      ∀ inner, SameHome home inner → ∀ formula,
      Tracks lost (Level ceiling home stack) (evaluateBelow first inner (.int level) formula)
        (evaluateBelow second inner (.int level) formula) := by
    intro stack few inner near
    refine tracks_below fun next is_next present => ?_
    cases is_next
    exact deeper stack few present inner near
  refine ⟨⟨fun _ _ holds => level_new_closure holds, below stack (by omega) context same⟩,
    level_grounded.tolerant _, ?_, ?_⟩
  · intro inner key fingerprint body near
    have still : SameHome home inner := same.trans near
    refine tracks_guarded level_grounded.trailing (below stack (by omega) inner still)
      (fun key body => ?_) _ _ _
    rw [still.stack]
    refine tracks_under_key_of_level fun inactive => ?_
    exact below (stack.pushed key) (by simpa using keys) inner still body
  · have here : environment.Confined False False context.host := by
      rw [same.host]
      exact confined
    exact tracks_called (level_grounded.tolerant context.host) here False.elim False.elim

/-- A watched node at its level is the node itself, and it is not lost if there is fuel for all
levels left. -/
theorem watched_node_tracks {allowed : Visit → Prop} (permitted : Permits allowed ceiling home)
    (confined : environment.Confined False False home.host) {lost : Prop} (fuel level : Nat)
    (enough : lost ∨ ceiling + 2 ≤ fuel + level)
    (within : level ≤ ceiling + 1) {stack : Cycle.Stack}
    (keys : stack.depth ≤ level) (formula : Formula) {context : Context}
    (same : SameHome home context) :
    Tracks lost (Level ceiling home stack)
      (watchedNode allowed environment fuel formula context (.int level))
      (evaluateNode environment fuel formula context (.int level)) := by
  induction fuel generalizing level stack formula context with
  | zero => exact tracks_exhaust (enough.resolve_right (by omega)) _
  | succ fuel ih =>
      have node : Tracks lost (Level ceiling home stack)
          (evaluateWith environment (watchedNode allowed environment fuel) formula context
            (.int level))
          (evaluateWith environment (evaluateNode environment fuel) formula context
            (.int level)) := by
        refine tracks_evaluate_with (level_grounded.tolerant _) formula fun machine known passed =>
          tracks_dispatch ?_ formula
        have inside : level ≤ ceiling := by
          have := (Limits.check_passes_iff known.limit).mp passed
          omega
        refine requests_at_level confined (fun stack few formula inner near => ?_) keys same
        exact ih (level + 1) (enough.imp_right (by omega)) (by omega) few formula near
      intro machine known
      simp only [watchedNode, permitted formula context level stack machine same within keys known,
        if_true]
      exact node machine known

theorem node_tracks_itself (confined : environment.Confined False False home.host)
    (fuel : Nat) {level : Nat}
    (within : level ≤ ceiling + 1) {stack : Cycle.Stack}
    (keys : stack.depth ≤ level) (formula : Formula)
    {context : Context} (same : SameHome home context) :
    Tracks True (Level ceiling home stack)
      (evaluateNode environment fuel formula context (.int level))
      (evaluateNode environment fuel formula context (.int level)) := by
  have everything : Permits (fun _ => True) ceiling home := fun _ _ _ _ _ _ _ _ _ => trivial
  have tracks : Tracks True (Level ceiling home stack)
      (watchedNode (fun _ => True) environment fuel formula context (.int level))
      (evaluateNode environment fuel formula context (.int level)) :=
    watched_node_tracks everything confined fuel level (.inl trivial) within keys formula same
  rwa [watched_node_of_everything] at tracks

theorem level_of_arguments (confined : environment.Confined False False home.host)
    {fuel level : Nat}
    (within : level ≤ ceiling) {stack : Cycle.Stack}
    (keys : stack.depth ≤ level) {context : Context}
    (same : SameHome home context) {arguments : List Argument}
    {machine after : Machine} {entries : Entries} (known : Level ceiling home stack machine)
    (evaluated : namedArguments (evaluateNode environment fuel) context
      (.int level) arguments machine = .done entries after) : Level ceiling home stack after := by
  have requests : Requests True (Level ceiling home stack) environment
      (evaluateNode environment fuel) (evaluateNode environment fuel) context (.int level) := by
    refine requests_at_level confined (fun stack few formula inner near => ?_) keys same
    exact node_tracks_itself confined fuel (by omega) few formula near
  have tracks := tracks_named_arguments requests.toOperands arguments machine known
  rw [evaluated] at tracks
  exact tracks.2

theorem record_fault_adds (environment : Environment) {context : Context}
    (fault : Fault) {machine : Machine}
    (hosted : context.host < machine.hosts.size)
    (counting : (machine.host context.host).sink.IsCounting) :
    ∃ after, recordFault environment context fault machine = .done () after ∧
      (machine.host context.host).sink.add (fault.stamp (machine.trailSteps context.trailHost)) =
        .ok (after.host context.host).sink := by
  obtain ⟨sink, added⟩ :=
    Sink.add_of_is_counting counting (fault.stamp (machine.trailSteps context.trailHost))
  let kept := machine.modifyHost context.host fun state => { state with sink := sink }
  have recorded : (kept.host context.host).sink = sink := by
    rw [Machine.host_modify_host_self hosted]
  have first : Machine.addFault context.host
      (fault.stamp (machine.trailSteps context.trailHost)) machine = .done () kept := by
    simp only [Machine.addFault, update, added]
    rfl
  by_cases logs : (environment context.host).logErrors
  · refine ⟨kept.log .error .evaluate fault.text, ?_, by rw [added, ← recorded]; rfl⟩
    simp only [recordFault, bind, Run.bind, Run.get, first, logs, if_true, Run.modify]
  · refine ⟨kept, ?_, by rw [added, recorded]⟩
    simp only [recordFault, bind, Run.bind, Run.get, first, logs, Bool.false_eq_true,
      if_false, pure, Run.pure]

theorem beyond_of_level {stack : Cycle.Stack} {machine : Machine}
    (known : Level ceiling home stack machine)
    (short : ceiling + 1 < 10 ^ Number.digitLimit) (evaluator : Evaluator)
    (formula : Formula) {context : Context} (same : SameHome home context) :
    ∃ fault after,
      fault.source = .limit (.text "formula") (.text "max_depth")
        (.int (ceiling + 1 : Nat)) (.int ceiling) ∧
      evaluateWith environment evaluator formula context
        (.int (ceiling + 1 : Nat)) machine = .done .null after ∧
      (machine.host context.host).sink.add fault = .ok (after.host context.host).sink ∧
      (after.host context.host).sink.total = (machine.host context.host).sink.total + 1 := by
  have deeper : (ceiling : Int) < (ceiling + 1 : Nat) := by omega
  have writable : (Value.int ((ceiling + 1 : Nat) : Int)).isWritable = true :=
    (Value.is_writable_int_iff _).mpr short
  have shorter : (Value.int (ceiling : Int)).isWritable = true :=
    (Value.is_writable_int_iff _).mpr (Nat.lt_of_succ_lt short)
  have above := Limits.check_above known.limit deeper
  rw [writable, shorter, Bool.and_self, if_pos rfl] at above
  obtain ⟨after, recorded, added⟩ := record_fault_adds environment
    (Fault.limit (.text "formula") (.text "max_depth") (.int (ceiling + 1 : Nat)) (.int ceiling))
    (by rw [same.host]; exact known.hosted) (by rw [same.host]; exact known.counting)
  refine ⟨_, after, ?_, ?_, added, Sink.total_add added⟩
  · unfold Fault.stamp
    split <;> rfl
  · simp only [evaluateWith, bind, Run.bind, Run.get, above, recorded, pure, Run.pure]

theorem unwritable_of_level {stack : Cycle.Stack} {machine : Machine}
    (known : Level ceiling home stack machine)
    (long : 10 ^ Number.digitLimit ≤ ceiling + 1) (evaluator : Evaluator)
    (formula : Formula) (context : Context) :
    evaluateWith environment evaluator formula context (.int (ceiling + 1 : Nat)) machine =
      .raised (.mishap .notWritable) machine := by
  have deeper : (ceiling : Int) < (ceiling + 1 : Nat) := by omega
  have unwritable : (Value.int ((ceiling + 1 : Nat) : Int)).isWritable = false := by
    rw [Bool.eq_false_iff]
    intro writable
    exact Nat.not_lt.mpr long ((Value.is_writable_int_iff _).mp writable)
  have above := Limits.check_above known.limit deeper
  rw [unwritable, Bool.false_and, if_neg Bool.false_ne_true] at above
  simp only [evaluateWith, bind, Run.bind, Run.get, above, raise]

theorem bounded_of_level (confined : environment.Confined False False home.host) (formula : Formula)
    {context : Context} {level : Nat} {stack : Cycle.Stack} {machine : Machine}
    (same : SameHome home context)
    (within : level ≤ ceiling + 1) (keys : stack.depth ≤ level)
    (known : Level ceiling home stack machine) :
    Bounded environment ceiling
      { formula := formula, context := context, depth := .int level, machine := machine }
      level where
  depth := rfl
  within := within
  keys := by
    rw [same.stack, known.held]
    exact keys
  dispatched := by
    rw [Limits.check_passes_iff known.limit]
    omega
  entering := by
    intro inside fuel arguments entries after key failure evaluated refused
    have reached := level_of_arguments confined inside keys same known evaluated
    have held : after.stack context.stack = stack := by
      rw [same.stack]
      exact reached.held
    dsimp only at refused ⊢
    rw [held] at refused ⊢
    have limited : after.limits.ceiling stack.domain.label "max_depth" = .int ceiling := by
      rw [reached.domain]
      exact reached.limit
    exact Cycle.Stack.active_of_refused limited (by omega) refused
  beyond := by
    intro deepest short evaluator
    subst deepest
    exact beyond_of_level known short evaluator formula same
  unwritable := by
    intro deepest long evaluator
    subst deepest
    exact unwritable_of_level known long evaluator formula context

/-- With handlers that do not call back, evaluation from depth zero and an empty cycle stack comes
to an end, the same for all fuel above the ceiling, and every node on the way is within bounds. -/
theorem evaluation_ends_within_bounds {context : Context} {machine : Machine}
    (formula : Option Formula) (confined : environment.Confined False False context.host)
    (limited : machine.limits.ceiling "formula" "max_depth" = .int ceiling)
    (fresh : machine.cycleStacks[context.stack]? = some (Cycle.Stack.empty .formula))
    (hosted : context.host < machine.hosts.size)
    (counting : (machine.host context.host).sink.IsCounting) :
    ∃ result, result ≠ .exhausted ∧ ∀ fuel, ceiling + 2 ≤ fuel →
      evaluate environment fuel formula context (.int 0) machine = result ∧
      evaluateTop (watchedNode
        (fun visit => ∃ level, Bounded environment ceiling visit level) environment fuel)
        context (.int 0) formula machine = result := by
  have known : Level ceiling context (Cycle.Stack.empty .formula) machine := by
    refine ⟨limited, hosted, counting, ?_, ?_, rfl⟩
    · exact (Array.getElem?_eq_some_iff.mp fresh).1
    · simp [Machine.stack, fresh]
  have permitted : Permits
      (fun visit => ∃ level, Bounded environment ceiling visit level) ceiling context :=
    fun formula inner level stack machine same within keys known =>
      ⟨level, bounded_of_level confined formula same within keys known⟩
  have tracks : ∀ fuel, ceiling + 2 ≤ fuel →
      Tracks False (Level ceiling context (Cycle.Stack.empty .formula))
      (evaluateTop (watchedNode
        (fun visit => ∃ level, Bounded environment ceiling visit level) environment fuel)
        context (.int 0) formula)
      (evaluate environment fuel formula context (.int 0)) := by
    intro fuel enough
    refine tracks_evaluate_top (level_grounded.tolerant _) fun present _ => ?_
    exact watched_node_tracks permitted confined fuel 0 (.inr enough)
      (Nat.zero_le _) (Nat.zero_le _) present (same_home_refl context)
  have ends := Result.ends_of_tracks (tracks (ceiling + 2) (Nat.le_refl _) machine known)
  have same : ∀ fuel, ceiling + 2 ≤ fuel →
      evaluateTop (watchedNode
        (fun visit => ∃ level, Bounded environment ceiling visit level) environment fuel)
        context (.int 0) formula machine =
        evaluate environment fuel formula context (.int 0) machine := by
    intro fuel enough
    have tracked := tracks fuel enough machine known
    exact (Result.eq_of_tracks tracked (Result.ends_of_tracks tracked)).symm
  rw [same _ (Nat.le_refl _)] at ends
  refine ⟨evaluate environment (ceiling + 2) formula context (.int 0) machine,
    ends, fun fuel enough => ?_⟩
  have settled := Result.eq_of_tracks
    (evaluate_of_more_fuel anything_steady enough formula trivial (.int 0) machine trivial) ends
  exact ⟨settled, (same fuel enough).trans settled⟩

end Nodes

/-- A formula that calls itself with another argument every time. -/
def winding : Formula :=
  .apply "wind"
    [.mk (some (.array [.mk (some (.path ["Args", "turns"])) .null false])) (.text "turns") false]

/-- One component, whose formula winds on, and one handler that gives its arguments back. -/
def windingEnvironment : Environment := fun _ =>
  { formulas := { packages := [(Catalog.root, [(.text "args", some (.handler Stock.all))])], legacy := [] }
    component := some (Component.ofFormulas "reel"
      [("wind", { name := .text "wind", formula := some winding, arguments := ["turns"], memoize := false,
                  isExposed := false })])
    logErrors := false }

theorem winding_environment_confined : windingEnvironment.Confined False False 0 := by
  refine Environment.confined_of_registered ?_ (by simp [windingEnvironment])
  rintro handler ⟨package, table, name, inside, member⟩ arguments view
  obtain ⟨rfl, rfl⟩ : package = Catalog.root ∧
      table = [(.text "args", some (.handler Stock.all))] := by
    simpa [windingEnvironment] using inside
  obtain ⟨rfl, rfl⟩ : name = .text "args" ∧ handler = Stock.all := by
    simpa using member
  trivial

theorem winding_ends_within_bounds :
    ∃ result, result ≠ .exhausted ∧ ∀ fuel, 6 + 2 ≤ fuel →
      evaluate windingEnvironment fuel (some winding) (Context.lone (.mapping [])) (.int 0)
        (Machine.lone (Limits.ofFormulaDepth 6) 3) = result ∧
      evaluateTop (watchedNode (fun visit => ∃ level, Bounded windingEnvironment 6 visit level)
        windingEnvironment fuel)
        (Context.lone (.mapping [])) (.int 0) (some winding)
        (Machine.lone (Limits.ofFormulaDepth 6) 3) = result :=
  evaluation_ends_within_bounds (some winding) winding_environment_confined rfl rfl (by decide)
    ⟨.int 3, .int 3, rfl, rfl⟩


end Evaluate
end Interplay
