import Interplay.Proofs.Evaluate.Tracking
import Interplay.Proofs.Run.Lockstep

/-!
Evaluations in lockstep.

Two machines are in accord if they show the same to whoever evaluates formulas on them, and if the
bookkeeping of both goes in lockstep.  Evaluation then goes in lockstep as a whole, node by node.  A
failure at a ceiling that one of the machines does not have is pardoned inside of a node: the node
keeps it in a sink, and the sink excuses the machine.
-/

namespace Interplay

/-- Changing one item before a look at all items, or after it. -/
theorem map_idx_modify {α β : Type} {items : Array α} {number : Nat}
    {change : α → α} {view : Nat → α → β} {shown : β → β}
    (same : ∀ item, items[number]? = some item →
      view number (change item) = shown (view number item)) :
    (items.modify number change).mapIdx view = (items.mapIdx view).modify number shown := by
  apply Array.ext_getElem?
  intro index
  simp only [Array.getElem?_modify, Array.getElem?_mapIdx]
  by_cases own : number = index
  · subst own
    cases present : items[number]? with
    | none => simp
    | some item => simp [same item present]
  · simp [own]

/-- A routine that does not look at the limits table. -/
def Routine.IsBlind : Routine → Prop
  | answer _ => True
  | fail _ => True
  | invoke _ _ next => ∀ outcome, (next outcome).IsBlind
  | evaluate _ _ next => ∀ outcome, (next outcome).IsBlind
  | limits _ => False
  | record _ next => next.IsBlind
  | advance _ next => ∀ outcome, (next outcome).IsBlind
  | occurrence next => ∀ number, (next number).IsBlind

namespace Journal

/-- What host code left in a journal. -/
def entries (journal : Journal) : List Value × Keyed NoteKey Value × Nat :=
  (journal.trace, journal.notes, journal.nextOccurrence)

def withEntries (entries : List Value × Keyed NoteKey Value × Nat) (journal : Journal) : Journal :=
  { journal with trace := entries.1, notes := entries.2.1, nextOccurrence := entries.2.2 }

end Journal

namespace Machine

def closing (number : Nat) (name category budget : String) (opened : Machine) : Run Machine Unit :=
  if opened.hasMetrics number then
    finishTiming number (.text name) (.text category)
      (opened.limits.ceiling category budget) opened.now
  else pure ()

end Machine

namespace Evaluate

open Run

def timedName (formula : Formula) : String :=
  match formula.name? with
  | some name => if name.isEmpty then formula.tag else name
  | none => formula.tag

/-- A whole formula at depth zero closes a timing, whether there is one or not. -/
theorem evaluate_top_eq (evaluator : Evaluator) (context : Context)
    (depth : Value) (formula : Formula) :
    evaluateTop evaluator context depth (some formula) = fun machine =>
      (if depth.same (.int 0) then
        Run.followedBy
          (Machine.closing context.host (timedName formula) "formula" "max_evaluation_time" machine)
          (evaluator formula context depth)
      else evaluator formula context depth) machine := by
  funext machine
  change (if depth.same (.int 0) = true ∧ machine.hasMetrics context.host = true then
    Machine.timed context.host (.text (timedName formula)) (.text "formula")
      (machine.limits.ceiling "formula" "max_evaluation_time")
      (evaluator formula context depth) machine
    else evaluator formula context depth machine) = _
  unfold Machine.closing
  by_cases whole : depth.same (.int 0) = true
  · by_cases measured : machine.hasMetrics context.host = true
    · rw [if_pos ⟨whole, measured⟩, if_pos whole, if_pos measured]
      rfl
    · rw [if_neg fun both => measured both.2, if_pos whole, if_neg measured, followed_by_pure]
  · rw [if_neg fun both => whole both.1, if_neg whole]

/-- Paired machines on which evaluation cannot fall out of step without an excuse.  Contexts are of
known hosts. -/
structure Accord (pairing : Pairing Machine Machine) (pardons : Failure → Prop) (known : Nat → Prop)
    (environment other : Environment) : Prop where
  formulas : ∀ number, (other number).formulas = (environment number).formulas
  components : ∀ number, (other number).component = (environment number).component
  cycles : ∀ machine counterpart, pairing.twin machine counterpart →
    counterpart.cycleStacks = machine.cycleStacks
  closures : ∀ machine counterpart, pairing.twin machine counterpart →
    counterpart.closures = machine.closures
  entries : ∀ machine counterpart, pairing.twin machine counterpart →
    counterpart.journal.entries = machine.journal.entries
  trails : ∀ machine counterpart, pairing.twin machine counterpart →
    ∀ number, (counterpart.host number).trail = (machine.host number).trail
  memos : ∀ machine counterpart, pairing.twin machine counterpart →
    ∀ number, (counterpart.host number).memo = (machine.host number).memo
  totals : ∀ machine counterpart after later, pairing.twin machine counterpart →
    pairing.twin after later →
    ∀ number, (after.host number).sink.total = (machine.host number).sink.total ↔
      (later.host number).sink.total = (counterpart.host number).sink.total
  handles : ∀ machine counterpart, pairing.twin machine counterpart →
    ∀ (handle : Nat) closure, machine.closures[handle]? = some closure → known closure.context.host
  checks : ∀ machine counterpart, pairing.twin machine counterpart → ∀ category value,
    counterpart.limits.check category "max_depth" value =
    machine.limits.check category "max_depth" value ∨
      ∃ fault, machine.limits.check category "max_depth" value = .error
        (.fault fault) ∧ pardons (.fault fault)
  handlers : ∀ number handler, Registered (environment number).formulas handler →
    (∀ arguments view, (handler arguments view).IsBlind) ∨
      ∀ machine counterpart, pairing.twin machine counterpart → counterpart.limits = machine.limits
  faults : ∀ failure, pardons failure → ∃ fault, failure = .fault fault ∧ ∀ path, pardons
    (.fault (fault.stamp path))
  restacked : ∀ change : Array Cycle.Stack → Array Cycle.Stack, pairing.Stays
    (fun machine => { machine with cycleStacks := change machine.cycleStacks })
    fun machine => { machine with cycleStacks := change machine.cycleStacks }
  enclosed : ∀ closure, known closure.context.host →
    pairing.Stays (fun machine => (machine.newClosure closure).2)
    fun machine => (machine.newClosure closure).2
  trailed : ∀ number (change : Trail → Trail), pairing.Stays
    (Machine.modifyHost number fun state => { state with trail := change state.trail })
    (Machine.modifyHost number fun state => { state with trail := change state.trail })
  memorized : ∀ number (change : Option (Memo String String) → Option (Memo String String)),
    pairing.Stays (Machine.modifyHost number fun state => { state with memo := change state.memo })
    (Machine.modifyHost number fun state => { state with memo := change state.memo })
  noted : ∀ change : List Value × Keyed NoteKey Value × Nat →
    List Value × Keyed NoteKey Value × Nat, pairing.Stays
    (Machine.modifyJournal fun journal => journal.withEntries (change journal.entries))
    (Machine.modifyJournal fun journal => journal.withEntries (change journal.entries))
  logged : ∀ level source message,
    pairing.Stays (Machine.log level source message) (Machine.log level source message)
  spoken : ∀ number message, InStep pairing
    (if (environment number).logErrors then Run.modify
      (Machine.log .error .evaluate message) else pure ())
    (if (other number).logErrors then Run.modify (Machine.log .error .evaluate message) else pure
      ())
  added : ∀ number fault, known number → InStep pairing (Machine.addFault number fault)
    (Machine.addFault number fault)
  cut : ∀ number fault machine counterpart, known number → pardons (.fault fault) →
    pairing.twin machine counterpart → (Machine.addFault number fault machine).Excused pairing
  advanced : ∀ seconds, InStep pairing (Machine.advance seconds) (Machine.advance seconds)
  looked : ∀ number name hit, InStep pairing
    (Machine.onMetrics number () (Metrics.recordCache (.text name) hit))
    (Machine.onMetrics number () (Metrics.recordCache (.text name) hit))
  /-- The timings of whole formulas and of whole lists; those of single actions are not among
  them. -/
  closed : ∀ number name category budget opened counterpart, budget ≠ "max_depth" →
    (category = "action" → name = "execute") → pairing.twin opened counterpart →
    InStep pairing (Machine.closing number name category budget opened)
      (Machine.closing number name category budget counterpart)

def Accompanied (pairing : Pairing Machine Machine) (known : Nat → Prop)
    (first second : Evaluator) : Prop :=
  ∀ formula (context : Context) depth, known context.host →
    InStep pairing (first formula context depth) (second formula context depth)

section Steps

variable {pairing : Pairing Machine Machine} {pardons : Failure → Prop} {known : Nat → Prop}
  {environment other : Environment} (accord : Accord pairing pardons known environment other)

include accord

theorem Accord.steps {machine counterpart : Machine}
    (twin : pairing.twin machine counterpart) (number : Nat) :
    counterpart.trailSteps number = machine.trailSteps number :=
  congrArg Trail.steps (accord.trails machine counterpart twin number)

theorem Accord.component_name (context : Context) :
    componentName other context = componentName environment context := by
  unfold componentName
  rw [accord.components]

theorem pairs_log (level : LogLevel) (source : LogSource) (message : String) :
    InStep pairing (Run.modify (Machine.log level source message))
      (Run.modify (Machine.log level source message)) :=
  .modify (accord.logged level source message)

theorem pairs_record_fault {context : Context} (home : known context.host) (fault : Fault) :
    InStep pairing (recordFault environment context fault) (recordFault other context fault) := by
  refine .get_bind fun machine counterpart twin => ?_
  rw [accord.steps twin]
  exact (accord.added _ _ home).bind fun _ => accord.spoken _ _

theorem record_fault_excused {context : Context} (home : known context.host) {fault : Fault}
    (pardoned : pardons (.fault fault)) {machine counterpart : Machine}
    (twin : pairing.twin machine counterpart) :
    (recordFault environment context fault machine).Excused pairing := by
  obtain ⟨given, same, stamped⟩ := accord.faults _ pardoned
  cases same
  have kept := accord.cut context.host _ machine counterpart home
    (stamped (machine.trailSteps context.trailHost)) twin
  have spoken := Pairs.excused_bind kept fun _ => accord.spoken context.host fault.text
  exact spoken

theorem pairs_not_found {context : Context} (home : known context.host)
    (name type message : String) :
    InStep pairing (notFound environment context name type message)
      (notFound other context name type message) :=
  (pairs_log accord _ _ _).bind fun _ => (pairs_record_fault accord home _).bind
    fun _ => .pure Value.null

theorem pairs_on_trail {α : Type} {run another : Run Machine α} (number : Nat) (kind name : String)
    (pairs : Pairs pairing pardons run another) :
    Pairs pairing pardons (Machine.onTrail number kind name run)
      (Machine.onTrail number kind name another) :=
  pairs.between (accord.trailed number (Trail.pushNamed kind name))
    (accord.trailed number Trail.pop)

theorem stays_modify_stack (number : Nat) (change : Cycle.Stack → Cycle.Stack) :
    pairing.Stays (Machine.modifyStack number change) (Machine.modifyStack number change) :=
  accord.restacked fun before => before.modify number change

/-- Where a key may be entered is decided by the stack and a ceiling; a refusal by the ceiling is
pardoned. -/
theorem enter_agrees {machine counterpart : Machine}
    (twin : pairing.twin machine counterpart) (number : Nat) (key : String) :
    (counterpart.stack number).enter counterpart.limits key =
    (machine.stack number).enter machine.limits key ∨
      ∃ failure, (machine.stack number).enter machine.limits key =
      .error failure ∧ pardons failure := by
  have same : counterpart.stack number = machine.stack number := by
    unfold Machine.stack
    rw [accord.cycles machine counterpart twin]
  rw [same]
  unfold Cycle.Stack.enter
  by_cases active : (machine.stack number).isActive key
  · rw [if_pos active, if_pos active]
    exact .inl rfl
  · rw [if_neg active, if_neg active]
    rcases accord.checks machine counterpart twin (machine.stack number).domain.label
      (.ofNat (machine.stack number).depth) with agreed | ⟨fault, refused, pardoned⟩
    · rw [agreed]
      exact .inl rfl
    · rw [refused]
      exact .inr ⟨.fault fault, rfl, pardoned⟩

theorem pairs_under_key {α : Type} {run another : Run Machine α} (number : Nat) (key : String)
    (pairs : Pairs pairing pardons run another) :
    Pairs pairing pardons (Machine.underKey number key run)
      (Machine.underKey number key another) := by
  have inside (entered : Cycle.Stack) :=
    pairs.between (stays_modify_stack accord number fun _ => entered)
    (stays_modify_stack accord number (Cycle.Stack.leave key))
  constructor
  case follows =>
    intro machine counterpart twin
    unfold Machine.underKey
    rcases enter_agrees accord twin number key with agreed | ⟨failure, refused, pardoned⟩
    · rw [agreed]
      cases (machine.stack number).enter machine.limits key with
      | error failure => exact .inl ⟨rfl, twin⟩
      | ok entered => exact (inside entered).follows machine counterpart twin
    · rw [refused]
      exact .inr (.inr ⟨pardoned, counterpart, twin⟩)
  case keeps =>
    intro machine counterpart twin shown
    unfold Machine.underKey
    cases (machine.stack number).enter machine.limits key with
    | error failure => exact ⟨shown, counterpart, twin⟩
    | ok entered => exact (inside entered).keeps machine counterpart twin shown

end Steps

section Nodes

variable {pairing : Pairing Machine Machine} {pardons : Failure → Prop} {known : Nat → Prop}
  {environment other : Environment} {first second : Evaluator} {context : Context} {depth : Value}

theorem pairs_optional (accompanied : Accompanied pairing known first second)
    (home : known context.host) (depth : Value) (formula : Option Formula) :
    InStep pairing (evaluateOptional first context depth formula)
      (evaluateOptional second context depth formula) := by
  cases formula with
  | none => exact .pure Value.null
  | some formula => exact accompanied formula context depth home

theorem pairs_below (accompanied : Accompanied pairing known first second)
    (home : known context.host) (formula : Option Formula) :
    InStep pairing (evaluateBelow first context depth formula)
      (evaluateBelow second context depth formula) :=
  (Pairs.of_except _).bind fun below => pairs_optional accompanied home below formula

variable (accord : Accord pairing pardons known environment other)

include accord

theorem pairs_evaluate_top (accompanied : Accompanied pairing known first second)
    (home : known context.host) (depth : Value) (formula : Option Formula) :
    InStep pairing (evaluateTop first context depth formula)
      (evaluateTop second context depth formula) := by
  cases formula with
  | none => exact .pure Value.null
  | some formula =>
      have node := accompanied formula context depth home
      rw [evaluate_top_eq, evaluate_top_eq]
      refine .at_states fun machine counterpart twin => .choose (fun _ => ?_) fun _ => node
      exact .followed_by (accord.closed _ _ _ _ machine counterpart (by decide) nofun twin) node

theorem pairs_source (accompanied : Accompanied pairing known first second)
    (home : known context.host) (depth source : Value) :
    InStep pairing (evaluateSource first context depth source)
      (evaluateSource second context depth source) :=
  (Pairs.of_except _).bind fun formula => pairs_evaluate_top accord accompanied home depth formula

theorem pairs_invoke (accompanied : Accompanied pairing known first second)
    (handle : Nat) (arguments : Value) :
    InStep pairing (invoke first handle arguments) (invoke second handle arguments) := by
  refine .get_bind fun machine counterpart twin => ?_
  rw [accord.closures machine counterpart twin]
  cases kept : machine.closures[handle]? with
  | none => exact .pure Value.null
  | some closure =>
      have home := accord.handles machine counterpart twin handle closure kept
      refine (Pairs.of_except _).bind fun entries => .of_except_bind fun inner made => ?_
      refine (Pairs.of_except _).bind fun below => pairs_evaluate_top accord accompanied
        ?_ below closure.formula
      rw [(same_home_with_arguments made).host]
      exact home

/-- Host code that looks at the limits table goes in lockstep if it finds the same there. -/
theorem pairs_routine (accompanied : Accompanied pairing known first second)
    (home : known context.host) (routine : Routine) (sees : routine.IsBlind ∨
      ∀ machine counterpart, pairing.twin machine counterpart →
      counterpart.limits = machine.limits) :
    InStep pairing (runRoutine first context routine) (runRoutine second context routine) := by
  induction routine with
  | answer value => exact .pure value
  | fail failure => exact .raise failure
  | invoke handle arguments next ih =>
      exact (pairs_invoke accord accompanied handle arguments).attempt.bind fun outcome =>
        ih outcome (sees.imp_left fun blind => blind outcome)
  | evaluate source depth next ih =>
      exact (pairs_source accord accompanied home depth source).attempt.bind fun outcome =>
        ih outcome (sees.imp_left fun blind => blind outcome)
  | limits next ih =>
      rcases sees with blind | same
      · exact blind.elim
      · refine .get_bind fun machine counterpart twin => ?_
        rw [same machine counterpart twin]
        exact ih machine.limits (.inr same)
  | record entry next ih =>
      exact (Pairs.modify (accord.noted fun entries => (entries.1 ++ [entry], entries.2))).bind
        fun _ => ih sees
  | advance seconds next ih =>
      exact (accord.advanced seconds).attempt.bind fun outcome =>
        ih outcome (sees.imp_left fun blind => blind outcome)
  | occurrence next ih =>
      refine .get_bind fun machine counterpart twin => ?_
      have same : counterpart.journal.nextOccurrence = machine.journal.nextOccurrence :=
        congrArg (fun entries => entries.2.2) (accord.entries machine counterpart twin)
      rw [same]
      refine (Pairs.modify
        (accord.noted fun entries => (entries.1, entries.2.1, entries.2.2 + 1))).bind fun _ => ?_
      exact ih _ (sees.imp_left fun blind => blind _)

theorem pairs_handler (accompanied : Accompanied pairing known first second)
    (home : known context.host)
    {handler : FormulaHandler} (registered : Registered (environment context.host).formulas handler)
    (arguments : Arguments) :
    InStep pairing (callHandler environment first context handler arguments)
      (callHandler other second context handler arguments) := by
  change InStep pairing
    (Run.get >>= fun machine => runRoutine first context
      (handler arguments (viewOf environment context machine)))
    (Run.get >>= fun machine => runRoutine second context
      (handler arguments (viewOf other context machine)))
  refine .get_bind fun machine counterpart twin => ?_
  have seen : viewOf other context counterpart = viewOf environment context machine := by
    unfold viewOf Machine.stack
    rw [accord.steps twin, accord.component_name, accord.cycles machine counterpart twin]
  rw [seen]
  exact pairs_routine accord accompanied home _
    ((accord.handlers context.host handler registered).imp_left fun blind => blind arguments _)

theorem pairs_argument (accompanied : Accompanied pairing known first second)
    (home : known context.host) (argument : Argument) :
    InStep pairing (evaluateArgument first context depth argument)
      (evaluateArgument second context depth argument) := by
  unfold evaluateArgument
  cases argument.isFunction with
  | false => exact pairs_below accompanied home argument.formula
  | true =>
      have stays :=
        accord.enclosed { formula := argument.formula, context := context, depth := depth } home
      refine .step stays fun machine counterpart twin => ?_
      change Value.closure machine.closures.size _ = Value.closure counterpart.closures.size _
      rw [accord.closures machine counterpart twin]

omit accord in
theorem pairs_collect_named {step another : Argument → Run Machine Value}
    (pairs : ∀ argument, InStep pairing (step argument) (another argument))
    (arguments : List Argument) (entries : Entries) :
    InStep pairing (collectNamed step arguments entries)
      (collectNamed another arguments entries) := by
  induction arguments generalizing entries with
  | nil => exact .pure entries
  | cons argument rest ih =>
      unfold collectNamed
      refine .choose (fun _ => ?_) fun _ => ih entries
      exact (pairs argument).bind fun content => (Pairs.of_except _).bind fun key => ih _

theorem pairs_named_arguments (accompanied : Accompanied pairing known first second)
    (home : known context.host) (arguments : List Argument) :
    InStep pairing (namedArguments first context depth arguments)
      (namedArguments second context depth arguments) :=
  pairs_collect_named (pairs_argument accord accompanied home) arguments []

theorem pairs_guarded (accompanied : Accompanied pairing known first second)
    (home : known context.host)
    (key : String) (fingerprint : Option String) (body : Option Formula) :
    Pairs pairing pardons (evaluateGuarded first context depth key fingerprint body)
      (evaluateGuarded second context depth key fingerprint body) := by
  have inner : InStep pairing (evaluateBelow first context depth body)
      (evaluateBelow second context depth body) :=
    pairs_below accompanied home body
  unfold evaluateGuarded
  refine pairs_on_trail accord _ _ _ ?_
  cases fingerprint with
  | none => exact inner.pardoned
  | some content => exact pairs_under_key accord _ _ inner.pardoned

theorem pairs_function (accompanied : Accompanied pairing known first second)
    (home : known context.host) (name : String) (arguments : List Argument) (declared : Value) :
    Pairs pairing pardons (evaluateFunction environment first context depth name arguments declared)
      (evaluateFunction other second context depth name arguments declared) := by
  unfold evaluateFunction callFound lookUp
  rw [accord.formulas]
  refine .of_except_bind fun resolution resolved => ?_
  match resolution with
  | none => exact (Pairs.of_except _).bind fun _ => (pairs_not_found accord home _ _ _).pardoned
  | some (.legacy handler found) =>
      refine (Pairs.collect fun argument _ => pairs_argument accord accompanied
        home argument).pardoned.bind
        fun items => ?_
      exact (pairs_handler accord accompanied home ⟨_, _, _, .inr resolved⟩ _).pardoned
  | some (.versioned (.handler handler) found) =>
      refine (pairs_named_arguments accord accompanied home arguments).pardoned.bind
        fun entries => ?_
      exact (pairs_handler accord accompanied home ⟨_, _, _, .inl resolved⟩ _).pardoned
  | some (.versioned (.value content) found) =>
      exact (pairs_named_arguments accord accompanied home arguments).pardoned.bind fun _ =>
        .raise _
  | some (.versioned (.definition definition) found) =>
      refine (pairs_named_arguments accord accompanied home arguments).pardoned.bind
        fun entries => ?_
      refine .of_except_bind fun inner made => pairs_guarded accord accompanied ?_ _ _ _
      change known inner.host
      rw [(same_home_with_arguments made).host]
      exact home

/-- A result is kept on both machines or on none: both have counted the same faults meanwhile. -/
theorem pairs_memoized (accompanied : Accompanied pairing known first second)
    (home : known context.host)
    (name key fingerprint : String) (memo : Memo String String) (body : Option Formula) :
    Pairs pairing pardons (evaluateMemoized first context depth name key fingerprint memo body)
      (evaluateMemoized second context depth name key fingerprint memo body) := by
  refine (accord.looked _ _ _).pardoned.bind fun _ => ?_
  cases memo.lookup name fingerprint with
  | some content => exact .pure content
  | none =>
      refine .get_bind fun before earlier twin => ?_
      refine (pairs_guarded accord accompanied home key (some fingerprint) body).bind
        fun content => ?_
      refine .get_bind fun after later paired => ?_
      have counted := accord.totals before earlier after later twin paired context.host
      dsimp only
      by_cases clean : (after.host context.host).sink.total = (before.host context.host).sink.total
      · rw [if_pos clean, if_pos (counted.mp clean)]
        have stored :=
          accord.memorized context.host fun memo => memo.map (Memo.store name fingerprint content)
        exact (Pairs.modify stored).bind fun _ => .pure content
      · rw [if_neg clean, if_neg fun same => clean (counted.mpr same)]
        exact .pure content

theorem pairs_apply (accompanied : Accompanied pairing known first second)
    (home : known context.host) (name : String) (arguments : List Argument) :
    Pairs pairing pardons (evaluateApply environment first context depth name arguments)
      (evaluateApply other second context depth name arguments) := by
  unfold evaluateApply
  rw [accord.components]
  cases (environment context.host).component with
  | none => exact (pairs_not_found accord home _ _ _).pardoned
  | some component =>
      dsimp only
      cases Keyed.find? name component.formulas with
      | none => exact (pairs_not_found accord home _ _ _).pardoned
      | some definition =>
          refine (pairs_named_arguments accord accompanied home arguments).pardoned.bind
            fun entries => ?_
          refine .of_except_bind fun inner made => .get_bind fun machine counterpart twin => ?_
          have inside : known inner.host := by
            rw [(same_home_with_arguments made).host]
            exact home
          rw [accord.memos machine counterpart twin]
          split
          · exact pairs_memoized accord accompanied inside _ _ _ _ _
          · exact pairs_guarded accord accompanied inside _ _ _

omit accord in
theorem pairs_any_operand {operand another : Argument → Run Machine Value} (truth : Bool)
    (pairs : ∀ argument, InStep pairing (operand argument) (another argument))
    (arguments : List Argument) :
    InStep pairing (anyOperand truth operand arguments) (anyOperand truth another arguments) := by
  induction arguments with
  | nil => exact .pure false
  | cons argument rest ih =>
      exact (pairs argument).bind fun content => .choose (fun _ => .pure true) fun _ => ih

omit accord in
theorem pairs_first_case
    {condition result otherCondition otherResult : FormulaCase → Run Machine Value}
    {fallback otherFallback : Run Machine Value}
    (conditions : ∀ branch, InStep pairing (condition branch) (otherCondition branch))
    (results : ∀ branch, InStep pairing (result branch) (otherResult branch))
    (last : InStep pairing fallback otherFallback) (cases : List FormulaCase) :
    InStep pairing (firstCase condition result fallback cases)
      (firstCase otherCondition otherResult otherFallback cases) := by
  induction cases with
  | nil => exact last
  | cons branch rest ih =>
      exact (conditions branch).bind fun content => .choose (fun _ => results branch) fun _ => ih

theorem pairs_dispatch (accompanied : Accompanied pairing known first second)
    (home : known context.host) (formula : Formula) :
    Pairs pairing pardons (dispatch environment first formula context depth)
      (dispatch other second formula context depth) := by
  have below (formula : Option Formula) : InStep pairing (evaluateBelow first context depth formula)
      (evaluateBelow second context depth formula) := pairs_below accompanied home formula
  have operand (argument : Argument) := below argument.formula
  cases formula with
  | value content => exact .pure content
  | path segments => exact .of_except _
  | function name arguments package =>
      exact pairs_function accord accompanied home name arguments package
  | apply name arguments => exact pairs_apply accord accompanied home name arguments
  | object arguments =>
      exact (pairs_collect_named operand arguments []).pardoned.bind fun _ => .pure _
  | record arguments =>
      exact (pairs_collect_named operand arguments []).pardoned.bind fun _ => .pure _
  | array arguments =>
      exact (Pairs.collect fun argument _ => operand argument).pardoned.bind fun _ => .pure _
  | or arguments => exact (pairs_any_operand true operand arguments).pardoned.bind fun _ => .pure _
  | and arguments =>
      exact (pairs_any_operand false operand arguments).pardoned.bind fun _ => .pure _
  | switch cases fallback =>
      exact (pairs_first_case (fun branch => below branch.condition)
        (fun branch => below branch.result) (below fallback) cases).pardoned

/-- What fails inside of a node is kept by the node, so a pardon for it is redeemed there. -/
theorem pairs_node (accompanied : Accompanied pairing known first second)
    (home : known context.host) (formula : Formula) :
    InStep pairing (evaluateWith environment first formula context depth)
      (evaluateWith other second formula context depth) := by
  have keeps (fault : Fault) : InStep pairing
      (recordFault environment context fault >>= fun _ => pure Value.null)
      (recordFault other context fault >>= fun _ => pure Value.null) :=
    (pairs_record_fault accord home fault).bind fun _ => .pure Value.null
  have excuses (fault : Fault) (pardoned : pardons (.fault fault)) (machine counterpart : Machine)
      (twin : pairing.twin machine counterpart) :
      ((recordFault environment context fault >>= fun _ => pure Value.null) machine).Excused
      pairing :=
    Pairs.excused_bind (record_fault_excused accord home pardoned twin) fun _ =>
      (.pure Value.null : InStep pairing (pure Value.null) (pure Value.null))
  refine .get_bind fun machine counterpart twin => ?_
  rcases accord.checks machine counterpart twin "formula" depth with agreed |
    ⟨fault, refused, pardoned⟩
  · rw [agreed]
    cases machine.limits.check "formula" "max_depth" depth with
    | error failure =>
        cases failure with
        | fault fault => exact keeps fault
        | mishap mishap => exact .raise _
    | ok =>
        refine (pairs_dispatch accord accompanied home formula).recover (fun outcome => ?_)
          fun failure pardoned => ?_
        · cases outcome with
          | ok content => exact .pure content
          | error failure =>
              refine .get_bind fun reached last paired => ?_
              have same : nodeFault other formula context last failure =
                  nodeFault environment formula context reached failure := by
                cases failure with
                | fault fault => rfl
                | mishap mishap =>
                    unfold nodeFault
                    rw [accord.steps paired, accord.component_name]
              rw [same]
              exact keeps _
        · obtain ⟨fault, rfl, _⟩ := accord.faults failure pardoned
          exact excuses fault pardoned
  · -- refused on the first machine only, whatever the node does on the other one
    rw [refused]
    exact .of_excused (excuses fault pardoned)

theorem accompanied_nodes (fuel : Nat) :
    Accompanied pairing known (evaluateNode environment fuel) (evaluateNode other fuel) := by
  induction fuel with
  | zero => exact fun _ _ _ _ => .exhaust
  | succ fuel ih => exact fun formula context depth home => pairs_node accord ih home formula

end Nodes

end Evaluate
end Interplay
