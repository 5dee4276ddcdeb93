import Interplay.Evaluate.Machine
import Interplay.Evaluate.Path
import Interplay.Formula.Reader
import Interplay.Limits.Reader
import Interplay.Value.Fingerprint

/-!
Evaluation of formulas.

Evaluating a node never fails: every failure is kept in the sink of the host and the node is null.
Depth is checked before any work, and a call of a definition that is already being evaluated with
the same arguments is a cycle.  Each function below takes the evaluator of smaller nodes as a
parameter; `evaluateNode` ties the knot with fuel, which bounds how deep evaluations nest and is no
part of the language.
-/

namespace Interplay
namespace Evaluate

abbrev Evaluator := Formula → Context → Value → Run Machine Value

/-- An absent formula is null, at any depth. -/
def evaluateOptional (evaluator : Evaluator) (context : Context) (depth : Value) :
    Option Formula → Run Machine Value
  | none => pure .null
  | some formula => evaluator formula context depth

def withArguments (arguments : Entries) (context : Context) : Except Failure Context :=
  context.withSlots [(.text "Args", .mapping arguments)]

def componentName (environment : Environment) (context : Context) : Value :=
  match (environment context.host).component with
  | some component => .text component.name
  | none => .null

def evaluateBelow (evaluator : Evaluator) (context : Context) (depth : Value)
    (formula : Option Formula) :
    Run Machine Value := do
  let below ← Run.ofExcept depth.successor
  evaluateOptional evaluator context below formula

/-- Keeps a fault, stamped with the trail if it has no path, and logs it where the host asks for
that. -/
def recordFault (environment : Environment) (context : Context) (fault : Fault) :
    Run Machine Unit := do
  let machine ← Run.get
  Machine.addFault context.host (fault.stamp (machine.trailSteps context.trailHost))
  if (environment context.host).logErrors then Run.modify (Machine.log .error .evaluate fault.text)

/-- Evaluates a whole formula; at depth zero it is timed under its name or tag. -/
def evaluateTop (evaluator : Evaluator) (context : Context) (depth : Value) :
    Option Formula → Run Machine Value
  | none => pure .null
  | some formula => fun machine =>
    if depth.same (.int 0) ∧ machine.hasMetrics context.host then
      let name := match formula.name? with
        | some name => if name.isEmpty then formula.tag else name
        | none => formula.tag
      Machine.timed context.host (.text name) (.text "formula")
        (machine.limits.ceiling "formula" "max_evaluation_time")
        (evaluator formula context depth) machine
    else
      evaluator formula context depth machine

def evaluateSource (evaluator : Evaluator) (context : Context) (depth : Value) (source : Value) :
    Run Machine Value := do
  let formula ← Run.ofExcept (Formula.read source)
  evaluateTop evaluator context depth formula

/-- Calls a closure: its formula is evaluated one level below its own depth, with the arguments as
`Args`. -/
def invoke (evaluator : Evaluator) (handle : Nat) (arguments : Value) : Run Machine Value := do
  let machine ← Run.get
  match machine.closures[handle]? with
  | none => pure .null
  | some closure => do
    let entries ← Run.ofExcept arguments.toArguments
    let context ← Run.ofExcept (withArguments entries closure.context)
    let below ← Run.ofExcept closure.depth.successor
    evaluateTop evaluator context below closure.formula

def runRoutine (evaluator : Evaluator) (context : Context) : Routine → Run Machine Value
  | .answer value => pure value
  | .fail failure => Run.raise failure
  | .invoke handle arguments next => do
    let outcome ← Run.attempt (invoke evaluator handle arguments)
    runRoutine evaluator context (next outcome)
  | .evaluate source depth next => do
    let outcome ← Run.attempt (evaluateSource evaluator context depth source)
    runRoutine evaluator context (next outcome)
  | .limits next => do
    let machine ← Run.get
    runRoutine evaluator context (next machine.limits)
  | .record entry next => do
    Run.modify (Machine.modifyJournal (Journal.record entry))
    runRoutine evaluator context next
  | .advance seconds next => do
    let outcome ← Run.attempt (Machine.advance seconds)
    runRoutine evaluator context (next outcome)
  | .occurrence next => do
    let machine ← Run.get
    Run.modify (Machine.modifyJournal fun journal =>
      { journal with nextOccurrence := journal.nextOccurrence + 1 })
    runRoutine evaluator context (next machine.journal.nextOccurrence)

def viewOf (environment : Environment) (context : Context) (machine : Machine) : View :=
  { data := context.data
    package := context.package
    component := componentName environment context
    trail := machine.trailSteps context.trailHost
    cycles := (machine.stack context.stack).path }

def callHandler (environment : Environment) (evaluator : Evaluator) (context : Context)
    (handler : FormulaHandler) (arguments : Arguments) : Run Machine Value := fun machine =>
  runRoutine evaluator context (handler arguments (viewOf environment context machine)) machine

/-- An argument of a call: a closure if it is higher-order, else its value one level down. -/
def evaluateArgument (evaluator : Evaluator) (context : Context)
    (depth : Value) (argument : Argument) :
    Run Machine Value :=
  if argument.isFunction then fun machine =>
    let closure := { formula := argument.formula, context := context, depth := depth }
    let kept := machine.newClosure closure
    .done (.closure kept.1 (closureTag argument.formula)) kept.2
  else
    evaluateBelow evaluator context depth argument.formula

/-- Collects the named arguments in order; a later one overwrites an earlier one of the same
name. -/
def collectNamed (step : Argument → Run Machine Value) : List Argument →
    Entries → Run Machine Entries
  | [], entries => pure entries
  | argument :: rest, entries =>
    if argument.name.isFilled then do
      let content ← step argument
      let key ← Run.ofExcept argument.name.toKey
      collectNamed step rest (Keyed.insert key content entries)
    else
      collectNamed step rest entries

def namedArguments (evaluator : Evaluator) (context : Context) (depth : Value)
    (arguments : List Argument) :
    Run Machine Entries :=
  collectNamed (evaluateArgument evaluator context depth) arguments []

/-- Evaluates the body of a definition on the trail, refusing to enter it again with the same
arguments. -/
def evaluateGuarded (evaluator : Evaluator) (context : Context) (depth : Value) (key : String)
    (fingerprint : Option String) (body : Option Formula) : Run Machine Value :=
  let inner := evaluateBelow evaluator context depth body
  Machine.onTrail context.trailHost "formula" key <|
    match fingerprint with
    | none => inner
    | some content => Machine.underKey context.stack (key ++ "#" ++ content) inner

/-- Nothing answers to the name: a warning, a fault and null. -/
def notFound (environment : Environment) (context : Context) (name type message : String) :
    Run Machine Value := do
  Run.modify (Machine.log .warning .evaluate message)
  recordFault environment context (Fault.formula name type message [] .null none)
  pure .null

abbrev Lookup :=
  String → Value → Run Machine (Option (Resolution (FormulaEntry FormulaHandler) FormulaHandler))

def lookUp (environment : Environment) (context : Context) : Lookup := fun name package =>
  Run.ofExcept ((environment context.host).formulas.resolve (.text name) package)

/-- Calls what the name of a function is found to stand for, in the package that it declares or else
in that of its context. -/
def callFound (lookup : Lookup) (environment : Environment) (evaluator : Evaluator)
    (context : Context) (depth : Value)
    (name : String) (arguments : List Argument) (declared : Value) : Run Machine Value := do
  let package := declared.orElse context.package
  match ← lookup name package with
  | none => do
    let _ ← Run.ofExcept package.written
    notFound environment context name "function" ("Formula not found: " ++ package.qualify name)
  | some (.legacy handler _) => do
    let items ← Run.collect (evaluateArgument evaluator context depth) arguments
    callHandler environment evaluator context handler (.positional items)
  | some (.versioned (.handler handler) _) => do
    let entries ← namedArguments evaluator context depth arguments
    callHandler environment evaluator context handler (.named entries)
  | some (.versioned (.value content) _) => do
    let _ ← namedArguments evaluator context depth arguments
    Run.raise (.mishap (.notCallable content.typeName))
  | some (.versioned (.definition definition) found) => do
    let entries ← namedArguments evaluator context depth arguments
    let inner ← Run.ofExcept (withArguments entries context)
    let bodyContext := { inner with package := found.orElse package }
    let key := (found.orElse (.text "")).display ++ "/" ++ definition.name.display
    evaluateGuarded evaluator bodyContext depth key entries.fingerprint definition.formula

def evaluateFunction (environment : Environment) (evaluator : Evaluator)
    (context : Context) (depth : Value)
    (name : String) (arguments : List Argument) (declared : Value) : Run Machine Value :=
  callFound (lookUp environment context) environment evaluator context depth name arguments declared

/-- A memoized call: a hit is answered from the memo; a result is kept only if computing it added no
fault. -/
def evaluateMemoized (evaluator : Evaluator) (context : Context) (depth : Value)
    (name key fingerprint : String)
    (memo : Memo String String) (body : Option Formula) : Run Machine Value := do
  let cached := memo.lookup name fingerprint
  Machine.onMetrics context.host () (Metrics.recordCache (.text name) cached.isSome)
  match cached with
  | some content => pure content
  | none => do
    let before ← Run.get
    let content ← evaluateGuarded evaluator context depth key (some fingerprint) body
    let after ← Run.get
    if (after.host context.host).sink.total = (before.host context.host).sink.total then
      Run.modify (Machine.modifyHost context.host fun state =>
        { state with memo := state.memo.map (Memo.store name fingerprint content) })
    pure content

def evaluateApply (environment : Environment) (evaluator : Evaluator)
    (context : Context) (depth : Value)
    (name : String) (arguments : List Argument) : Run Machine Value :=
  match (environment context.host).component with
  | none => notFound environment context name "apply" ("Component formula not found: " ++ name)
  | some component =>
    match Keyed.find? name component.formulas with
    | none => notFound environment context name "apply" ("Component formula not found: " ++ name)
    | some definition => do
      let entries ← namedArguments evaluator context depth arguments
      let bodyContext ← Run.ofExcept (withArguments entries context)
      let key := component.name ++ "/" ++ name
      let machine ← Run.get
      match definition.memoize, (machine.host context.host).memo, entries.fingerprint with
      | true, some memo, some fingerprint =>
        evaluateMemoized evaluator bodyContext depth name key fingerprint memo definition.formula
      | _, _, fingerprint =>
        evaluateGuarded evaluator bodyContext depth key fingerprint definition.formula

/-- Evaluates operands in order until one has the given truth; says whether one had. -/
def anyOperand (truth : Bool) (operand : Argument → Run Machine Value) :
    List Argument → Run Machine Bool
  | [] => pure false
  | argument :: rest => do
    let content ← operand argument
    if content.isTrue = truth then pure true else anyOperand truth operand rest

def firstCase (condition result : FormulaCase → Run Machine Value) (fallback : Run Machine Value) :
    List FormulaCase → Run Machine Value
  | [] => fallback
  | branch :: rest => do
    let content ← condition branch
    if content.isTrue then result branch else firstCase condition result fallback rest

def dispatch (environment : Environment) (evaluator : Evaluator)
    (formula : Formula) (context : Context) (depth : Value) : Run Machine Value :=
  let below := evaluateBelow evaluator context depth
  match formula with
  | .value content => pure content
  | .path segments => Run.ofExcept (Path.walk segments context.data)
  | .function name arguments package =>
    evaluateFunction environment evaluator context depth name arguments package
  | .apply name arguments => evaluateApply environment evaluator context depth name arguments
  | .object arguments => do
    let entries ← collectNamed (fun argument => below argument.formula) arguments []
    pure (.mapping entries)
  | .record arguments => do
    let entries ← collectNamed (fun argument => below argument.formula) arguments []
    pure (.mapping entries)
  | .array arguments => do
    let items ← Run.collect (fun argument : Argument => below argument.formula) arguments
    pure (.list items)
  | .or arguments => do
    let found ← anyOperand true (fun argument => below argument.formula) arguments
    pure (.bool found)
  | .and arguments => do
    let found ← anyOperand false (fun argument => below argument.formula) arguments
    pure (.bool (!found))
  | .switch cases fallback =>
    firstCase (fun branch => below branch.condition)
      (fun branch => below branch.result) (below fallback) cases

def nodeFault (environment : Environment) (formula : Formula)
    (context : Context) (machine : Machine) :
    Failure → Fault
  | .fault fault => fault
  | .mishap mishap =>
    Fault.formula (formula.name?.getD formula.tag) formula.tag
      ("Formula evaluation error: " ++ mishap.message) (machine.trailSteps context.trailHost)
      (componentName environment context) (some mishap)

/-- One node: too deep a node is a fault, and so is every failure inside it; both give null.  A
depth that cannot be compared with its ceiling is a failure of whoever asked for the node. -/
def evaluateWith (environment : Environment) (evaluator : Evaluator)
    (formula : Formula) (context : Context) (depth : Value) : Run Machine Value := do
  let machine ← Run.get
  match machine.limits.check "formula" "max_depth" depth with
  | .error (.fault fault) => do
    recordFault environment context fault
    pure .null
  | .error failure => Run.raise failure
  | .ok () => do
    match ← Run.attempt (dispatch environment evaluator formula context depth) with
    | .ok content => pure content
    | .error failure => do
      let reached ← Run.get
      recordFault environment context (nodeFault environment formula context reached failure)
      pure .null

/-- Evaluation with fuel for the nesting of nodes. -/
def evaluateNode (environment : Environment) : Nat → Evaluator
  | 0 => fun _ _ _ => Run.exhaust
  | fuel + 1 => evaluateWith environment (evaluateNode environment fuel)

/-- Evaluates a formula in a context. -/
def evaluate (environment : Environment) (fuel : Nat) (formula : Option Formula) (context : Context)
    (depth : Value) : Run Machine Value :=
  evaluateTop (evaluateNode environment fuel) context depth formula

/-- Evaluates a persisted formula in a context. -/
def evaluatePersisted (environment : Environment) (fuel : Nat) (source : Value) (context : Context)
    (depth : Value) : Run Machine Value :=
  evaluateSource (evaluateNode environment fuel) context depth source

end Evaluate
end Interplay
