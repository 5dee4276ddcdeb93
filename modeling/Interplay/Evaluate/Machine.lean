import Interplay.Cycle.Stack
import Interplay.Decimal.Binary
import Interplay.Evaluate.Routine
import Interplay.Journal
import Interplay.Memo
import Interplay.Metrics.Report
import Interplay.Sink
import Interplay.Trail

/-!
The state that evaluation works on.

A host is an instance or a lone context: it has a sink, maybe a memo and metrics, and a trail.  A
context names its host, the host whose trail it extends, and its cycle stack.  Closures are kept in
a table and may be called from any context.
-/

namespace Interplay

structure HostState where
  sink : Sink Fault
  memo : Option (Memo String String)
  metrics : Option (Metrics Value)
  trail : Trail

structure Context where
  host : Nat
  trailHost : Nat
  stack : Nat
  data : Value
  package : Value

namespace Context

def withSlots (slots : Entries) (context : Context) : Except Failure Context :=
  match context.data.spread with
  | .error failure => .error failure
  | .ok entries => .ok { context with data := .mapping (Entries.merge entries slots) }

end Context

structure Closure where
  formula : Option Formula
  context : Context
  depth : Value

structure Machine where
  limits : Limits
  journal : Journal
  hosts : Array HostState
  cycleStacks : Array Cycle.Stack
  closures : Array Closure

/-- What stays fixed about a host while formulas run. -/
structure Profile where
  formulas : FormulaCatalog
  component : Option Component
  logErrors : Bool

abbrev Environment := Nat → Profile

namespace HostState

def blank : HostState :=
  { sink := Sink.ofCapacity (.int 0), memo := none, metrics := none, trail := Trail.empty }

end HostState

namespace Machine

def host (number : Nat) (machine : Machine) : HostState :=
  (machine.hosts[number]?).getD HostState.blank

def modifyHost (number : Nat) (change : HostState → HostState) (machine : Machine) : Machine :=
  { machine with hosts := machine.hosts.modify number change }

def stack (number : Nat) (machine : Machine) : Cycle.Stack :=
  (machine.cycleStacks[number]?).getD (Cycle.Stack.empty .formula)

def modifyStack (number : Nat) (change : Cycle.Stack → Cycle.Stack) (machine : Machine) : Machine :=
  { machine with cycleStacks := machine.cycleStacks.modify number change }

def newStack (machine : Machine) : Nat × Machine :=
  (machine.cycleStacks.size,
   { machine with cycleStacks := machine.cycleStacks.push (Cycle.Stack.empty .formula) })

def newClosure (closure : Closure) (machine : Machine) : Nat × Machine :=
  (machine.closures.size, { machine with closures := machine.closures.push closure })

def modifyJournal (change : Journal → Journal) (machine : Machine) : Machine :=
  { machine with journal := change machine.journal }

def log (level : LogLevel) (source : LogSource) (message : String) (machine : Machine) : Machine :=
  machine.modifyJournal (Journal.log level source message)

/-- What the clock shows. -/
def now (machine : Machine) : Value :=
  machine.journal.now

def advance (seconds : Value) : Run Machine Unit :=
  Run.update fun machine => do
    return { machine with journal := ← machine.journal.advance seconds }

def trailSteps (number : Nat) (machine : Machine) : List TrailStep :=
  (machine.host number).trail.steps

def pushStep (number : Nat) (kind name : String) (machine : Machine) : Machine :=
  machine.modifyHost number fun state => { state with trail := state.trail.pushNamed kind name }

def popStep (number : Nat) (machine : Machine) : Machine :=
  machine.modifyHost number fun state => { state with trail := state.trail.pop }

def addFault (number : Nat) (fault : Fault) : Run Machine Unit :=
  Run.update fun machine => do
    let sink ← (machine.host number).sink.add fault
    return machine.modifyHost number fun state => { state with sink := sink }

def onMetrics {α : Type} (number : Nat) (standard : α) (body : Run (Metrics Value) α) :
    Run Machine α :=
  fun machine =>
    match (machine.host number).metrics with
    | none => .done standard machine
    | some metrics =>
      (body metrics).mapState fun after =>
        machine.modifyHost number fun state => { state with metrics := some after }

def hasMetrics (number : Nat) (machine : Machine) : Bool :=
  (machine.host number).metrics.isSome

def overBudget (budget duration : Value) : Except Failure Bool :=
  if budget.isFilled then duration.compare .above budget else .ok false

def budgetMessage (category name budget duration : Value) : String :=
  category.display ++ " " ++ name.display ++ " took " ++
    Decimal.fixed 1 duration.toFloat ++ " ms (budget " ++ budget.display ++ " ms)"

def finishTiming (number : Nat) (name category budget started : Value) : Run Machine Unit := do
  let machine ← Run.get
  let duration := Measure.elapsed started machine.now
  onMetrics number () (Metrics.record name category machine.now duration none)
  if ← Run.ofExcept (overBudget budget duration) then
    Run.modify (log .warning .metrics (budgetMessage category name budget duration))

def timed {α : Type} (number : Nat) (name category budget : Value) (body : Run Machine α) :
    Run Machine α :=
  fun machine => Run.followedBy (finishTiming number name category budget machine.now) body machine

def onTrail {α : Type} (number : Nat) (kind name : String) (body : Run Machine α) : Run Machine α :=
  fun machine => Run.ensuring (popStep number) body (machine.pushStep number kind name)

def underKey {α : Type} (number : Nat) (key : String) (body : Run Machine α) : Run Machine α :=
  fun machine =>
    match (machine.stack number).enter machine.limits key with
    | .error failure => .raised failure machine
    | .ok entered =>
      Run.ensuring (modifyStack number (Cycle.Stack.leave key)) body
        (machine.modifyStack number fun _ => entered)

end Machine
end Interplay
