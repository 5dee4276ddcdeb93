import Interplay.Execute.Executor
import Interplay.Proofs.Evaluate.Ground

/-!
How host code behaves.

Callbacks of signals are quiet: they work on other signals only along a fixed order, make no signals
and resume nothing.  Code that actions call is tame: it resumes only what it was handed for this
very call, and every callback that it attaches is quiet.  A world is calm if every callback that is
stored in it is quiet.
-/

namespace Interplay
namespace Execute

/-- An order of signals along which changes spread.  Signals that are there from the start may be
ordered in any way, and all later ones come after them, each after those that were made before
it. -/
structure SignalOrder where
  base : Nat
  rank : Nat → Nat
  early : ∀ signal, signal < base → rank signal < base
  late : ∀ signal, base ≤ signal → rank signal = signal

namespace SignalOrder

variable (order : SignalOrder)

theorem rank_lt {signal size : Nat} (based : order.base ≤ size) (inside : signal < size) :
    order.rank signal < size := by
  by_cases first : signal < order.base
  · exact Nat.lt_of_lt_of_le (order.early signal first) based
  · rw [order.late signal (Nat.le_of_not_lt first)]
    exact inside

end SignalOrder

def Effect.Resumes (own : Nat → Prop) (effect : Effect) : Prop :=
  ∀ continuation event payload, effect = .resume continuation event payload → own continuation

/-- Code that may run as a callback of a signal. -/
inductive Quiet (order : SignalOrder) : Nat → Plan → Prop
  | finish {floor : Nat} (answer : Signal.Answer Effect) : Quiet order floor (.finish answer)
  | fail {floor : Nat} (failure : Failure) : Quiet order floor (.fail failure)
  | read {floor signal : Nat} {next : Value → Plan}
      (continues : ∀ content, Quiet order floor (next content)) :
      Quiet order floor (.read signal next)
  | isDestroyed {floor signal : Nat} {next : Bool → Plan}
      (continues : ∀ flag, Quiet order floor (next flag)) :
      Quiet order floor (.isDestroyed signal next)
  | write {floor signal : Nat} {content : Value} {next : Plan}
      (later : order.rank floor < order.rank signal)
      (continues : Quiet order floor next) : Quiet order floor (.write signal content next)
  | subscribe {floor signal : Nat} {notify : Value → Plan}
      {teardown : Option Plan} {next : Nat → Plan}
      (later : order.rank floor < order.rank signal)
      (notified : ∀ content, Quiet order signal (notify content))
      (released : ∀ script, teardown = some script → Quiet order signal script)
      (continues : ∀ number, Quiet order floor (next number)) :
      Quiet order floor (.subscribe signal notify teardown next)
  | unsubscribe {floor signal subscription : Nat} {next : Plan}
      (continues : Quiet order floor next) :
      Quiet order floor (.unsubscribe signal subscription next)
  | destroy {floor signal : Nat} {next : Plan} (later : order.rank floor < order.rank signal)
      (continues : Quiet order floor next) : Quiet order floor (.destroy signal next)
  | clean {floor signal : Nat} {next : Plan} (later : order.rank floor < order.rank signal)
      (continues : Quiet order floor next) : Quiet order floor (.clean signal next)
  | perform {floor : Nat} {effect : Effect} {next : Except Failure Value → Plan}
      (resumes : effect.Resumes fun _ => False)
      (continues : ∀ outcome, Quiet order floor (next outcome)) :
      Quiet order floor (.perform effect next)

/-- Code that an action may call, where a number of signals is known to be there; `own` is what it
may resume and `good` what it may return. -/
inductive Tame (order : SignalOrder) (own : Nat → Prop) (good : Signal.Answer Effect → Prop) : Nat →
    Plan → Prop
  | finish {present : Nat} {answer : Signal.Answer Effect} (returned : good answer) :
      Tame order own good present (.finish answer)
  | fail {present : Nat} (failure : Failure) : Tame order own good present (.fail failure)
  | create {present : Nat} {content : Value} {onDestroy : Option Plan} {next : Nat → Plan}
      (destroyed : ∀ script, onDestroy = some script → ∀ number, present ≤ number →
        Quiet order number script)
      (continues : ∀ number, present ≤ number → Tame order own good (number + 1) (next number)) :
      Tame order own good present (.create content onDestroy next)
  | read {present signal : Nat} {next : Value → Plan}
    (continues : ∀ content, Tame order own good present (next content)) :
      Tame order own good present (.read signal next)
  | isDestroyed {present signal : Nat} {next : Bool → Plan}
      (continues : ∀ flag, Tame order own good present (next flag)) :
      Tame order own good present (.isDestroyed signal next)
  | write {present signal : Nat} {content : Value} {next : Plan}
      (continues : Tame order own good present next) :
      Tame order own good present (.write signal content next)
  | subscribe {present signal : Nat} {notify : Value → Plan}
      {teardown : Option Plan} {next : Nat → Plan}
      (notified : ∀ content, Quiet order signal (notify content))
      (released : ∀ script, teardown = some script → Quiet order signal script)
      (continues : ∀ number, Tame order own good present (next number)) :
      Tame order own good present (.subscribe signal notify teardown next)
  | unsubscribe {present signal subscription : Nat} {next : Plan}
      (continues : Tame order own good present next) :
      Tame order own good present (.unsubscribe signal subscription next)
  | derive {present signal : Nat} {transform : Value → Plan} {next : Except Failure Nat → Plan}
      (known : signal < present) (transformed : ∀ content, Quiet order signal (transform content))
      (continues : ∀ number, present ≤ number →
        Tame order own good (number + 1) (next (.ok number)))
      (fails : ∀ failure, Tame order own good present (next (.error failure))) :
      Tame order own good present (.derive signal transform next)
  | destroy {present signal : Nat} {next : Plan} (continues : Tame order own good present next) :
      Tame order own good present (.destroy signal next)
  | clean {present signal : Nat} {next : Plan} (continues : Tame order own good present next) :
      Tame order own good present (.clean signal next)
  | perform {present : Nat} {effect : Effect} {next : Except Failure Value → Plan}
      (resumes : effect.Resumes own)
      (continues : ∀ outcome, Tame order own good present (next outcome)) :
      Tame order own good present (.perform effect next)

def QuietReaction (order : SignalOrder) (signal : Nat) : Signal.Reaction Effect → Prop
  | .call run => ∀ content, Quiet order signal (run content)
  | .feed target transform =>
    order.rank signal < order.rank target ∧ ∀ content, Quiet order signal (transform content)

def QuietRelease (order : SignalOrder) (signal : Nat) : Signal.Release Effect → Prop
  | .nothing => True
  | .call run => Quiet order signal run
  | .destroy target => order.rank signal < order.rank target

structure QuietCell (order : SignalOrder) (signal : Nat) (cell : Signal.Cell Effect) : Prop where
  reactions : ∀ subscriber ∈ cell.subscribers, QuietReaction order signal subscriber.reaction
  releases : ∀ subscriber ∈ cell.subscribers, QuietRelease order signal subscriber.release
  onDestroy : ∀ script, cell.onDestroy = some script → Quiet order signal script

/-- What a run of actions counts on: an order of signals, the ceiling on depth and a property of the
machine under which formulas come to an end. -/
structure Terms where
  order : SignalOrder
  ceiling : Int
  sound : Machine → Prop

/-- A world in which stored callbacks are quiet; `known` are continuations that it has, and `sizes`
says how many signals there may be. -/
structure Calm (terms : Terms) (known : List (Nat × Continuation)) (sizes : Nat → Prop)
    (world : World) : Prop where
  sound : terms.sound world.machine
  limit : world.machine.limits.ceiling "action" "max_depth" = .int terms.ceiling
  known : ∀ entry ∈ known, world.host.continuations[entry.1]? = some entry.2
  cells : ∀ number cell, world.cells[number]? = some cell → QuietCell terms.order number cell
  based : terms.order.base ≤ world.cells.size
  sized : sizes world.cells.size
  promises : ∀ (number : Nat) promise plan, world.host.promises[number]? = some promise →
    promise.settlement = some (.cleanup plan) → ∀ signal, Quiet terms.order signal plan

namespace Calm

variable {terms : Terms} {known : List (Nat × Continuation)} {sizes : Nat → Prop} {world : World}

/-- A look at a calm world finds it calm. -/
theorem still (calm : Calm terms known sizes world) (state : World) (same : state = world) :
    Calm terms known sizes state := by
  rw [same]
  exact calm

theorem resize {other : Nat → Prop} (calm : Calm terms known sizes world)
    (fits : other world.cells.size) :
    Calm terms known other world :=
  ⟨calm.sound, calm.limit, calm.known, calm.cells, calm.based, fits, calm.promises⟩

theorem forget {entry : Nat × Continuation} (calm : Calm terms (entry :: known) sizes world) :
    Calm terms known sizes world :=
  ⟨calm.sound, calm.limit, fun other member => calm.known other (List.mem_cons_of_mem _ member),
    calm.cells, calm.based, calm.sized, calm.promises⟩

theorem quiet_cell (calm : Calm terms known sizes world) (number : Nat) :
    QuietCell terms.order number (world.cell number) := by
  unfold Signal.Store.cell
  cases found : world.cells[number]? with
  | none =>
      exact ⟨fun _ member => (by cases member), fun _ member => (by cases member),
        fun _ same => by cases same⟩
  | some cell => exact calm.cells number cell found

theorem set_machine (calm : Calm terms known sizes world) {machine : Machine}
    (sound : terms.sound machine)
    (limits : machine.limits = world.machine.limits) : Calm terms known sizes
    (world.setMachine machine) := by
  refine ⟨sound, ?_, calm.known, calm.cells, calm.based, calm.sized, calm.promises⟩
  change machine.limits.ceiling "action" "max_depth" = _
  rw [limits]
  exact calm.limit

theorem modify_machine (grounded : Machine.Grounded terms.sound)
    (calm : Calm terms known sizes world)
    {change : Machine → Machine} (kept : Machine.SameGround world.machine (change world.machine)) :
    Calm terms known sizes (world.modifyMachine change) :=
  calm.set_machine (grounded _ _ kept calm.sound) kept.limits

/-- Changes of the stage that keep the machine, the continuations and the cleanups of settled
promises. -/
theorem set_stage (calm : Calm terms known sizes world) {change : Stage → Stage}
    (machine : (change world.host).machine = world.host.machine)
    (continuations : ∀ (number : Nat) continuation, world.host.continuations[number]? =
      some continuation →
      (change world.host).continuations[number]? = some continuation)
    (promises : ∀ (number : Nat) promise plan, (change world.host).promises[number]? =
      some promise →
      promise.settlement = some (.cleanup plan) →
      ∃ other : Promise, world.host.promises[number]? = some other ∧
      other.settlement = some (.cleanup plan)) :
    Calm terms known sizes (world.modifyStage change) := by
  refine ⟨?_, ?_, fun entry member => continuations _ _ (calm.known entry member),
    calm.cells, calm.based, calm.sized,
    fun number promise plan found settled => ?_⟩
  · change terms.sound (change world.host).machine
    rw [machine]
    exact calm.sound
  · change (change world.host).machine.limits.ceiling "action" "max_depth" = _
    rw [machine]
    exact calm.limit
  · obtain ⟨other, before, same⟩ := promises number promise plan found settled
    exact calm.promises number other plan before same

theorem enqueue (calm : Calm terms known sizes world) (job : Job) :
    Calm terms known sizes (world.enqueue job) :=
  calm.set_stage rfl (fun _ _ found => found) fun _ promise _ found settled =>
    ⟨promise, found, settled⟩

theorem modify_workflows (calm : Calm terms known sizes world) (number : Nat)
    (change : Cycle.Workflow String → Cycle.Workflow String) :
    Calm terms known sizes (world.modifyWorkflows number change) :=
  calm.set_stage rfl (fun _ _ found => found) fun _ promise _ found settled =>
    ⟨promise, found, settled⟩

theorem new_continuation (calm : Calm terms known sizes world) (continuation : Continuation) :
    Calm terms ((world.host.continuations.size, continuation) :: known) sizes
      (world.newContinuation continuation).2 := by
  have pushed : Calm terms known sizes (world.newContinuation continuation).2 := by
    unfold World.newContinuation
    dsimp only
    refine calm.set_stage rfl (fun number found present => ?_)
      fun _ promise _ found settled => ⟨promise, found, settled⟩
    have inside := (Array.getElem?_eq_some_iff.mp present).1
    simp only [Array.getElem?_push, Nat.ne_of_lt inside, if_false]
    exact present
  refine ⟨pushed.sound, pushed.limit, fun entry member => ?_, pushed.cells, pushed.based,
    pushed.sized, pushed.promises⟩
  rcases List.mem_cons.mp member with rfl | older
  · simp [World.newContinuation, World.modifyStage]
  · exact pushed.known entry older

theorem new_promise (calm : Calm terms known sizes world) :
    Calm terms known sizes world.newPromise.2 := by
  unfold World.newPromise
  dsimp only
  refine calm.set_stage rfl (fun _ _ found => found) fun number promise plan found settled => ?_
  rw [Array.getElem?_push] at found
  split at found
  · cases found
    cases settled
  · exact ⟨promise, found, settled⟩

theorem await (calm : Calm terms known sizes world) (number : Nat) (context : ActionContext) :
    Calm terms known sizes (world.modifyStage fun stage =>
      { stage with promises := stage.promises.modify number fun promise =>
          { promise with waiting := promise.waiting ++ [context] } }) := by
  refine calm.set_stage rfl (fun _ _ found => found) fun other promise plan found settled => ?_
  rw [Array.getElem?_modify] at found
  split at found
  · obtain ⟨before, known, rfl⟩ := Option.map_eq_some_iff.mp found
    exact ⟨before, known, settled⟩
  · exact ⟨promise, found, settled⟩

theorem modify_cell (calm : Calm terms known sizes world) {number : Nat}
    {change : Signal.Cell Effect → Signal.Cell Effect}
    (kept : ∀ cell, world.cells[number]? = some cell → QuietCell terms.order number cell →
      QuietCell terms.order number (change cell)) :
    Calm terms known sizes (Signal.Store.modifyCell number change world) := by
  refine ⟨calm.sound, calm.limit, calm.known, fun other cell found => ?_, ?_, ?_, calm.promises⟩
  · simp only [Signal.Store.modifyCell, Array.getElem?_modify] at found
    split at found
    · rename_i same
      subst same
      obtain ⟨before, present, rfl⟩ := Option.map_eq_some_iff.mp found
      exact kept before present (calm.cells _ before present)
    · exact calm.cells other cell found
  · simpa [Signal.Store.modifyCell] using calm.based
  · simpa [Signal.Store.modifyCell] using calm.sized

theorem add_cell (calm : Calm terms known sizes world) {content : Value} {onDestroy : Option Plan}
    {larger : Nat → Prop} (fits : larger (world.cells.size + 1))
    (quiet : ∀ script, onDestroy = some script → Quiet terms.order world.cells.size script) :
    Calm terms known larger
      (Signal.Store.addCell (Signal.Cell.fresh content onDestroy) world).2 := by
  refine ⟨calm.sound, calm.limit, calm.known, fun other cell found => ?_, ?_, ?_, calm.promises⟩
  · simp only [Signal.Store.addCell, Array.getElem?_push] at found
    split at found
    · rename_i same
      subst same
      cases found
      exact ⟨fun _ member => (by cases member), fun _ member => (by cases member), quiet⟩
    · exact calm.cells other cell found
  · have := calm.based
    simp only [Signal.Store.addCell, Array.size_push]
    omega
  · simpa [Signal.Store.addCell] using fits

end Calm

end Execute
end Interplay
