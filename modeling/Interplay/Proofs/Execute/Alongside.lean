import Interplay.Proofs.Execute.Company

/-!
Runs alongside each other.

A run from a world without memos is followed by the same run from its twin: if the first one is done
and has added no fault, the second one is done as well, with an alike answer, and the worlds are
twins again.  Evaluations, signals and host code are followed; notifications are even mirrored,
since failures of subscribers are caught.
-/

namespace Interplay
namespace Execute

open Run

def Follows {α β : Type} (relation : World → World → Prop) (view : α → β → Prop) (run : Run World α)
    (other : Run World β) : Prop :=
  ∀ world counterpart, relation world counterpart → ∀ value after, run world = .done value after →
    World.Clean world after → ∃ answer later, other counterpart =
    .done answer later ∧ relation after later ∧
      view value answer

def Still {α : Type} (run : Run World α) : Prop :=
  ∀ world value after, run world = .done value after → World.Clean world after

section Stillness

variable {α β : Type}

theorem still_pure (value : α) : Still (pure value : Run World α) := by
  intro world found after ended
  cases ended
  exact fun _ => rfl

theorem still_of_except (outcome : Except Failure α) : Still (ofExcept outcome : Run World α) := by
  intro world value after ended
  cases outcome with
  | error failure => cases ended
  | ok found =>
      cases ended
      exact fun _ => rfl

theorem still_warn (message : String) : Still (warn message) := by
  intro world value after ended
  cases ended
  exact fun _ => rfl

theorem still_bind {run : Run World α} {next : α → Run World β} (first : Still run)
    (second : ∀ value, Still (next value)) : Still (run >>= next) := by
  intro world value last ended
  obtain ⟨inside, middle, started, finished⟩ := done_of_bind ended
  exact fun host => (second inside middle value last finished host).trans
    (first world inside middle started host)

theorem still_get : Still (get : Run World World) := by
  intro world value after ended
  cases ended
  exact fun _ => rfl

end Stillness

section Calculus

variable {α β γ δ : Type} {relation : World → World → Prop} {view : α → β → Prop}
    {following : γ → δ → Prop}

theorem follows_pure {value : α} {answer : β} (known : view value answer) :
    Follows relation view (pure value) (pure answer) := by
  intro world counterpart related found after ended _
  cases ended
  exact ⟨answer, counterpart, rfl, related, known⟩

theorem follows_raise (failure : Failure) (other : Run World β) :
    Follows relation view (raise failure : Run World α) other :=
  fun _ _ _ _ _ ended _ => by cases ended

theorem follows_exhaust (other : Run World β) :
    Follows relation view (exhaust : Run World α) other :=
  fun _ _ _ _ _ ended _ => by cases ended

theorem follows_of_mirrors {run : Run World α} {other : Run World β}
    (mirrors : Mirrors relation view run other) :
    Follows relation view run other := by
  intro world counterpart related value after ended _
  have mirrored := mirrors world counterpart related
  rw [ended] at mirrored
  cases answered : other counterpart with
  | done answer later =>
      rw [answered] at mirrored
      exact ⟨answer, later, rfl, mirrored⟩
  | raised failure later =>
      rw [answered] at mirrored
      exact mirrored.elim
  | exhausted =>
      rw [answered] at mirrored
      exact mirrored.elim

/-- Faults are never taken back, so both parts of a clean run are clean. -/
theorem follows_bind {run : Run World α} {other : Run World β} {next : α → Run World γ}
    {after : β → Run World δ}
    (accrues : Accrues run) (later : ∀ value, Accrues (next value))
    (first : Follows relation view run other)
    (continues : ∀ value answer, view value answer →
      Follows relation following (next value) (after answer)) :
    Follows relation following (run >>= next) (other >>= after) := by
  intro world counterpart related value last ended clean
  obtain ⟨inside, middle, started, finished⟩ := done_of_bind ended
  obtain ⟨early, late⟩ := clean_of_accrues accrues (later inside) (congrArg Result.state? started)
    (congrArg Result.state? finished) clean
  obtain ⟨answer, reached, answered, relatedThere, known⟩ :=
    first world counterpart related inside middle started early
  rw [bind_of_done answered]
  exact continues inside answer known middle reached relatedThere value last finished late

/-- After a part that adds no fault, the rest has to be clean. -/
theorem follows_still_bind {run : Run World α} {other : Run World β} {next : α → Run World γ}
    {after : β → Run World δ} (still : Still run) (first : Follows relation view run other)
    (continues : ∀ value answer, view value answer →
      Follows relation following (next value) (after answer)) :
    Follows relation following (run >>= next) (other >>= after) := by
  intro world counterpart related value last ended clean
  obtain ⟨inside, middle, started, finished⟩ := done_of_bind ended
  have early := still world inside middle started
  obtain ⟨answer, reached, answered, relatedThere, known⟩ :=
    first world counterpart related inside middle started early
  rw [bind_of_done answered]
  exact continues inside answer known middle reached relatedThere value last finished
    fun host => (clean host).trans (early host).symm

theorem follows_get_bind {next : World → Run World α} {after : World → Run World β}
    (continues : ∀ world counterpart, relation world counterpart →
      Follows relation view (next world) (after counterpart)) :
    Follows relation view (get >>= next) (get >>= after) :=
  fun world counterpart related => continues world counterpart related world counterpart related

theorem follows_of_except_bind {outcome : Except Failure α} {answer : Except Failure β}
    {next : α → Run World γ} {after : β → Run World δ}
    (continues : ∀ value, outcome = .ok value → ∃ reply, answer = .ok reply ∧
      Follows relation following (next value) (after reply)) :
    Follows relation following (ofExcept outcome >>= next) (ofExcept answer >>= after) := by
  cases outcome with
  | error failure => exact follows_raise failure _
  | ok value =>
      obtain ⟨reply, rfl, follows⟩ := continues value rfl
      exact follows

/-- The part that follows a state may depend on it where the state is known. -/
theorem follows_of_cases {run : Run World α} {other : Run World β}
    (cases : ∀ world counterpart, relation world counterpart → ∃ narrower : World → World → Prop,
      narrower world counterpart ∧
      (∀ state another, narrower state another → relation state another) ∧
        Follows narrower view run other) : Follows relation view run other := by
  intro world counterpart related value after ended clean
  obtain ⟨narrower, here, wider, follows⟩ := cases world counterpart related
  obtain ⟨answer, later, answered, there, known⟩ :=
    follows world counterpart here value after ended clean
  exact ⟨answer, later, answered, wider after later there, known⟩

theorem follows_if {test other : Prop} [Decidable test] [Decidable other] (same : test ↔ other)
    {run alternative : Run World α} {chosen otherwise : Run World β}
    (holds : Follows relation view run chosen)
    (fails : Follows relation view alternative otherwise) :
    Follows relation view (if test then run else alternative)
      (if other then chosen else otherwise) := by
  by_cases given : test
  · rw [if_pos given, if_pos (same.mp given)]
    exact holds
  · rw [if_neg given, if_neg (fun taken => given (same.mpr taken))]
    exact fails

/-- What is caught is followed if no failure can be caught in a clean run. -/
theorem follows_attempt_bind {run : Run World α} {other : Run World β}
    {next : Except Failure α → Run World γ}
    {after : Except Failure β → Run World δ} (accrues : Accrues run)
    (later : ∀ value, Accrues (next (.ok value))) (first : Follows relation view run other)
    (continues : ∀ value answer, view value answer →
      Follows relation following (next (.ok value)) (after (.ok answer)))
    (caught : ∀ world counterpart, relation world counterpart →
      ∀ failure middle, run world = .raised failure middle →
      ∀ value last, next (.error failure) middle = .done value last → ¬World.Clean world last) :
    Follows relation following (attempt run >>= next) (attempt other >>= after) := by
  intro world counterpart related value last ended clean
  obtain ⟨outcome, middle, attempted, finished⟩ := done_of_bind ended
  unfold attempt at attempted
  cases started : run world with
  | exhausted =>
      rw [started] at attempted
      cases attempted
  | raised failure reached =>
      rw [started] at attempted
      cases attempted
      exact absurd clean
        (caught world counterpart related failure middle started value last finished)
  | done inside reached =>
      rw [started] at attempted
      cases attempted
      obtain ⟨early, late⟩ :=
        clean_of_accrues accrues (later inside) (congrArg Result.state? started)
        (congrArg Result.state? finished) clean
      obtain ⟨answer, behind, answered, there, known⟩ :=
        first world counterpart related inside middle started early
      have passed : attempt other counterpart = .done (.ok answer) behind := by
        unfold attempt
        rw [answered]
      rw [bind_of_done passed]
      exact continues inside answer known middle behind there value last finished late

theorem follows_for_each_indexed {ε : Type} {step other : Nat → ε → Run World Unit} {items : List ε}
    (accrues : ∀ index item, Accrues (step index item))
    (follows : ∀ item ∈ items, ∀ index, Follows relation (fun _ _ => True)
      (step index item) (other index item))
    (index : Nat) :
    Follows relation (fun _ _ => True) (forEachIndexed step index items)
      (forEachIndexed other index items) := by
  induction items generalizing index with
  | nil => exact follows_pure trivial
  | cons item rest ih =>
      rw [List.forall_mem_cons] at follows
      refine follows_bind (accrues index item) (fun _ size least => ?_) (follows.1 index)
        fun _ _ _ => ih follows.2 _
      exact tracks_for_each_indexed (fun later _ place => accrues place later size least) _

end Calculus

/-- Machines that differ in trails, logs and closures only. -/
structure Untouched (before after : Machine) : Prop where
  limits : after.limits = before.limits
  cycles : after.cycleStacks = before.cycleStacks
  hosts : after.hosts.size = before.hosts.size
  books : ∀ host, (before.host host).SameBooks (after.host host)
  clock : after.journal.clock = before.journal.clock
  notes : after.journal.notes = before.journal.notes
  trace : after.journal.trace = before.journal.trace

theorem Untouched.faults {before after : Machine}
    (untouched : Untouched before after) (host : Nat) :
    after.faults host = before.faults host := by
  unfold Machine.faults
  rw [(untouched.books host).sink]

theorem untouched_trail (number : Nat) (change : Trail → Trail) (machine : Machine) :
    Untouched machine
      (machine.modifyHost number fun state => { state with trail := change state.trail }) := by
  refine ⟨rfl, rfl, by simp [Machine.modifyHost], fun host => ?_, rfl, rfl, rfl⟩
  rcases Machine.host_modify_host_cases number host machine fun state =>
      { state with trail := change state.trail } with same | ⟨_, changed⟩
  · rw [same]
    exact ⟨rfl, rfl, rfl⟩
  · rw [changed]
    exact ⟨rfl, rfl, rfl⟩

theorem untouched_log (level : LogLevel) (source : LogSource)
    (message : String) (machine : Machine) :
    Untouched machine (machine.log level source message) :=
  ⟨rfl, rfl, rfl, fun _ => ⟨rfl, rfl, rfl⟩, rfl, rfl, rfl⟩

section Changes

variable {company : Company} {exempt : Nat → Prop} {world counterpart : World}

theorem MachineTwin.now {size : Nat} {machine other : Machine}
    (twin : MachineTwin size machine other) :
    other.now = machine.now := by
  unfold Machine.now Journal.now
  rw [twin.journal.clock]

theorem MachineTwin.has_metrics {size : Nat} {machine other : Machine}
    (twin : MachineTwin size machine other)
    (host : Nat) : other.hasMetrics host = machine.hasMetrics host := by
  have taken := congrArg Option.isSome (twin.timings host)
  unfold HostState.timings at taken
  rw [Option.isSome_map, Option.isSome_map] at taken
  exact taken

theorem MachineTwin.untouched {size : Nat} {machine other after later : Machine}
    (twin : MachineTwin size machine other)
    (left : Untouched machine after) (right : Untouched other later) :
    MachineTwin size after later where
  limits := by rw [right.limits, twin.limits, left.limits]
  cycles := by rw [right.cycles, twin.cycles, left.cycles]
  hosts := left.hosts.trans twin.hosts
  otherHosts := right.hosts.trans twin.otherHosts
  timings host := by
    have same := twin.timings host
    unfold HostState.timings at same ⊢
    rw [(right.books host).metrics, same, (left.books host).metrics]
  faults host := by rw [right.faults, twin.faults, left.faults]
  bare host := (left.books host).memo.trans (twin.bare host)
  journal := by
    obtain ⟨clock, trace, notes⟩ := twin.journal
    exact ⟨by rw [right.clock, clock, left.clock], by rw [left.trace, right.trace]; exact trace,
      by rw [left.notes, right.notes]; exact notes⟩

theorem StageTwin.set_machine {stage other : Stage} (twin : StageTwin company stage other)
    (machine another : Machine) :
    StageTwin company { stage with machine := machine } { other with machine := another } :=
  ⟨twin.workflows, twin.hasLoop, twin.scopes, twin.provided, twin.continuations,
    twin.resumed, twin.promises, twin.unsettled, twin.otherUnsettled⟩

theorem Twin.weaken {wider : Nat → Prop} (twin : Twin company exempt world counterpart)
    (implied : ∀ host, exempt host → wider host) : Twin company wider world counterpart :=
  ⟨twin.sizes, twin.cells, twin.machine, twin.stage, fun host present kept =>
    twin.memos host present fun exempted => kept (implied host exempted)⟩

theorem Twin.set_machine {machine another : Machine} (twin : Twin company exempt world counterpart)
    (machines : MachineTwin company.size machine another)
    (memos : ∀ host, host < company.size → ¬exempt host →
      ∀ memo, (another.host host).memo = some memo →
      company.Backs host (counterpart.cell (company.setting.instances host).signal).content memo) :
    Twin company exempt (world.setMachine machine) (counterpart.setMachine another) :=
  ⟨twin.sizes, twin.cells, machines, twin.stage.set_machine machine another, memos⟩

theorem Twin.keep_memos {machine another : Machine} (twin : Twin company exempt world counterpart)
    (machines : MachineTwin company.size machine another)
    (same : ∀ host, (another.host host).memo = (counterpart.machine.host host).memo) :
    Twin company exempt (world.setMachine machine) (counterpart.setMachine another) := by
  refine twin.set_machine machines fun host present kept memo held => ?_
  rw [same] at held
  exact twin.memos host present kept memo held

theorem Twin.untouched {machine another : Machine} (twin : Twin company exempt world counterpart)
    (left : Untouched world.machine machine) (right : Untouched counterpart.machine another) :
    Twin company exempt (world.setMachine machine) (counterpart.setMachine another) :=
  twin.keep_memos (twin.machine.untouched left right) fun host => (right.books host).memo

theorem Twin.log (twin : Twin company exempt world counterpart) (level other : LogLevel)
    (source another : LogSource) (message text : String) :
    Twin company exempt (world.modifyMachine (Machine.log level source message))
      (counterpart.modifyMachine (Machine.log other another text)) :=
  twin.untouched (untouched_log level source message _) (untouched_log other another text _)

theorem Twin.trail (twin : Twin company exempt world counterpart) (number : Nat)
    (change : Trail → Trail) :
    Twin company exempt
      (world.modifyMachine
        (Machine.modifyHost number fun state => { state with trail := change state.trail }))
      (counterpart.modifyMachine
        (Machine.modifyHost number fun state => { state with trail := change state.trail })) :=
  twin.untouched (untouched_trail number change _) (untouched_trail number change _)

theorem Twin.journal {journal another : Journal} (twin : Twin company exempt world counterpart)
    (alike : journal.Alike another) :
    Twin company exempt (world.modifyMachine fun machine => { machine with journal := journal })
      (counterpart.modifyMachine fun machine => { machine with journal := another }) := by
  have machine := twin.machine
  exact twin.keep_memos
    ⟨machine.limits, machine.cycles, machine.hosts, machine.otherHosts, machine.timings,
    machine.faults, machine.bare, alike⟩ fun _ => rfl

theorem Twin.new_stack (twin : Twin company exempt world counterpart) :
    Twin company exempt (world.setMachine world.machine.newStack.2)
      (counterpart.setMachine counterpart.machine.newStack.2) := by
  have machine := twin.machine
  refine twin.keep_memos
    ⟨machine.limits, ?_, machine.hosts, machine.otherHosts, machine.timings, machine.faults,
    machine.bare, machine.journal⟩ fun _ => rfl
  change counterpart.machine.cycleStacks.push _ = world.machine.cycleStacks.push _
  rw [machine.cycles]

theorem Twin.modify_stage {change another : Stage → Stage}
    (twin : Twin company exempt world counterpart)
    (machine : (change world.host).machine = world.host.machine)
    (otherMachine : (another counterpart.host).machine = counterpart.host.machine)
    (stages : StageTwin company (change world.host) (another counterpart.host)) :
    Twin company exempt (world.modifyStage change) (counterpart.modifyStage another) := by
  refine ⟨twin.sizes, twin.cells, ?_, stages, ?_⟩
  · change MachineTwin company.size (change world.host).machine (another counterpart.host).machine
    rw [machine, otherMachine]
    exact twin.machine
  · intro host present kept memo held
    change ((another counterpart.host).machine.host host).memo = some memo at held
    rw [otherMachine] at held
    exact twin.memos host present kept memo held

theorem Twin.new_continuation {continuation other : Continuation}
    (twin : Twin company exempt world counterpart) (twins : continuation.Twin company other) :
    Twin company exempt (world.newContinuation continuation).2
      (counterpart.newContinuation other).2 := by
  have stage : StageTwin company world.host counterpart.host := twin.stage
  change Twin company exempt
    (world.modifyStage fun stage =>
      { stage with continuations := stage.continuations.push continuation })
    (counterpart.modifyStage fun stage =>
      { stage with continuations := stage.continuations.push other })
  refine twin.modify_stage rfl rfl
    ⟨stage.workflows, stage.hasLoop, stage.scopes, stage.provided, ?_, ?_,
    stage.promises, stage.unsettled, stage.otherUnsettled⟩
  · simp [stage.continuations]
  · intro number found present
    have sizes := stage.continuations
    simp only [Array.getElem?_push] at present ⊢
    split at present
    · rename_i last
      cases present
      exact ⟨other, if_pos (last.trans sizes.symm), twins⟩
    · rename_i earlier
      rw [if_neg (by omega)]
      exact stage.resumed number found present

theorem Twin.new_promise (twin : Twin company exempt world counterpart) :
    Twin company exempt world.newPromise.2 counterpart.newPromise.2 := by
  have stage : StageTwin company world.host counterpart.host := twin.stage
  have fresh : ∀ promises : Array Promise,
      (∀ number : Nat, ∀ promise, promises[number]? = some promise → promise.settlement = none) →
      ∀ number : Nat, ∀ promise, (promises.push { waiting := [], settlement := none })[number]? =
      some promise →
        promise.settlement = none := by
    intro promises pending number promise present
    rw [Array.getElem?_push] at present
    split at present
    · cases present
      rfl
    · exact pending number promise present
  change Twin company exempt
    (world.modifyStage fun stage =>
      { stage with promises := stage.promises.push { waiting := [], settlement := none } })
    (counterpart.modifyStage fun stage =>
      { stage with promises := stage.promises.push { waiting := [], settlement := none } })
  refine twin.modify_stage rfl rfl
    ⟨stage.workflows, stage.hasLoop, stage.scopes, stage.provided, stage.continuations,
    stage.resumed, ?_, fresh _ stage.unsettled, fresh _ stage.otherUnsettled⟩
  simp [stage.promises]

theorem Twin.await (twin : Twin company exempt world counterpart) (number : Nat)
    (context other : ActionContext) :
    Twin company exempt
      (world.modifyStage fun stage =>
        { stage with promises := stage.promises.modify number fun promise =>
        { promise with waiting := promise.waiting ++ [context] } })
      (counterpart.modifyStage fun stage =>
        { stage with promises := stage.promises.modify number fun promise =>
        { promise with waiting := promise.waiting ++ [other] } }) := by
  have stage : StageTwin company world.host counterpart.host := twin.stage
  have waiting : ∀ (promises : Array Promise) (context : ActionContext),
      (∀ number : Nat, ∀ promise, promises[number]? = some promise → promise.settlement = none) →
      ∀ place : Nat, ∀ promise, (promises.modify number fun promise =>
        { promise with waiting := promise.waiting ++ [context] })[place]? = some promise →
          promise.settlement = none := by
    intro promises context pending place promise present
    rw [Array.getElem?_modify] at present
    split at present
    · obtain ⟨before, found, rfl⟩ := Option.map_eq_some_iff.mp present
      exact pending place before found
    · exact pending place promise present
  refine twin.modify_stage rfl rfl
    ⟨stage.workflows, stage.hasLoop, stage.scopes, stage.provided, stage.continuations,
    stage.resumed, ?_, waiting _ _ stage.unsettled, waiting _ _ stage.otherUnsettled⟩
  simp [stage.promises]

theorem Twin.enqueue (twin : Twin company exempt world counterpart) (job other : Job) :
    Twin company exempt (world.enqueue job) (counterpart.enqueue other) :=
  have stage : StageTwin company world.host counterpart.host := twin.stage
  twin.modify_stage rfl rfl
    ⟨stage.workflows, stage.hasLoop, stage.scopes, stage.provided, stage.continuations,
    stage.resumed, stage.promises, stage.unsettled, stage.otherUnsettled⟩

theorem Twin.modify_workflows (twin : Twin company exempt world counterpart) (number : Nat)
    (change : Cycle.Workflow String → Cycle.Workflow String) :
    Twin company exempt (world.modifyWorkflows number change)
      (counterpart.modifyWorkflows number change) := by
  have stage : StageTwin company world.host counterpart.host := twin.stage
  refine twin.modify_stage rfl rfl
    ⟨?_, stage.hasLoop, stage.scopes, stage.provided, stage.continuations,
    stage.resumed, stage.promises, stage.unsettled, stage.otherUnsettled⟩
  change counterpart.host.workflows.modify number change = world.host.workflows.modify number change
  rw [stage.workflows]

/-- Cells may change as long as they stay twins and hold what they held, unless they hold the data
of an exempt instance. -/
theorem Twin.modify_cell {signal : Nat} {change another : Signal.Cell Effect → Signal.Cell Effect}
    (twin : Twin company exempt world counterpart)
    (twins : CellTwin company (change (world.cell signal)) (another (counterpart.cell signal)))
    (kept : ∀ host, host < company.size → ¬exempt host →
      (company.setting.instances host).signal = signal →
      (another (counterpart.cell signal)).content = (counterpart.cell signal).content) :
    Twin company exempt (world.modifyCell signal change)
      (counterpart.modifyCell signal another) := by
  refine ⟨?_, fun number => ?_, twin.machine, twin.stage, fun host present exempted memo held => ?_⟩
  · simp [Signal.Store.modifyCell, twin.sizes]
  · rw [Signal.Store.cell_modify_cell, Signal.Store.cell_modify_cell, twin.sizes]
    split
    · rename_i place
      rw [← place.1]
      exact twins
    · exact twin.cells number
  · have before := twin.memos host present exempted memo held
    rw [Signal.Store.cell_modify_cell]
    split
    · rename_i place
      rw [← place.1, kept host present exempted place.1.symm]
      rw [← place.1] at before
      exact before
    · exact before

end Changes

def TwinOver (company : Company) (host : Nat) (content : Value) (world counterpart : World) :
    Prop :=
  Twins company world counterpart ∧
    (counterpart.cell (company.setting.instances host).signal).content = content

/-- Contexts of formulas over the data roots of twins. -/
structure Poised (company : Company) (host : Nat) (content : Value) (inner other : Context) :
    Prop where
  present : host < company.size
  rooted : ∃ data overlay event,
    Evaluate.Abreast (company.formulas host data.withoutArguments)
      company.setting.environment host data inner other ∧
      data.IsDefinite ∧ company.Overlays host overlay ∧
      rootOver overlay event content = .ok other.data

section Evaluations

variable {company : Company} {host : Nat} {content : Value} {inner other : Context}

theorem done_of_on_machine {α : Type} {body : Run Machine α} {world after : World} {value : α}
    (ended : onMachine body world = .done value after) :
    ∃ last, body world.machine = .done value last ∧ after = world.setMachine last := by
  unfold onMachine zoom at ended
  cases started : body world.machine with
  | done inside last =>
      rw [started] at ended
      cases ended
      exact ⟨last, rfl, rfl⟩
  | raised failure last =>
      rw [started] at ended
      cases ended
  | exhausted =>
      rw [started] at ended
      cases ended

theorem on_machine_of_done {α : Type} {body : Run Machine α} {world : World}
    {value : α} {last : Machine}
    (ended : body world.machine = .done value last) : onMachine body world = .done value
    (world.setMachine last) := by
  unfold onMachine zoom
  rw [ended]
  rfl

/-- What is evaluated for an instance, once and beside it, leaves the machines twins. -/
theorem MachineTwin.evaluated {size : Nat} {setting : Evaluate.Setting}
    {machine another last later : Machine}
    (twin : MachineTwin size machine another) (beside : Evaluate.Beside setting host last later)
    (left : Evaluate.Aside host machine last) (right : Evaluate.Aside host another later) :
    MachineTwin size last later where
  limits := beside.limits
  cycles := beside.cycles
  hosts := left.hosts.trans twin.hosts
  otherHosts := right.hosts.trans twin.otherHosts
  timings number := by
    by_cases own : number = host
    · rw [own]
      exact congrArg Imprint.timings beside.imprint
    · have same := twin.timings number
      unfold HostState.timings at same ⊢
      rw [(right.others number own).metrics, (left.others number own).metrics]
      exact same
  faults number := by
    by_cases own : number = host
    · rw [own]
      exact beside.faults
    · have same := twin.faults number
      unfold Machine.faults at same ⊢
      rw [(right.others number own).sink, (left.others number own).sink]
      exact same
  bare number := by
    by_cases own : number = host
    · rw [own]
      exact beside.bare
    · exact (left.others number own).memo.trans (twin.bare number)
  journal := by
    obtain ⟨clock, trace, notes⟩ := twin.journal
    refine ⟨?_, ?_, ?_⟩
    · rw [right.clock, left.clock, clock]
    · rw [left.trace, right.trace]
      exact trace
    · rw [left.notes, right.notes]
      exact notes

/-- Measuring for an instance leaves the machines twins if it leaves the same timings. -/
theorem MachineTwin.measured {size : Nat} {machine another last later : Machine}
    (twin : MachineTwin size machine another) (left : Evaluate.Aside host machine last)
    (right : Evaluate.Aside host another later) (stores : Evaluate.SameStores host machine last)
    (otherStores : Evaluate.SameStores host another later)
    (timings : (later.host host).timings = (last.host host).timings) :
    MachineTwin size last later where
  limits := by rw [right.limits, twin.limits, left.limits]
  cycles := by rw [right.cycles, twin.cycles, left.cycles]
  hosts := left.hosts.trans twin.hosts
  otherHosts := right.hosts.trans twin.otherHosts
  timings number := by
    by_cases own : number = host
    · rw [own]
      exact timings
    · have same := twin.timings number
      unfold HostState.timings at same ⊢
      rw [(right.others number own).metrics, (left.others number own).metrics]
      exact same
  faults number := by
    have same := twin.faults number
    unfold Machine.faults at same ⊢
    by_cases own : number = host
    · rw [own] at same ⊢
      rw [otherStores.1, stores.1]
      exact same
    · rw [(right.others number own).sink, (left.others number own).sink]
      exact same
  bare number := by
    by_cases own : number = host
    · rw [own, stores.2, twin.bare]
    · exact (left.others number own).memo.trans (twin.bare number)
  journal := by
    obtain ⟨clock, trace, notes⟩ := twin.journal
    refine ⟨?_, ?_, ?_⟩
    · rw [right.clock, left.clock, clock]
    · rw [left.trace, right.trace]
      exact trace
    · rw [left.notes, right.notes]
      exact notes

theorem Twin.measured {exempt : Nat → Prop} {world counterpart : World} {last later : Machine}
    (twin : Twin company exempt world counterpart) (left : Evaluate.Aside host world.machine last)
    (right : Evaluate.Aside host counterpart.machine later)
    (stores : Evaluate.SameStores host world.machine last)
    (otherStores : Evaluate.SameStores host counterpart.machine later)
    (timings : (later.host host).timings = (last.host host).timings) :
    Twin company exempt (world.setMachine last) (counterpart.setMachine later) := by
  refine twin.keep_memos (twin.machine.measured left right stores otherStores timings)
    fun number => ?_
  by_cases own : number = host
  · rw [own]
    exact otherStores.2
  · exact (right.others number own).memo

theorem accrues_evaluate_in (setting : Setting) (context : Context) (formula : Option Formula) :
    Accrues (evaluateIn setting context formula) :=
  fun _ _ => (above_backing setting).evaluates context formula trivial

theorem follows_evaluate_in (orderly : company.IsOrderly)
    (poised : Poised company host content inner other)
    {formula : Option Formula} (ordinary : Ordinary formula) :
    Follows (TwinOver company host content) Value.Alike (evaluateIn company.setting inner formula)
      (evaluateIn company.setting other formula) := by
  rintro world counterpart ⟨twin, held⟩ value after ended clean
  obtain ⟨last, evaluated, rfl⟩ := done_of_on_machine ended
  obtain ⟨data, overlay, event, abreast, definite, overlays, rooted⟩ := poised.rooted
  have machine := twin.machine
  have lawful := orderly.plain host poised.present data.withoutArguments
  have quiet := orderly.quiet host poised.present data.withoutArguments
  have beside : Evaluate.Beside (company.formulas host data.withoutArguments) host world.machine
      counterpart.machine := by
    refine ⟨?_, machine.faults host, machine.bare host, ?_, ?_⟩
    · unfold Machine.imprint
      rw [machine.limits, machine.cycles, machine.journal.clock, machine.otherHosts, machine.hosts,
        machine.timings]
    · rw [machine.otherHosts]
      exact poised.present
    · intro memo present
      refine twin.memos host poised.present not_false memo present overlay event
        other.data data overlays ?_ abreast.otherWithin.known
      rw [held]
      exact rooted
  obtain ⟨answer, later, said, answered, besideLater, left, right, known, otherKnown, meant⟩ :=
    Evaluate.evaluate_abreast lawful quiet abreast
      (fun present found => (ordinary present found).1) beside evaluated (clean host)
  have defined : said.IsDefinite := by
    cases formula with
    | none =>
        cases meant
        exact .atom nofun
    | some formula =>
        exact Evaluate.definite_of_means (orderly.definite host poised.present _)
          (Evaluate.meaning_eq_some.mp meant) definite (ordinary formula rfl).2
  refine ⟨answer, counterpart.setMachine later, on_machine_of_done answered, ⟨?_, held⟩,
    said, known, otherKnown, defined⟩
  refine twin.set_machine (machine.evaluated besideLater left right)
    fun number present kept memo stored => ?_
  by_cases own : number = host
  · subst own
    -- the result is backed over the root of this context, and so over every root of the instance
    obtain ⟨base, _, baseKnown, _⟩ := (twin.cells (company.setting.instances number).signal).content
    rw [held] at baseKnown ⊢
    exact orderly.backs present baseKnown overlays rooted abreast.otherWithin.known
      (besideLater.sound.backs memo stored)
  · rw [(right.others number own).memo] at stored
    exact twin.memos number present kept memo stored

variable {context counterpart : ActionContext} {event another : Value}

/-- Twins make contexts over alike data roots. -/
theorem follows_formula_context (contexts : context.Twin company counterpart)
    (events : event.Alike another) :
    Follows (TwinOver company context.host content) (Poised company context.host content)
      (formulaContext company.setting context event)
      (formulaContext company.setting counterpart another) := by
  refine follows_get_bind fun world beside related => follows_of_except_bind fun data made => ?_
  obtain ⟨twin, held⟩ := related
  rw [data_root_eq] at made
  obtain ⟨root, otherMade, said, known, otherKnown, definite⟩ :=
    root_alike contexts.overlay events
      (twin.cells (company.setting.instances context.host).signal).content made
  refine ⟨root, ?_, ?_⟩
  · rw [data_root_eq, contexts.host]
    exact otherMade
  · rintro state reached ⟨twinThere, heldThere⟩ value after ended _
    cases ended
    refine ⟨_, _, rfl, ⟨twinThere.new_stack, heldThere⟩, contexts.present, said,
      counterpart.overlay, another, ?_, definite, contexts.own, ?_⟩
    · refine ⟨rfl, ⟨contexts.host, contexts.stackHost, ?_⟩, ⟨rfl, rfl, rfl, known, rfl⟩, ?_⟩
      · exact congrArg Array.size twinThere.machine.cycles
      · refine ⟨?_, ?_, ?_, otherKnown, rfl⟩
        · change (company.setting.environment counterpart.host).formulas = _
          rw [contexts.host]
          rfl
        · change (company.setting.environment counterpart.host).component = _
          rw [contexts.host]
          rfl
        · change (company.setting.instances counterpart.host).package = _
          rw [contexts.host]
          rfl
    · rw [← held]
      exact otherMade

theorem still_formula_context (setting : Setting) (context : ActionContext) (event : Value) :
    Still (formulaContext setting context event) := by
  refine still_bind still_get fun world => still_bind (still_of_except _) fun data => ?_
  intro world value after ended
  cases ended
  exact fun _ => rfl

/-- Runs that look at the data of an instance first. -/
theorem follows_of_over {α β : Type} {view : α → β → Prop} {run : Run World α}
    {other : Run World β} (host : Nat)
    (follows : ∀ content, Follows (TwinOver company host content) view run other) :
    Follows (Twins company) view run other :=
  follows_of_cases fun _ counterpart twin =>
    ⟨TwinOver company host (counterpart.cell (company.setting.instances host).signal).content,
      ⟨twin, rfl⟩,
      fun _ _ twins => twins.1, follows _⟩

theorem follows_evaluate_for {powers : Powers} (silent : powers.toMeans = .silent company.setting)
    (orderly : company.IsOrderly) (contexts : context.Twin company counterpart)
    (events : event.Alike another) {formula : Option Formula} (ordinary : Ordinary formula) :
    Follows (Twins company) Value.Alike (evaluateFor company.setting powers context event formula)
      (evaluateFor company.setting powers counterpart another formula) := by
  obtain ⟨means, runners⟩ := powers
  obtain rfl : means = .silent company.setting := silent
  exact follows_of_over context.host fun _ =>
    follows_still_bind (still_formula_context _ _ _)
      (follows_formula_context contexts events) fun _ _ poised =>
      follows_evaluate_in orderly poised ordinary

theorem accrues_collect_values {step : Option Formula → Run World Value}
    (accrues : ∀ formula, Accrues (step formula))
    (named : List NamedFormula) (entries : Entries) : Accrues
    (collectValues step named entries) := by
  intro size least
  induction named generalizing entries with
  | nil => exact tracks_pure entries
  | cons item rest ih =>
      unfold collectValues
      split
      · exact ih entries
      · exact tracks_bind (accrues item.formula size least) fun content => ih _

theorem follows_collect_values (orderly : company.IsOrderly)
    (poised : Poised company host content inner other)
    {named : List NamedFormula} (ordinary : ∀ item ∈ named, Ordinary item.formula)
    {entries others : Entries} (alike : entries.Alike others) :
    Follows (TwinOver company host content) Entries.Alike
      (collectValues (evaluateIn company.setting inner) named entries)
      (collectValues (evaluateIn company.setting other) named others) := by
  induction named generalizing entries others with
  | nil => exact follows_pure alike
  | cons item rest ih =>
      rw [List.forall_mem_cons] at ordinary
      unfold collectValues
      split
      · exact ih ordinary.2 alike
      · refine follows_bind (accrues_evaluate_in _ _ _)
          (fun _ => accrues_collect_values (accrues_evaluate_in _ _) _ _)
          (follows_evaluate_in orderly poised ordinary.1) fun value answer values => ?_
        exact ih ordinary.2 (alike.insert item.name values)

theorem follows_named_values {powers : Powers} (silent : powers.toMeans = .silent company.setting)
    (orderly : company.IsOrderly) (contexts : context.Twin company counterpart)
    (events : event.Alike another)
    {named : List NamedFormula} (ordinary : ∀ item ∈ named, Ordinary item.formula) :
    Follows (Twins company) Entries.Alike (namedValues company.setting powers context event named)
      (namedValues company.setting powers counterpart another named) := by
  obtain ⟨means, runners⟩ := powers
  obtain rfl : means = .silent company.setting := silent
  exact follows_of_over context.host fun _ =>
    follows_still_bind (still_formula_context _ _ _)
      (follows_formula_context contexts events) fun _ _ poised =>
      follows_collect_values orderly poised ordinary Entries.alike_nil

theorem follows_select_case (orderly : company.IsOrderly)
    (poised : Poised company host content inner other)
    {cases : List ActionCase} {fallback : Option (List Action)} {property : List Action → Prop}
    (ordinary : ∀ branch ∈ cases, Ordinary branch.condition ∧ property branch.actions)
    (last : ∀ actions, fallback = some actions → property actions) :
    Follows (TwinOver company host content)
      (fun selected chosen => chosen = selected ∧ ∀ actions, selected = some actions →
        property actions)
      (selectCase (evaluateIn company.setting inner) fallback cases)
      (selectCase (evaluateIn company.setting other) fallback cases) := by
  induction cases with
  | nil => exact follows_pure ⟨rfl, last⟩
  | cons branch rest ih =>
      rw [List.forall_mem_cons] at ordinary
      refine follows_bind (accrues_evaluate_in _ _ _) (fun value size least => ?_)
        (follows_evaluate_in orderly poised ordinary.1.1) fun value answer values => ?_
      · split
        · exact tracks_pure _
        · exact tracks_select_case (above_backing company.setting) trivial fallback rest
      · rw [values.is_true]
        split
        · refine follows_pure ⟨rfl, fun actions same => ?_⟩
          cases same
          exact ordinary.1.2
        · exact ih ordinary.2

end Evaluations

end Execute
end Interplay
