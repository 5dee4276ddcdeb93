import Interplay.Execute.Executor
import Interplay.Proofs.Signal.Deduplication

/-!
What registered cleanups change about variables.

A registered cleanup is a subscriber that only looks on, so from then on the signal of its instance
compares before it stores.  What a variable is set to does not depend on who is subscribed; whether
it is stored does, where it equals what is there.
-/

namespace Interplay
namespace Execute

open Run Signal

/-- What a signal keeps that compares, beside what one stores that does not, when both held the same
before. -/
structure KeptFrom (before kept stored : Value) : Prop where
  equal : Kept kept stored
  exact : (before.same stored = true → before = stored) → kept = stored

/-- Outcomes that differ in the contents of one signal at most as related, and not at all where the
run fails. -/
inductive StoreAlike (signal : Nat) (related : Value → Value → Prop) : Result World Unit →
    Result World Unit → Prop
  | done {kept stored : World}
      (contents : related (kept.cell signal).content (stored.cell signal).content) :
      StoreAlike signal related (.done () kept) (.done () stored)
  | raised {failure : Failure} {kept stored : World}
      (contents : (kept.cell signal).content = (stored.cell signal).content) :
      StoreAlike signal related (.raised failure kept) (.raised failure stored)
  | exhausted : StoreAlike signal related .exhausted .exhausted

section Evaluation

variable {setting : Setting} {fuel : Nat} {context : ActionContext} {first second : World}

theorem data_root_of_content (event : Value)
    (content : (first.cell (setting.instances context.host).signal).content =
      (second.cell (setting.instances context.host).signal).content) :
    dataRoot setting context event first = dataRoot setting context event second := by
  unfold dataRoot
  rw [content]

/-- Evaluation in a data root that there is changes the machine alone. -/
theorem evaluate_for_of_root {event data : Value} (formula : Option Formula) {world : World}
    (root : dataRoot setting context event world = .ok data) :
    evaluateFor setting (powers setting fuel) context event formula world =
      (Evaluate.evaluate setting.environment setting.formulaFuel formula
        { host := context.host, trailHost := context.stackHost,
          stack := world.machine.newStack.1, data := data,
          package := (setting.instances context.host).package } (.int 0)
        world.machine.newStack.2).mapState (World.setMachine · world) := by
  have made : formulaContext setting context event world =
      Run.bind (Run.ofExcept (dataRoot setting context event world))
        (fun data => onMachine fun machine =>
        .done { host := context.host, trailHost := context.stackHost,
                stack := machine.newStack.1, data := data,
                package := (setting.instances context.host).package } machine.newStack.2) world :=
                  rfl
  rw [root] at made
  exact bind_of_done made

/-- Formulas see the content of their instance's signal and the machine, and change the machine
alone. -/
theorem evaluate_for_of_content (event : Value) (formula : Option Formula)
    (machine : first.machine = second.machine)
    (content : (first.cell (setting.instances context.host).signal).content =
      (second.cell (setting.instances context.host).signal).content) :
    ∃ result : Result Machine Value,
      evaluateFor setting (powers setting fuel) context event formula first = result.mapState
        (World.setMachine · first) ∧
      evaluateFor setting (powers setting fuel) context event formula second = result.mapState
        (World.setMachine · second) := by
  have root := data_root_of_content event content
  cases found : dataRoot setting context event second with
  | error failure =>
      have failed : ∀ world : World, dataRoot setting context event world = .error failure →
          evaluateFor setting (powers setting fuel) context event formula world =
          .raised failure world := by
        intro world missing
        change Run.bind (Run.bind (Run.ofExcept (dataRoot setting context event world)) _) _ world =
          _
        rw [missing]
        rfl
      refine ⟨.raised failure second.machine, ?_, failed second found⟩
      rw [failed first (root.trans found), ← machine]
      rfl
  | ok data =>
      refine ⟨_, ?_, evaluate_for_of_root formula found⟩
      rw [evaluate_for_of_root formula (root.trans found), machine]

end Evaluation

section Storing

variable {setting : Setting} {power : Powers} {context : ActionContext} {world : World}

theorem set_variable_of_failure {event content : Value} {data : Option Formula}
    {name : String} {machine : Machine} {failure : Failure}
    (evaluated : evaluateFor setting power context event data world = .done content
      (world.setMachine machine))
    (assigned : assign name content (world.cell (setting.instances context.host).signal).content =
      .error failure) :
    setVariable setting power context event name data world = .raised failure
      (world.setMachine machine) := by
  refine (bind_of_done evaluated).trans ?_
  change Run.bind (Run.ofExcept (assign name content (world.cell _).content)) _
    (world.setMachine machine) = _
  rw [assigned]
  rfl

/-- A variable is set to what its formula gives, and stored as its signal stores. -/
theorem set_variable_of_changed {event content : Value} {data : Option Formula}
    {name : String} {machine : Machine}
    {changed : Value}
    (attended : world.IsAttended power.call (setting.instances context.host).signal)
    (evaluated : evaluateFor setting power context event data world = .done content
      (world.setMachine machine))
    (assigned : assign name content (world.cell (setting.instances context.host).signal).content =
      .ok changed) :
    ∃ last, setVariable setting power context event name data world = .done () last ∧
      (last.cell (setting.instances context.host).signal).content =
        (world.cell (setting.instances context.host).signal).storing changed := by
  have moved : Store.IsAttended power.call (setting.instances context.host).signal
      (world.setMachine machine) :=
    ⟨attended.present, attended.alive, attended.passive⟩
  obtain ⟨after, wrote, _, stored⟩ := write_leaves_storing moved changed
  let forget : World → World := World.modifyMachine (Machine.modifyHost context.host fun state =>
    { state with memo := state.memo.map fun _ => Memo.empty })
  refine ⟨forget after, (bind_of_done evaluated).trans ?_, stored⟩
  change Run.bind (Run.ofExcept (assign name content (world.cell _).content)) _
    (world.setMachine machine) = _
  rw [assigned]
  exact bind_of_done wrote

/-- A live signal takes a cleanup as a subscriber that only looks on; nothing else changes. -/
theorem on_destroy_of_attended {fuel : Nat}
    (attended : world.IsAttended (powers setting (fuel + 1)).call (setting.instances context.host).signal)
    (cleanup : Plan) :
    ∃ registered, onDestroy setting (powers setting (fuel + 1)) context cleanup world = .done () registered ∧
      registered.IsAttended (powers setting (fuel + 1)).call (setting.instances context.host).signal ∧
      registered.machine = world.machine ∧
      (registered.cell (setting.instances context.host).signal).content =
        (world.cell (setting.instances context.host).signal).content ∧
      (registered.cell (setting.instances context.host).signal).subscribers ≠ [] := by
  let signal := (setting.instances context.host).signal
  let call := (powers setting (fuel + 1)).call
  let joined : World :=
    { world.modifyCell signal (fun cell => { cell with
        subscribers := cell.subscribers ++
          [{ number := world.nextSubscription, reaction := .call fun _ => .done, release := .call cleanup }] }) with
      nextSubscription := world.nextSubscription + 1 }
  have attached : attach call signal (.call fun _ => .done) (.call cleanup) world =
      .done world.nextSubscription joined := rfl
  have passive : ∀ content, Leaves (react call content (.call fun _ => .done)) :=
    fun content => leaves_bind (leaves_pure _) fun _ => leaves_pure ()
  obtain ⟨number, last, found, stays, same, crowd⟩ := attach_of_attended attended passive (.call cleanup)
  obtain ⟨_, rfl⟩ := Result.done.inj (attached.symm.trans found)
  refine ⟨joined, ?_, stays, rfl, same, crowd⟩
  change (if (world.cell signal).isDestroyed then _ else _ : Run World Unit) world = _
  rw [show (world.cell signal).isDestroyed = false from attended.alive, if_neg Bool.false_ne_true]
  exact bind_of_done attached

/-- Storing without comparing differs from storing with it at most where equal contents are kept. -/
theorem kept_from_storing {kept stored : Cell Effect} (content : kept.content = stored.content)
    (crowd : kept.subscribers ≠ []) (changed : Value) :
    KeptFrom stored.content (kept.storing changed) (stored.storing changed) := by
  have compares : ¬kept.subscribers.isEmpty := fun empty => crowd (List.isEmpty_iff.mp empty)
  unfold Cell.storing
  rw [if_neg compares, content]
  by_cases equal : stored.content.same changed = true
  · rw [if_pos equal]
    by_cases lonely : stored.subscribers.isEmpty = true
    · rw [if_pos lonely]
      exact ⟨.inr equal, fun exact => exact equal⟩
    · rw [if_neg lonely]
      exact ⟨.inl rfl, fun _ => rfl⟩
  · rw [if_neg equal, ite_self]
    exact ⟨.inl rfl, fun _ => rfl⟩

/-- Setting a variable ends alike with a cleanup registered and without it: with equal contents, and
with the same one unless the content before equals the one to store without being it. -/
theorem set_variable_beside_cleanup {fuel : Nat}
    (attended : world.IsAttended (powers setting (fuel + 1)).call
      (setting.instances context.host).signal)
    (cleanup : Plan) (event : Value) (name : String) (data : Option Formula) :
    ∃ registered, onDestroy setting (powers setting (fuel + 1)) context cleanup world = .done
      () registered ∧
      StoreAlike (setting.instances context.host).signal
        (KeptFrom (world.cell (setting.instances context.host).signal).content)
        (setVariable setting (powers setting (fuel + 1)) context event name data registered)
        (setVariable setting (powers setting (fuel + 1)) context event name data world) := by
  obtain ⟨registered, ended, stays, machine, content, crowd⟩ :=
    on_destroy_of_attended attended cleanup
  refine ⟨registered, ended, ?_⟩
  obtain ⟨result, there, here⟩ := evaluate_for_of_content event data machine content
  generalize setPlain : setVariable setting (powers setting (fuel + 1)) context
    event name data world = plain
  generalize setBeside : setVariable setting (powers setting (fuel + 1)) context event name
    data registered = beside
  cases result with
  | exhausted =>
      obtain rfl := setPlain.symm.trans (bind_of_exhausted here)
      obtain rfl := setBeside.symm.trans (bind_of_exhausted there)
      exact .exhausted
  | raised failure after =>
      obtain rfl := setPlain.symm.trans (bind_of_raised here)
      obtain rfl := setBeside.symm.trans (bind_of_raised there)
      exact .raised content
  | done value after =>
      cases assigned : assign name value
        (world.cell (setting.instances context.host).signal).content with
      | error failure =>
          have same := (congrArg (assign name value) content).trans assigned
          obtain rfl := setPlain.symm.trans (set_variable_of_failure here assigned)
          obtain rfl := setBeside.symm.trans (set_variable_of_failure there same)
          exact .raised content
      | ok changed =>
          have same := (congrArg (assign name value) content).trans assigned
          obtain ⟨last, stored, left⟩ := set_variable_of_changed attended here assigned
          obtain ⟨other, kept, remaining⟩ := set_variable_of_changed stays there same
          obtain rfl := setPlain.symm.trans stored
          obtain rfl := setBeside.symm.trans kept
          refine .done ?_
          rw [left, remaining]
          exact kept_from_storing content crowd changed

end Storing

/-- Passive subscribers, registered cleanups among them, leave a signal with an equal content, and
with the same one where equal contents are the same. -/
theorem passive_subscribers_keep_equal_contents (fuel : Nat) :
    (∀ (initial : Value) (steps : List Step), (∀ step ∈ steps, step.IsPassive) →
      ∃ content stored last plain,
        Signal.run (fuel + 2) (courseOf initial steps) Bench.empty = .done (.value content) last ∧
        Signal.run (fuel + 2) (courseOf initial ((written steps).map .write)) Bench.empty =
          .done (.value stored) plain ∧
        Kept content stored ∧ (AreDistinct (initial :: written steps) → content = stored)) ∧
    ∀ (setting : Setting) (context : ActionContext) (world : World),
      world.IsAttended (powers setting (fuel + 1)).call (setting.instances context.host).signal →
      ∀ (cleanup : Plan) (event : Value) (name : String) (data : Option Formula),
        ∃ registered, onDestroy setting (powers setting (fuel + 1)) context cleanup world = .done
          () registered ∧
          StoreAlike (setting.instances context.host).signal
            (KeptFrom (world.cell (setting.instances context.host).signal).content)
            (setVariable setting (powers setting (fuel + 1)) context event name data registered)
            (setVariable setting (powers setting (fuel + 1)) context event name data world) :=
  ⟨fun initial _ passive => courses_agree fuel initial passive,
    fun _ _ _ attended cleanup event name data => set_variable_beside_cleanup attended
      cleanup event name data⟩

/-- Someone looks on while a number and then a truth value equal to it are written. -/
def watchedSteps : List Step :=
  [.write (.int 0), .subscribe (fun content => .record content .done) none,
    .write (.int 1), .write (.bool true)]

/-- An instance with nothing but a signal. -/
def bareSetting : Setting :=
  { instances := fun _ =>
      { signal := 0, registry := Registry.empty, component := none, package := .null,
        apis := [], scope := none
        triggerEvent := none, setUrlParameters := none, root := .null
        overlay := .mapping [], logErrors := false }
    formulaFuel := 2 }

def bareWorld : World :=
  { cells := #[Signal.Cell.fresh (.mapping [(.text "Variables", .mapping [(.text "on", .int 1)])]) none]
    nextSubscription := 0
    host :=
      { machine :=
          { limits := Limits.standard, journal := Journal.empty, hosts := #[HostState.blank], cycleStacks := #[]
            closures := #[] }
        workflows := #[Cycle.Workflow.empty (.int 1)], continuations := #[], promises := #[], queue := []
        hasLoop := false, scopes := [] } }

theorem watched_steps_keep_equal_contents :
    (∃ content stored last plain,
      Signal.run 2 (courseOf .null watchedSteps) Bench.empty = .done (.value content) last ∧
      Signal.run 2 (courseOf .null ((written watchedSteps).map .write)) Bench.empty = .done (.value stored) plain ∧
      Kept content stored) ∧
    ∃ registered, onDestroy bareSetting (powers bareSetting 1) (bareSetting.contextOf 0) .done bareWorld =
        .done () registered ∧
      StoreAlike 0 (KeptFrom (bareWorld.cell 0).content)
        (setVariable bareSetting (powers bareSetting 1) (bareSetting.contextOf 0) .null "on"
          (some (.value (.bool true))) registered)
        (setVariable bareSetting (powers bareSetting 1) (bareSetting.contextOf 0) .null "on"
          (some (.value (.bool true))) bareWorld) := by
  have passive : ∀ step ∈ watchedSteps, step.IsPassive := by
    intro step member
    simp only [watchedSteps, List.mem_cons, List.not_mem_nil, or_false] at member
    rcases member with rfl | rfl | rfl | rfl
    · trivial
    · exact fun content => .perform fun _ => .finish _
    · trivial
    · trivial
  have attended : bareWorld.IsAttended (powers bareSetting 1).call 0 :=
    ⟨Nat.zero_lt_one, rfl, List.forall_mem_nil _⟩
  obtain ⟨content, stored, last, plain, ended, other, kept, _⟩ :=
    (passive_subscribers_keep_equal_contents 0).1 .null watchedSteps passive
  exact ⟨⟨content, stored, last, plain, ended, other, kept⟩,
    (passive_subscribers_keep_equal_contents 0).2 bareSetting (bareSetting.contextOf 0) bareWorld attended .done .null
      "on" (some (.value (.bool true)))⟩

/-- A signal that somebody looks at keeps the number one when true is written; without him it holds
true. -/
theorem looked_at_signal_keeps_one :
    ∃ last plain,
      Signal.run 2 (courseOf (.int 1) [.subscribe (fun _ => .done) none, .write (.bool true)])
        Bench.empty = .done (.value (.int 1)) last ∧
      Signal.run 2 (courseOf (.int 1) [.write (.bool true)]) Bench.empty = .done
        (.value (.bool true)) plain :=
  ⟨_, _, rfl, rfl⟩

end Execute
end Interplay
