import Interplay.Proofs.Evaluate.Recall
import Interplay.Proofs.Evaluate.Watch

/-!
Memoization is transparent.

Evaluation of a plain formula in a plain setting is faithful to its meaning at every depth and from
every state.  So a memo that earlier evaluations have left is backed, and with it a formula that
evaluates without a fault gives the same content, again without a fault.
-/

namespace Interplay

/-- A machine without the memo of a host. -/
def Machine.withoutMemo (host : Nat) (machine : Machine) : Machine :=
  machine.modifyHost host fun state => { state with memo := none }

namespace Evaluate

section Nodes

variable {setting : Setting} {environment : Environment} {host : Nat}
  {evaluator : Evaluator} {data : Content} {context counterpart : Context}

theorem faithful_dispatch (lawful : setting.IsPlain)
    (interprets : Interprets setting environment host evaluator)
    (abreast : Abreast setting environment host data context counterpart) {formula : Formula}
    (plain : formula.IsPlain) (depth : Value) :
    Faithful setting host Value.content? (meaning setting data formula)
      (dispatch environment evaluator formula context depth)
      (dispatch environment evaluator formula counterpart depth) := by
  obtain ⟨literal, slots, _⟩ := id plain
  have operands : ∀ argument ∈ formula.arguments, Faithful setting host Value.content?
      (Meaning.operand (meaning setting data) argument.formula)
      (evaluateBelow evaluator context depth argument.formula)
      (evaluateBelow evaluator counterpart depth argument.formula) :=
    fun _ member => faithful_below interprets abreast depth (plain_operand plain member)
  have flagged : ∀ flag : Bool, (Value.bool flag).content? = some (.atom (.bool flag)) := by
    intro flag
    simp [Value.content?, Scalar.content?]
  rw [meaning_eq_node]
  cases formula with
  | value content =>
      obtain ⟨inside, known⟩ := literal content rfl
      simp only [Meaning.node]
      rw [known]
      exact faithful_pure known known
  | path segments =>
      exact faithful_of_agrees (Value.walk_agrees segments abreast.within.known)
        (Value.walk_agrees segments abreast.otherWithin.known)
  | function name arguments declared =>
      exact faithful_function lawful interprets abreast depth name declared slots
        fun _ member => plain_operand plain member
  | apply name arguments =>
      exact faithful_apply lawful interprets abreast depth name slots fun _ member =>
        plain_operand plain member
  | object arguments =>
      apply faithful_map (faithful_collect_named slots operands table_of_nil table_of_nil)
      exact fun _ _ => content_of_table
  | record arguments =>
      apply faithful_map (faithful_collect_named slots operands table_of_nil table_of_nil)
      exact fun _ _ => content_of_table
  | array arguments =>
      apply faithful_map (faithful_collect operands)
      intro items contents found
      simp [Value.content?, found]
  | or arguments =>
      apply faithful_map (faithful_any_operand true operands)
      intro found content known
      cases known
      exact flagged found
  | and arguments =>
      apply faithful_map (faithful_any_operand false operands)
      intro found content known
      cases known
      exact flagged (!found)
  | switch cases fallback =>
      apply faithful_first_case
      · intro branch member
        obtain ⟨condition, result⟩ := plain_branch plain member
        exact ⟨faithful_below interprets abreast depth condition,
          faithful_below interprets abreast depth result⟩
      · exact faithful_below interprets abreast depth (plain_fallback plain)

theorem faithful_with (lawful : setting.IsPlain)
    (interprets : Interprets setting environment host evaluator) :
    Interprets setting environment host (evaluateWith environment evaluator) := by
  intro data context counterpart abreast formula plain depth
  have recorded : ∀ fault, Faithful setting host Value.content? none
      (recordFault environment context fault >>= fun _ => pure Value.null)
      (recordFault environment context fault >>= fun _ => pure Value.null) :=
    fun fault => faithful_then (faithful_record_fault abreast.home fault _)
      (faithful_pure Value.content_of_null Value.content_of_null)
  apply faithful_get_bind
  intro machine beside same
  rw [same]
  cases checked : machine.limits.check "formula" "max_depth" depth with
  | error failure =>
      cases failure with
      | fault fault => exact (recorded fault).spoiled _
      | mishap mishap => exact faithful_raise _ _
  | ok _ =>
      apply faithful_attempt_bind (faithful_dispatch lawful interprets abreast plain depth)
      · exact fun _ => rfl
      · exact fun _ => rfl
      · intro failure
        apply faithful_get_bind
        intro reached other _
        exact (recorded _).spoiled _

/-- Evaluation with any fuel is faithful to the meaning of formulas. -/
theorem interprets_node (lawful : setting.IsPlain) (environment : Environment) (host fuel : Nat) :
    Interprets setting environment host (evaluateNode environment fuel) := by
  induction fuel with
  | zero =>
      intro data context counterpart _ formula _ depth
      exact ⟨fun _ _ => trivial, fun _ _ _ _ _ ended _ => by cases ended⟩
  | succ fuel ih => exact faithful_with lawful ih

end Nodes

section Timings

variable {host : Nat} {machine : Machine}

def SameStores (host : Nat) (before after : Machine) : Prop :=
  (after.host host).sink = (before.host host).sink ∧
    (after.host host).memo = (before.host host).memo

theorem on_metrics_stores {α : Type} {standard : α} {body : Run (Metrics Value) α} {last : Machine}
    (ended : (Machine.onMetrics host standard body machine).state? = some last) :
    SameStores host machine last := by
  unfold Machine.onMetrics at ended
  cases taken : (machine.host host).metrics with
  | none =>
      rw [taken] at ended
      cases ended
      exact ⟨rfl, rfl⟩
  | some metrics =>
      rw [taken] at ended
      have changed : ∀ after, SameStores host machine
          (machine.modifyHost host fun state => { state with metrics := some after }) := by
        intro after
        rcases Machine.host_modify_host_cases host host machine fun state =>
          { state with metrics := some after } with same | ⟨_, replaced⟩
        · unfold SameStores
          rw [same]
          exact ⟨rfl, rfl⟩
        · unfold SameStores
          rw [replaced]
          exact ⟨rfl, rfl⟩
      dsimp only at ended
      cases recorded : body metrics with
      | exhausted =>
          rw [recorded] at ended
          cases ended
      | raised failure after =>
          rw [recorded] at ended
          cases ended
          exact changed after
      | done value after =>
          rw [recorded] at ended
          cases ended
          exact changed after

def warnOver (category name budget duration : Value) : Run Machine Unit := do
  if ← Run.ofExcept (Machine.overBudget budget duration) then
    Run.modify (Machine.log .warning .metrics (Machine.budgetMessage category name budget duration))

theorem finish_timing_eq (name category budget started : Value) (machine : Machine) :
    Machine.finishTiming host name category budget started machine =
      (Machine.onMetrics host () (Metrics.record name category machine.now
        (Measure.elapsed started machine.now) none) >>= fun _ =>
          warnOver category name budget (Measure.elapsed started machine.now)) machine := rfl

theorem warn_over_cases (category name budget duration : Value) :
    (∃ failure, ∀ state, warnOver category name budget duration state = .raised failure state) ∨
      ∃ change, ∀ state, warnOver category name budget duration state =
        .done () (Machine.modifyJournal change state) := by
  unfold warnOver
  cases Machine.overBudget budget duration with
  | error failure => exact .inl ⟨failure, fun _ => rfl⟩
  | ok exceeded =>
      cases exceeded with
      | true => exact .inr ⟨_, fun _ => rfl⟩
      | false => exact .inr ⟨id, fun _ => rfl⟩

theorem finish_timing_stores {name category budget started : Value} {last : Machine}
    (ended : (Machine.finishTiming host name category budget started machine).state? = some last) :
    SameStores host machine last := by
  rw [finish_timing_eq] at ended
  change (Run.bind _ _ machine).state? = some last at ended
  unfold Run.bind at ended
  cases recorded : Machine.onMetrics host () (Metrics.record name category machine.now
      (Measure.elapsed started machine.now) none) machine with
  | exhausted =>
      rw [recorded] at ended
      cases ended
  | raised failure after =>
      rw [recorded] at ended
      cases ended
      exact on_metrics_stores (congrArg Result.state? recorded)
  | done _ after =>
      rw [recorded] at ended
      dsimp only at ended
      have kept : SameStores host machine after :=
        on_metrics_stores (congrArg Result.state? recorded)
      rcases warn_over_cases category name budget (Measure.elapsed started machine.now) with
        ⟨failure, failed⟩ | ⟨change, warned⟩
      · rw [failed] at ended
        cases ended
        exact kept
      · rw [warned] at ended
        cases ended
        exact kept

/-- A duration that can be recorded can be recorded where the same timings were taken so far, and
leaves the same. -/
theorem record_beside {counterpart last : Machine} {name category : String} {now duration : Value}
    {success : Option Bool}
    (timings : (counterpart.host host).timings = (machine.host host).timings)
    (ended : Machine.onMetrics host ()
      (Metrics.record (.text name) (.text category) now duration success) machine = .done () last) :
    ∃ later, Machine.onMetrics host ()
        (Metrics.record (.text name) (.text category) now duration success)
        counterpart = .done () later ∧
      (later.host host).timings = (last.host host).timings := by
  have known := timings
  unfold HostState.timings at known
  unfold Machine.onMetrics at ended ⊢
  cases taken : (machine.host host).metrics with
  | none =>
      rw [taken, Option.map_none, Option.map_eq_none_iff] at known
      rw [taken] at ended
      cases ended
      rw [known]
      exact ⟨counterpart, rfl, timings⟩
  | some metrics =>
      rw [taken, Option.map_some] at known
      obtain ⟨others, otherTaken, same⟩ := Option.map_eq_some_iff.mp known
      rw [taken] at ended
      rw [otherTaken]
      dsimp only at ended ⊢
      cases entered : Metrics.record (.text name) (.text category) now duration success metrics with
      | exhausted =>
          rw [entered] at ended
          cases ended
      | raised failure after =>
          rw [entered] at ended
          cases ended
      | done _ after =>
          rw [entered] at ended
          cases ended
          obtain ⟨later, otherEntered, enabled, sameTimings⟩ :=
            Metrics.record_of_timings (congrArg Prod.fst same) (congrArg Prod.snd same) entered
          rw [otherEntered]
          refine ⟨_, rfl, ?_⟩
          rw [Machine.host_modify_host_self (Machine.host_of_metrics taken),
            Machine.host_modify_host_self (Machine.host_of_metrics otherTaken)]
          simp only [HostState.timings, Option.map_some, enabled, sameTimings]

/-- A timing that can be finished can be finished where the clock shows the same and the same
timings were taken so far, and leaves the same. -/
theorem finish_timing_beside {counterpart last : Machine} {name category : String}
    {budget started : Value} (clock : counterpart.now = machine.now)
    (timings : (counterpart.host host).timings = (machine.host host).timings)
    (ended : Machine.finishTiming host (.text name) (.text category) budget started machine = .done
      () last) :
    ∃ later, Machine.finishTiming host (.text name) (.text category) budget started counterpart =
      .done () later ∧
      (later.host host).timings = (last.host host).timings := by
  rw [finish_timing_eq] at ended ⊢
  rw [clock]
  generalize Measure.elapsed started machine.now = duration at ended ⊢
  generalize machine.now = now at ended ⊢
  obtain ⟨_, noted, recorded, finished⟩ := Run.done_of_bind ended
  obtain ⟨otherNoted, found, same⟩ := record_beside timings recorded
  rcases warn_over_cases (.text category) (.text name) budget duration with ⟨failure, failed⟩ |
    ⟨change, warned⟩
  · rw [failed] at finished
    cases finished
  · rw [warned] at finished
    cases finished
    refine ⟨Machine.modifyJournal change otherNoted, ?_, same⟩
    rw [Run.bind_of_done found, warned]

end Timings

section Tops

variable {setting : Setting} {environment : Environment} {host : Nat} {expected : Option Content}
  {run other : Run Machine Value} {machine counterpart : Machine}

theorem onward_of_lawful {result : Result Machine Value} {after : Machine}
    (lawful : Lawful setting host Value.content? expected machine result)
    (left : result.state? = some after) :
    Onward setting host machine after := by
  cases result with
  | done value reached =>
      cases left
      exact lawful.1
  | raised failure reached =>
      cases left
      exact lawful
  | exhausted => cases left

theorem state_of_bind {books : Run Machine Unit} {quit : Run Machine Value} {last : Machine}
    (still : ∀ state, (quit state).state? = some state)
    (ended : (Run.bind books (fun _ => quit) machine).state? = some last) :
    (books machine).state? = some last := by
  unfold Run.bind at ended
  cases started : books machine with
  | done _ after =>
      rw [started] at ended
      exact (still after).symm.trans ended
  | raised failure after =>
      rw [started] at ended
      exact ended
  | exhausted =>
      rw [started] at ended
      exact ended

theorem timed_stores {name category budget : Value} {last : Machine}
    (ended : (Machine.timed host name category budget run machine).state? = some last) :
    ∃ after, (run machine).state? = some after ∧ SameStores host after last := by
  unfold Machine.timed Run.followedBy at ended
  cases started : run machine with
  | exhausted =>
      rw [started] at ended
      cases ended
  | done value after =>
      rw [started] at ended
      exact ⟨after, rfl, finish_timing_stores (state_of_bind (fun _ => rfl) ended)⟩
  | raised failure after =>
      rw [started] at ended
      exact ⟨after, rfl, finish_timing_stores (state_of_bind (fun _ => rfl) ended)⟩

theorem timed_beside {name : String} {budget value : Value} {last : Machine}
    (faithful : Faithful setting host Value.content? expected run other)
    (beside : Beside setting host machine counterpart)
    (ended : Machine.timed host (.text name)
      (.text "formula") budget run machine = .done value last)
    (clean : last.faults host = machine.faults host) :
    ∃ answer later, Machine.timed host (.text name) (.text "formula") budget other counterpart =
      .done answer later ∧
      later.faults host = counterpart.faults host ∧ answer.content? =
      value.content? ∧ value.IsJson := by
  have clock : counterpart.now = machine.now := beside.now
  unfold Machine.timed Run.followedBy at ended ⊢
  cases started : run machine with
  | exhausted =>
      rw [started] at ended
      cases ended
  | raised failure after =>
      rw [started] at ended
      obtain ⟨_, _, _, impossible⟩ := Run.done_of_bind ended
      cases impossible
  | done inside after =>
      rw [started] at ended
      obtain ⟨_, reached, finished, left⟩ := Run.done_of_bind ended
      cases left
      have stores : SameStores host after last :=
        finish_timing_stores (congrArg Result.state? finished)
      have unspoiled : after.faults host = machine.faults host := by
        rw [← clean]
        unfold Machine.faults
        rw [stores.1]
      have lawful := faithful.lawful machine beside.sound_left
      rw [started] at lawful
      obtain ⟨_, content, known, _⟩ := lawful
      -- the clocks agree before and after, and so do the durations that are recorded
      obtain ⟨answer, later, answered, besideLater, sameView⟩ :=
        faithful.matched machine counterpart beside value after started unspoiled
      obtain ⟨closing, closed, _⟩ :=
        finish_timing_beside besideLater.now (congrArg Imprint.timings besideLater.imprint) finished
      have otherStores : SameStores host later closing :=
        finish_timing_stores (congrArg Result.state? closed)
      refine ⟨answer, closing, ?_, ?_, sameView, content, known⟩
      · rw [answered, clock]
        exact Run.bind_of_done closed
      · have counted : closing.faults host = later.faults host := by
          unfold Machine.faults
          rw [otherStores.1]
        rw [counted, besideLater.faults, unspoiled, beside.faults]

variable {data : Content} {context : Context} {formula : Option Formula} {memo : Memo String String}

theorem faithful_self (lawful : setting.IsPlain) (within : Within setting environment data context)
    {formula : Formula} (plain : formula.IsPlain) (fuel : Nat) (depth : Value) :
    Faithful setting context.host Value.content? (meaning setting data formula)
      (evaluateNode environment fuel formula context depth)
      (evaluateNode environment fuel formula context depth) :=
  interprets_node lawful environment context.host fuel data context context
    ⟨rfl, same_home_refl context, within, within⟩ formula plain depth

theorem sound_of_held (held : (machine.host host).memo = some memo) (backs : Backs setting memo) :
    Sound setting host machine := by
  constructor
  · apply Decidable.byContradiction
    intro absent
    have blank : machine.host host = HostState.blank := by
      simp [Machine.host, Array.getElem?_eq_none (Nat.le_of_not_lt absent)]
    rw [blank] at held
    cases held
  · intro other present
    rw [held] at present
    cases present
    exact backs

/-- An evaluation leaves a backed memo backed, however it ends. -/
theorem evaluate_backs (lawful : setting.IsPlain) (within : Within setting environment data context)
    (plain : PlainOperand formula) (held : (machine.host context.host).memo = some memo)
    (backs : Backs setting memo)
    {fuel : Nat} {depth : Value} {after : Machine} {later : Memo String String}
    (ended : (evaluate environment fuel formula context depth machine).state? = some after)
    (left : (after.host context.host).memo = some later) : Backs setting later := by
  have sound := sound_of_held held backs
  cases formula with
  | none =>
      cases ended
      exact sound.backs later left
  | some formula =>
      have faithful := faithful_self lawful within (plain formula rfl) fuel depth
      unfold evaluate evaluateTop at ended
      dsimp only at ended
      by_cases timed : depth.same (.int 0) = true ∧ machine.hasMetrics context.host = true
      · rw [if_pos timed] at ended
        obtain ⟨reached, stopped, stores⟩ := timed_stores ended
        have onward := onward_of_lawful (faithful.lawful machine sound) stopped
        rw [stores.2] at left
        exact (onward.sound sound).backs later left
      · rw [if_neg timed] at ended
        have onward := onward_of_lawful (faithful.lawful machine sound) ended
        exact (onward.sound sound).backs later left

/-- The memos that evaluations of plain formulas in a setting produce, one after the other, from an
empty one.  Each may take place in a context, at a depth and from a state of its own, and may
fail. -/
inductive Produced (setting : Setting) : Memo String String → Prop
  | empty : Produced setting Memo.empty
  | evaluated {memo later : Memo String String} {environment : Environment}
    {data : Content} {context : Context}
    {formula : Option Formula} {machine after : Machine} {fuel : Nat} {depth : Value}
    (earlier : Produced setting memo)
    (within : Within setting environment data context) (plain : PlainOperand formula)
    (held : (machine.host context.host).memo = some memo)
    (ended : (evaluate environment fuel formula context depth machine).state? = some after)
    (left : (after.host context.host).memo = some later) : Produced setting later

theorem backs_of_produced (lawful : setting.IsPlain) (produced : Produced setting memo) :
    Backs setting memo := by
  induction produced with
  | empty => exact backs_empty setting
  | evaluated earlier within plain held ended left ih =>
      exact evaluate_backs lawful within plain held ih ended left

theorem beside_without_memo (sound : Sound setting host machine) :
    Beside setting host (machine.withoutMemo host) machine := by
  have size : (machine.withoutMemo host).hosts.size = machine.hosts.size := by
    simp [Machine.withoutMemo, Machine.modifyHost]
  have changed : (machine.withoutMemo host).host host = { machine.host host with memo := none } :=
    Machine.host_modify_host_self sound.present _
  refine ⟨?_, ?_, ?_, sound⟩
  · unfold Machine.imprint
    rw [changed, size]
    rfl
  · unfold Machine.faults
    rw [changed]
  · rw [changed]

/-- A formula that evaluates without a fault where there is no memo evaluates without a fault, and
to the same up to the order of keys, with every memo that earlier evaluations have produced. -/
theorem memoization_is_transparent (lawful : setting.IsPlain) (produced : Produced setting memo)
    (within : Within setting environment data context) (plain : PlainOperand formula)
    (held : (machine.host context.host).memo = some memo) {fuel : Nat}
    {depth value : Value} {after : Machine}
    (ended : evaluate environment fuel formula context depth
      (machine.withoutMemo context.host) = .done value after)
    (clean : after.faults context.host = (machine.withoutMemo context.host).faults context.host) :
    ∃ answer later, evaluate environment fuel formula context depth machine = .done answer later ∧
      later.faults context.host = machine.faults context.host ∧ answer.SameContent value := by
  have beside := beside_without_memo (sound_of_held held (backs_of_produced lawful produced))
  cases formula with
  | none =>
      cases ended
      exact ⟨.null, machine, rfl, rfl, Content.null, Value.content_of_null, Value.content_of_null⟩
  | some formula =>
      have faithful := faithful_self lawful within (plain formula rfl) fuel depth
      -- whether the whole formula is timed is decided by its depth and the metrics, not by the memo
      have same : machine.hasMetrics context.host =
          (machine.withoutMemo context.host).hasMetrics context.host :=
        beside.has_metrics
      have limits : machine.limits = (machine.withoutMemo context.host).limits := rfl
      unfold evaluate evaluateTop at ended ⊢
      dsimp only at ended ⊢
      rw [same, limits]
      by_cases timed : depth.same (.int 0) = true ∧
        (machine.withoutMemo context.host).hasMetrics context.host = true
      · rw [if_pos timed] at ended ⊢
        obtain ⟨answer, later, answered, counted, sameView, content, known⟩ :=
          timed_beside faithful beside ended clean
        exact ⟨answer, later, answered, counted, content, sameView.trans known, known⟩
      · rw [if_neg timed] at ended ⊢
        have meant := faithful.lawful _ beside.sound_left
        rw [ended] at meant
        obtain ⟨_, content, known, _⟩ := meant
        obtain ⟨answer, later, answered, besideLater, sameView⟩ :=
          faithful.matched _ _ beside value after ended clean
        refine ⟨answer, later, answered, ?_, content, sameView.trans known, known⟩
        rw [besideLater.faults, clean, beside.faults]

end Tops

/-- A formula that takes a list apart and calls itself for its first item. -/
def rebuilding : Formula :=
  .switch
    [.mk (some (.path ["Args", "item", "0"]))
      (some (.array
        [.mk (some (.apply "rebuild"
          [.mk (some (.path ["Args", "item", "0"])) (.text "item") false])) .null false]))]
    (some (.path ["Args", "item"]))

/-- A component whose memoized formula evicts its own entry at every level. -/
def shelf : Component :=
  Component.ofFormulas "shelf"
    [("rebuild", { name := .text "rebuild", formula := some rebuilding, arguments := ["item"], memoize := true,
                   isExposed := false })]

def shelfEnvironment : Environment := fun _ =>
  { formulas := Catalog.empty, component := some shelf, logErrors := false }

def shelfSetting : Setting :=
  { formulas := Catalog.empty, component := some shelf, package := .null, root := .mapping [] }

def rebuild (item : Value) : Formula :=
  .apply "rebuild" [.mk (some (.value item)) (.text "item") false]

def crate : Value := .list [.list [.int 7]]

def both : Formula :=
  .array ([rebuild crate, rebuild (.list [.int 7])].map fun formula => .mk
    (some formula) .null false)

def coldMachine : Machine :=
  (Machine.lone (Limits.ofFormulaDepth 12) 3).modifyHost 0 fun state =>
    { state with memo := some Memo.empty }

/-- A machine with the memo that one evaluation has left. -/
def warmMachine : Machine :=
  ((evaluate shelfEnvironment 12 (some (rebuild crate)) (Context.lone (.mapping []))
    (.int 0) coldMachine).state?).getD coldMachine

theorem plain_rebuild {formula : Formula} (plain : formula.IsPlain) :
    (Formula.apply "rebuild" [.mk (some formula) (.text "item") false]).IsPlain := by
  refine plain_of_arguments rfl nofun ?_
  intro argument member
  obtain rfl := List.mem_singleton.mp member
  refine ⟨⟨rfl, fun _ => ⟨"item", rfl⟩⟩, ?_⟩
  intro present found
  cases found
  exact plain

theorem plain_array {formulas : List Formula} (plain : ∀ formula ∈ formulas, formula.IsPlain) :
    (Formula.array (formulas.map fun formula => .mk (some formula) .null false)).IsPlain := by
  refine plain_of_arguments rfl nofun ?_
  intro argument member
  obtain ⟨formula, inside, rfl⟩ := List.mem_map.mp member
  refine ⟨⟨rfl, nofun⟩, ?_⟩
  intro present found
  cases found
  exact plain formula inside

theorem rebuilding_plain : rebuilding.IsPlain := by
  have path : ∀ segments, (Formula.path segments).IsPlain :=
    fun _ => plain_of_arguments rfl nofun nofun
  refine ⟨nofun, nofun, ?_⟩
  intro part member
  have listed : part = .path ["Args", "item", "0"] ∨
      part = .array
        ([Formula.apply "rebuild"
          [.mk (some (.path ["Args", "item", "0"])) (.text "item") false]].map
        fun formula => .mk (some formula) .null false) ∨ part = .path ["Args", "item"] := by
    simpa [rebuilding, Formula.parts, FormulaCase.condition, FormulaCase.result] using member
  rcases listed with rfl | rfl | rfl
  · exact path _
  · apply plain_array
    intro formula inside
    obtain rfl := List.mem_singleton.mp inside
    exact plain_rebuild (path _)
  · exact path _

theorem shelf_plain : shelfSetting.IsPlain := by
  refine ⟨?_, ?_, ?_⟩
  · rintro entry ⟨package, table, name, inside, _⟩
    cases inside
  · intro entry member
    cases member
  · intro component owner entry member formula present
    cases owner
    obtain rfl := List.mem_singleton.mp member
    cases present
    exact rebuilding_plain

theorem lone_within : Within shelfSetting shelfEnvironment (.mapping [])
    (Context.lone (.mapping [])) := by
  refine ⟨rfl, rfl, rfl, ?_, ?_⟩
  · simp [Context.lone, Value.content?, Value.fields?, Content.ofFields?, Content.arrange]
  · simp [shelfSetting, Content.withoutArguments, Content.arrange, Keyed.erase]

theorem rebuild_plain {item : Value} {content : Content} (known : item.content? = some content) :
    (rebuild item).IsPlain :=
  plain_rebuild (plain_literal ⟨content, known⟩)

theorem crate_content : crate.content? = some (.list [.list [.atom (.int 7)]]) := by
  simp [crate, Value.content?, Value.contents?, Scalar.content?]

theorem both_plain : both.IsPlain := by
  apply plain_array
  intro formula member
  rcases List.mem_pair.mp member with rfl | rfl
  · exact rebuild_plain crate_content
  · have known : (Value.list [.int 7]).content? = some (.list [.atom (.int 7)]) := by
      simp [Value.content?, Value.contents?, Scalar.content?]
    exact rebuild_plain known

theorem warm_memo : ∃ memo, (warmMachine.host 0).memo = some memo ∧ Produced shelfSetting memo := by
  obtain ⟨memo, held⟩ : ∃ memo, (warmMachine.host 0).memo = some memo :=
    Option.isSome_iff_exists.mp (by decide +kernel)
  obtain ⟨after, ended⟩ : ∃ after, (evaluate shelfEnvironment 12 (some (rebuild crate)) (Context.lone (.mapping []))
      (.int 0) coldMachine).state? = some after := Option.isSome_iff_exists.mp (by decide +kernel)
  have warm : warmMachine = after := by
    unfold warmMachine
    rw [ended]
    rfl
  refine ⟨memo, held, ?_⟩
  rw [warm] at held
  have plain : PlainOperand (some (rebuild crate)) := by
    intro formula present
    cases present
    exact rebuild_plain crate_content
  exact .evaluated .empty lone_within plain rfl ended held

def areRebuilt : Result Machine Value → Bool
  | .done (.list [.list [.list [.int first]], .list [.int second]]) after =>
    decide (first = 7 ∧ second = 7 ∧ after.faults 0 = 0)
  | _ => false

theorem both_without_memo :
    ∃ after, evaluate shelfEnvironment 12 (some both) (Context.lone (.mapping [])) (.int 0)
        (warmMachine.withoutMemo 0) = .done (.list [crate, .list [.int 7]]) after ∧
      after.faults 0 = (warmMachine.withoutMemo 0).faults 0 := by
  have tested : areRebuilt (evaluate shelfEnvironment 12 (some both) (Context.lone (.mapping [])) (.int 0)
      (warmMachine.withoutMemo 0)) = true := by decide +kernel
  have clean : (warmMachine.withoutMemo 0).faults 0 = 0 := by decide +kernel
  unfold areRebuilt at tested
  split at tested
  · rename_i first second after ended
    obtain ⟨rfl, rfl, none⟩ := of_decide_eq_true tested
    exact ⟨after, ended, none.trans clean.symm⟩
  · cases tested

/-- The first call is answered from the memo, the second one evicts what the first one used. -/
theorem rebuilding_is_transparent :
    ∃ answer later, evaluate shelfEnvironment 12 (some both)
      (Context.lone (.mapping [])) (.int 0) warmMachine =
        .done answer later ∧
      later.faults 0 = warmMachine.faults 0 ∧ answer.SameContent
        (.list [crate, .list [.int 7]]) := by
  obtain ⟨memo, held, produced⟩ := warm_memo
  obtain ⟨after, ended, clean⟩ := both_without_memo
  have plain : PlainOperand (some both) := by
    intro formula present
    cases present
    exact both_plain
  exact memoization_is_transparent shelf_plain produced lone_within plain held ended clean

end Evaluate
end Interplay
