import Interplay.Evaluate.Stock
import Interplay.Proofs.Execute.Frame

/-!
What a run of actions can change.

The instances that a run can reach are the one it starts in and those that expose a workflow.  Data
of an instance changes in its variables only: where the run starts, at the names that its actions or
its own workflows set, and elsewhere at the names that the instance's own workflows set.  Nothing is
recorded for an instance that the run cannot reach, unless a closure that was written there is still
around.
-/

namespace Interplay

namespace Scalar

theorem eq_of_same_text {key : Scalar} {name : String} (same : (key == .text name) = true) :
    key = .text name := by
  cases key with
  | text content => exact congrArg Scalar.text (by simpa [BEq.beq, Scalar.same] using same)
  | null => cases same
  | bool flag => cases same
  | int number => cases same
  | float number => cases same
  | nan occurrence => cases same
  | closure handle tag => cases same

theorem text_same_of_ne {key : Scalar} {name : String} (different : key ≠ .text name) :
    (Scalar.text name == key) = false := by
  cases key with
  | text content =>
      have apart : name ≠ content := fun same => different (congrArg Scalar.text same.symm)
      simpa [BEq.beq, Scalar.same] using apart
  | null => rfl
  | bool flag => rfl
  | int number => rfl
  | float number => rfl
  | nan occurrence => rfl
  | closure handle tag => rfl

end Scalar

namespace Keyed

theorem find?_insert_text_of_ne {α : Type} {key : Scalar} {name : String}
    (different : key ≠ .text name) (content : α)
    (table : Keyed Scalar α) : find? key (insert (.text name) content table) = find? key table := by
  induction table with
  | nil => simp [insert, find?, Scalar.text_same_of_ne different]
  | cons entry rest ih =>
      obtain ⟨found, old⟩ := entry
      unfold insert
      split
      · rename_i same
        have missed : (found == key) = false := by
          rw [Scalar.eq_of_same_text same]
          exact Scalar.text_same_of_ne different
        simp [find?, missed]
      · simp [find?, ih]

theorem find?_insert_text_self {α : Type} (name : String) (content : α) (table : Keyed Scalar α) :
    find? (.text name) (insert (.text name) content table) = some content := by
  induction table with
  | nil => simp [insert, find?, BEq.beq, Scalar.same]
  | cons entry rest ih =>
      obtain ⟨found, old⟩ := entry
      unfold insert
      split
      · rename_i same
        simp [find?, same]
      · rename_i apart
        simp [find?, apart, ih]

end Keyed

namespace Value

/-- The entries of the variables of an instance's data. -/
def variableTable (content : Value) : Entries :=
  (content.field "Variables").sections

/-- Contents that differ in variables of the given names only. -/
structure Reassigned (names : String → Prop) (before after : Value) : Prop where
  slots : ∀ key, key ≠ .text "Variables" →
    Keyed.find? key after.sections = Keyed.find? key before.sections
  variableTable : ∀ key, (∀ name, names name → key ≠ .text name) →
    Keyed.find? key after.variableTable = Keyed.find? key before.variableTable
  unchanged : (∀ name, ¬names name) → after = before

theorem Reassigned.refl (names : String → Prop) (content : Value) :
    Reassigned names content content :=
  ⟨fun _ _ => rfl, fun _ _ => rfl, fun _ => rfl⟩

theorem Reassigned.trans {names : String → Prop} {first second third : Value}
    (left : Reassigned names first second)
    (right : Reassigned names second third) : Reassigned names first third :=
  ⟨fun key other => (right.slots key other).trans (left.slots key other),
    fun key outside => (right.variableTable key outside).trans (left.variableTable key outside),
    fun none => (right.unchanged none).trans (left.unchanged none)⟩

theorem sections_of_spread_filled {content : Value} {entries : Entries}
    (spread : content.spreadFilled = .ok entries) :
    content.sections = entries := by
  unfold spreadFilled at spread
  split at spread
  · cases content with
    | mapping fields =>
        cases spread
        rfl
    | scalar scalar => cases spread
    | list items => cases spread
  · rename_i unfilled
    cases spread
    cases content with
    | mapping fields =>
        cases fields with
        | nil => rfl
        | cons field rest => exact absurd rfl unfilled
    | scalar scalar => rfl
    | list items => rfl

end Value

namespace Execute

open Run

theorem reassigned_of_assign {names : String → Prop} {name : String} (listed : names name)
    {content current changed : Value} (assigned : assign name content current = .ok changed) :
    Value.Reassigned names current changed := by
  unfold assign at assigned
  cases spread : current.spreadFilled with
  | error failure =>
      rw [spread] at assigned
      cases assigned
  | ok entries =>
      have whole := Value.sections_of_spread_filled spread
      rw [spread] at assigned
      dsimp only [bind, Except.bind] at assigned
      cases inner : (Value.field "Variables" (.mapping entries)).spreadFilled with
      | error failure =>
          rw [inner] at assigned
          cases assigned
      | ok before =>
          have held : current.variableTable = before := by
            rw [← Value.sections_of_spread_filled inner, ← whole]
            cases current <;> rfl
          rw [inner] at assigned
          cases assigned
          refine ⟨fun key other => ?_, fun key outside => ?_, fun none => absurd listed (none name)⟩
          · rw [whole]
            exact Keyed.find?_insert_text_of_ne other _ entries
          · rw [held]
            simp only [Value.variableTable, Value.field, Keyed.find?_insert_text_self,
              Option.getD_some, Value.sections]
            exact Keyed.find?_insert_text_of_ne (outside name listed) content before

namespace Setting

/-- The component of an instance has a workflow that others may call. -/
def Exposes (setting : Setting) (number : Nat) : Prop :=
  ∃ component, (setting.instances number).component = some component ∧
    component.exposedWorkflows ≠ []

/-- A walk over the workflows of an instance's component finds one that sets the variable. -/
def WorkflowsSet (setting : Setting) (number : Nat) (name : String) : Prop :=
  ∃ component, (setting.instances number).component = some component ∧
    ∃ entry ∈ component.workflows, Action.Sets name entry.2.actions

/-- Signals that are no instance's, or were not there yet when there were `size` of them. -/
def Free (setting : Setting) (size : Nat) (signal : Nat) : Prop :=
  size ≤ signal ∨ ∀ number, (setting.instances number).signal ≠ signal

end Setting

/-- A walk over the entries of an action list finds one that sets the variable. -/
def EntriesSet (entries : List Entry) (name : String) : Prop :=
  ∃ entry ∈ entries, ∃ action, entry.Reads action ∧ Action.Sets name [action]

/-- The frame of a run that executes a list in an instance. -/
def reach (setting : Setting) (start : Nat) (entries : List Entry) (size : Nat) : Frame where
  active number := number = start ∨ setting.Exposes number
  assigns number name := number = start ∧ EntriesSet entries name ∨ setting.WorkflowsSet number name
  free := setting.Free size

theorem reach_governs {setting : Setting} {start : Nat} {entries : List Entry} {size : Nat}
    (spares : setting.Spares (setting.Free size)) :
    (reach setting start entries size).Governs setting := by
  refine ⟨spares, fun host component name workflow present found reachable => ?_⟩
  obtain ⟨key, member⟩ := Keyed.mem_of_find? found
  refine ⟨reachable.elim id fun exposed => .inr ⟨component, present, ?_⟩, fun assigned sets => ?_⟩
  · intro none
    have listed : (key, workflow) ∈ component.workflows.filter fun entry => entry.2.isExposed :=
      List.mem_filter.mpr ⟨member, exposed⟩
    rw [List.map_eq_nil_iff.mp none] at listed
    cases listed
  · exact .inr ⟨component, present, _, member, sets⟩

/-- Everything that is put aside in a world stays in a frame. -/
structure Frame.Stays (frame : Frame) (world : World) : Prop where
  cells : ∀ signal, (world.cell signal).Spares frame.free
  continuations : ∀ (number : Nat) continuation, world.host.continuations[number]? =
    some continuation →
    frame.Resumes continuation
  cleanups : ∀ (number : Nat) promise plan, world.host.promises[number]? = some promise →
    promise.settlement = some (.cleanup plan) → plan.Spares frame.free
  queue : ∀ job ∈ world.host.queue, frame.Queues job

/-- A world that has come from another one without leaving a frame; nothing is recorded for
instances that are aloof. -/
structure Framed (setting : Setting) (frame : Frame) (aloof : Nat → Prop) (origin world : World) :
    Prop extends frame.Stays world where
  size : origin.cells.size ≤ world.cells.size
  contents : ∀ number, (setting.instances number).signal < origin.cells.size →
    Value.Reassigned
      (fun name => ∃ other, (setting.instances other).signal = (setting.instances number).signal ∧
        frame.active other ∧ frame.assigns other name)
      (origin.cell (setting.instances number).signal).content
        (world.cell (setting.instances number).signal).content
  sinks : ∀ number, aloof number →
    (world.machine.host number).sink = (origin.machine.host number).sink
  memos : ∀ number, aloof number →
    (world.machine.host number).memo = (origin.machine.host number).memo
  closures : ∀ (handle : Nat) closure, world.machine.closures[handle]? = some closure →
    ¬aloof closure.context.host

section Framed

variable {setting : Setting} {frame : Frame} {aloof : Nat → Prop} {origin world : World}

theorem Framed.refl (stays : frame.Stays world)
    (closures : ∀ (handle : Nat) closure, world.machine.closures[handle]? = some closure →
      ¬aloof closure.context.host) : Framed setting frame aloof world world :=
  ⟨stays, Nat.le_refl _, fun _ _ => .refl _ _, fun _ _ => rfl, fun _ _ => rfl, closures⟩

theorem Framed.modify_cell (framed : Framed setting frame aloof origin world) {signal : Nat}
    {change : Signal.Cell Effect → Signal.Cell Effect}
    (spares : (change (world.cell signal)).Spares frame.free)
    (contents : ∀ number, (setting.instances number).signal = signal → signal < origin.cells.size →
      Value.Reassigned
        (fun name => ∃ other, (setting.instances other).signal = signal ∧ frame.active other ∧
          frame.assigns other name)
        (world.cell signal).content (change (world.cell signal)).content) :
    Framed setting frame aloof origin (world.modifyCell signal change) := by
  refine ⟨⟨fun other => ?_, framed.continuations, framed.cleanups, framed.queue⟩, ?_,
    fun number inside => ?_, framed.sinks, framed.memos, framed.closures⟩
  · rw [Signal.Store.cell_modify_cell]
    split
    · rename_i same
      rw [← same.1]
      exact spares
    · exact framed.cells other
  · simpa [Signal.Store.modifyCell] using framed.size
  · have before := framed.contents number inside
    rw [Signal.Store.cell_modify_cell]
    split
    · rename_i same
      obtain ⟨rfl, _⟩ := same
      exact before.trans (contents number rfl inside)
    · exact before

theorem Framed.set_machine (framed : Framed setting frame aloof origin world) {machine : Machine}
    (sinks : ∀ number, aloof number → (machine.host number).sink = (world.machine.host number).sink)
    (memos : ∀ number, aloof number → (machine.host number).memo = (world.machine.host number).memo)
    (closures : ∀ (handle : Nat) closure, machine.closures[handle]? = some closure →
      ¬aloof closure.context.host) :
    Framed setting frame aloof origin (world.setMachine machine) :=
  ⟨⟨framed.cells, framed.continuations, framed.cleanups, framed.queue⟩,
    framed.size, framed.contents,
    fun number distant => (sinks number distant).trans (framed.sinks number distant),
    fun number distant => (memos number distant).trans (framed.memos number distant), closures⟩

/-- A change of what is put aside that stays in the frame. -/
theorem Framed.modify_stage (framed : Framed setting frame aloof origin world)
    {change : Stage → Stage} (machine : (change world.host).machine = world.host.machine)
    (continuations : ∀ (number : Nat) continuation, (change world.host).continuations[number]? =
      some continuation →
      frame.Resumes continuation)
    (cleanups : ∀ (number : Nat) promise plan, (change world.host).promises[number]? =
      some promise →
      promise.settlement = some (.cleanup plan) → plan.Spares frame.free)
    (queue : ∀ job ∈ (change world.host).queue, frame.Queues job) :
    Framed setting frame aloof origin (world.modifyStage change) := by
  have same : (world.modifyStage change).machine = world.machine := machine
  refine ⟨⟨framed.cells, continuations, cleanups, queue⟩, framed.size, framed.contents,
    fun number distant => ?_,
    fun number distant => ?_, fun handle closure found => ?_⟩
  · rw [same]
    exact framed.sinks number distant
  · rw [same]
    exact framed.memos number distant
  · rw [same] at found
    exact framed.closures handle closure found

theorem framed_upheld (free : frame.free = setting.Free origin.cells.size) :
    Signal.Upheld frame.free (Framed setting frame aloof origin) where
  logged _ _ framed := framed.set_machine (fun _ _ => rfl) (fun _ _ => rfl) framed.closures
  numbered _ _ framed :=
    ⟨⟨framed.cells, framed.continuations, framed.cleanups, framed.queue⟩, framed.size,
      framed.contents, framed.sinks, framed.memos, framed.closures⟩
  stored _ signal framed := framed.cells signal
  changed store signal change framed spares contents := by
    refine framed.modify_cell (spares _ (framed.cells signal)) fun number _ _ => ?_
    rw [contents]
    exact .refl _ _
  written store signal content framed permitted := by
    have cell := framed.cells signal
    refine framed.modify_cell ⟨cell.reactions, cell.releases, cell.onDestroy⟩
      fun number owned inside => ?_
    rw [free] at permitted
    rcases permitted with late | nobody
    · exact absurd inside (Nat.not_lt.mpr late)
    · exact absurd owned (nobody number)
  added store content onDestroy framed spares := by
    refine ⟨⟨fun other => ?_, framed.continuations, framed.cleanups, framed.queue⟩, ?_,
      fun number inside => ?_, framed.sinks, framed.memos, framed.closures⟩
    · rw [Signal.Store.cell_add_cell]
      split
      · exact ⟨nofun, nofun, spares⟩
      · exact framed.cells other
    · exact Nat.le_trans framed.size (by simp [Signal.Store.addCell])
    · have before := framed.contents number inside
      have older : (setting.instances number).signal ≠ store.cells.size :=
        Nat.ne_of_lt (Nat.lt_of_lt_of_le inside framed.size)
      rw [Signal.Store.cell_add_cell, if_neg older]
      exact before
  fresh store framed := by
    rw [free]
    exact .inl framed.size

theorem framed_upholds (apart : ∀ number, frame.active number → ¬aloof number)
    (free : frame.free = setting.Free origin.cells.size) :
    frame.Upholds setting (Framed setting frame aloof origin) where
  signals := framed_upheld free
  books host world active _ before after booked framed := by
    have different : ∀ number, aloof number → number ≠ host := by
      rintro number distant rfl
      exact apart number active distant
    refine framed.set_machine (fun number distant => booked.sinks number (different number distant))
      (fun number distant => booked.memos number (different number distant))
      fun handle closure found => ?_
    rw [booked.closures] at found
    exact framed.closures handle closure found
  noted _ _ framed := framed.set_machine (fun _ _ => rfl) (fun _ _ => rfl) framed.closures
  stacked _ framed := framed.set_machine (fun _ _ => rfl) (fun _ _ => rfl) framed.closures
  assigned world host name content changed framed active assigns made := by
    have cell := framed.cells (setting.instances host).signal
    refine framed.modify_cell ⟨cell.reactions, cell.releases, cell.onDestroy⟩ fun number _ _ => ?_
    exact reassigned_of_assign ⟨host, rfl, active, assigns⟩ made
  continued world continuation framed resumes := by
    unfold World.newContinuation
    dsimp only
    refine framed.modify_stage rfl (fun number found present => ?_) framed.cleanups framed.queue
    rw [Array.getElem?_push] at present
    split at present
    · cases present
      exact resumes
    · exact framed.continuations number found present
  resumed _ number continuation framed found := framed.continuations number continuation found
  promised world framed := by
    unfold World.newPromise
    dsimp only
    refine framed.modify_stage rfl framed.continuations
      (fun number promise plan found known => ?_) framed.queue
    rw [Array.getElem?_push] at found
    split at found
    · cases found
      cases known
    · exact framed.cleanups number promise plan found known
  awaited world number context framed := by
    refine framed.modify_stage rfl framed.continuations
      (fun other promise plan found known => ?_) framed.queue
    rw [Array.getElem?_modify] at found
    split at found
    · obtain ⟨before, present, rfl⟩ := Option.map_eq_some_iff.mp found
      exact framed.cleanups other before plan present known
    · exact framed.cleanups other promise plan found known
  settled world number settlement framed spares := by
    refine framed.modify_stage rfl framed.continuations
      (fun other promise plan found known => ?_) framed.queue
    rw [Array.getElem?_modify] at found
    split at found
    · obtain ⟨before, present, rfl⟩ := Option.map_eq_some_iff.mp found
      exact spares plan (Option.some.inj known)
    · exact framed.cleanups other promise plan found known
  cleanups _ number promise plan framed found known :=
    framed.cleanups number promise plan found known
  enqueued world job framed queues := by
    refine framed.modify_stage rfl framed.continuations framed.cleanups fun other member => ?_
    rcases List.mem_append.mp member with before | added
    · exact framed.queue other before
    · obtain rfl := List.mem_singleton.mp added
      exact queues
  queued _ job framed member := framed.queue job member
  dequeued world job rest framed waiting :=
    framed.modify_stage rfl framed.continuations framed.cleanups fun other member =>
      framed.queue other (by rw [waiting]; exact List.mem_cons_of_mem job member)

theorem framed_indifferent : Indifferent (Framed setting frame aloof origin) where
  trails world number change framed := by
    have kept : ∀ other, ∃ trail, ((world.machine.modifyHost number fun state =>
        { state with trail := change state.trail }).host other) =
          { world.machine.host other with trail := trail } := by
      intro other
      rcases Machine.host_modify_host_cases number other world.machine fun state =>
        { state with trail := change state.trail } with same | ⟨_, changed⟩
      · exact ⟨_, same⟩
      · exact ⟨_, changed⟩
    refine framed.set_machine (fun other _ => ?_) (fun other _ => ?_) framed.closures
    · obtain ⟨trail, same⟩ := kept other
      rw [same]
    · obtain ⟨trail, same⟩ := kept other
      rw [same]
  workflows _ _ _ framed :=
    framed.modify_stage rfl framed.continuations framed.cleanups framed.queue

/-- Formulas in contexts that are not aloof record nothing for instances that are. -/
theorem framed_steady (world : World) :
    Evaluate.Steady (fun number => ¬aloof number)
      fun machine => Framed setting frame aloof origin (world.setMachine machine) where
  tolerant host near before after booked kept := by
    have different : ∀ number, aloof number → number ≠ host := by
      rintro number distant rfl
      exact near distant
    refine kept.set_machine (fun number distant => booked.sinks number (different number distant))
      (fun number distant => booked.memos number (different number distant))
      fun handle closure found => ?_
    rw [booked.closures] at found
    exact kept.closures handle closure found
  trailing number change machine kept :=
    framed_indifferent.trails (world.setMachine machine) number change kept
  closures closure machine near kept := by
    refine kept.set_machine (fun _ _ => rfl) (fun _ _ => rfl) fun handle found present => ?_
    rw [Machine.newClosure, Array.getElem?_push] at present
    split at present
    · cases present
      exact near
    · exact kept.closures handle found present
  handles machine handle closure kept found := kept.closures handle closure found
  entering _ _ _ kept := kept.set_machine (fun _ _ => rfl) (fun _ _ => rfl) kept.closures

theorem framed_backing (apart : ∀ number, frame.active number → ¬aloof number)
    (free : frame.free = setting.Free origin.cells.size) (governs : frame.Governs setting) :
    Backing True setting frame (Framed setting frame aloof origin) where
  upholds := framed_upholds apart free
  governs := governs
  evaluates _ formula active := tracks_on_machine fun world _ =>
    Evaluate.evaluate_of_more_fuel (framed_steady world) (Nat.le_refl _) formula (apart _ active) _
  invokes handle arguments := tracks_on_machine fun world _ =>
    Evaluate.invoke_of_more_fuel (framed_steady world) (Nat.le_refl _) handle arguments
  heeds _ := tracks_pure ()

end Framed

/-- An instance whose signal nobody else who may act has. -/
def Setting.Owns (setting : Setting) (start number : Nat) : Prop :=
  ∀ other, other = start ∨ setting.Exposes other →
    (setting.instances other).signal = (setting.instances number).signal → other = number

/-- Wherever a run of actions starts, and whatever happens afterwards, no data changes but
variables.  Where it starts they change at names that the executed list or the instance's own
workflows set, in an instance that exposes a workflow at names that its own workflows set, and
elsewhere not at all.  If no closure was written in such another instance, nothing is memoized or
recorded for it either. -/
theorem execution_stays_in_footprint (setting : Setting) (fuel : Nat) (entries : List Entry)
    (context : ActionContext)
    (event : Value) (dispatch : Dispatch) (depth : Value)
    (sequels : List Sequel) {world after : World}
    (spares : setting.Spares (setting.Free world.cells.size))
    (sends : (reach setting context.host entries world.cells.size).Sends dispatch)
    (later : ∀ sequel ∈ sequels, sequel.Spares (setting.Free world.cells.size))
    (stays : (reach setting context.host entries world.cells.size).Stays world)
    (ended : (executeAndAfter setting fuel entries context event dispatch depth sequels
      world).state? = some after) :
    ∀ number, setting.Owns context.host number →
      (setting.instances number).signal < world.cells.size →
      (∀ key, key ≠ .text "Variables" →
        Keyed.find? key (after.cell (setting.instances number).signal).content.sections =
          Keyed.find? key (world.cell (setting.instances number).signal).content.sections) ∧
      (number = context.host →
        ∀ key, (∀ name, EntriesSet entries name ∨ setting.WorkflowsSet number name →
          key ≠ .text name) →
          Keyed.find? key (after.cell (setting.instances number).signal).content.variableTable =
            Keyed.find? key (world.cell (setting.instances number).signal).content.variableTable) ∧
      (number ≠ context.host → setting.Exposes number →
        ∀ key, (∀ name, setting.WorkflowsSet number name → key ≠ .text name) →
          Keyed.find? key (after.cell (setting.instances number).signal).content.variableTable =
            Keyed.find? key (world.cell (setting.instances number).signal).content.variableTable) ∧
      (number ≠ context.host → ¬setting.Exposes number →
        (after.cell (setting.instances number).signal).content =
            (world.cell (setting.instances number).signal).content ∧
          ((∀ (handle : Nat) closure, world.machine.closures[handle]? = some closure →
              closure.context.host ≠ number) →
            (after.machine.host number).memo = (world.machine.host number).memo ∧
              (after.machine.host number).sink = (world.machine.host number).sink)) := by
  let aloof : Nat → Prop := fun number => number ≠ context.host ∧ ¬setting.Exposes number ∧
    ∀ (handle : Nat) closure, world.machine.closures[handle]? = some closure →
    closure.context.host ≠ number
  let frame := reach setting context.host entries world.cells.size
  have apart : ∀ number, frame.active number → ¬aloof number := by
    rintro number (start | exposes) distant
    · exact distant.1 start
    · exact distant.2.1 exposes
  have permits : frame.PermitsEntries entries context.host :=
    ⟨.inl rfl, fun entry member action reads name sets => .inl
      ⟨rfl, entry, member, action, reads, sets⟩⟩
  have begins : Framed setting frame aloof world world :=
    .refl stays fun handle closure found distant => distant.2.2 handle closure found rfl
  have framed :=
    Result.holds_of_tracks (execution_keeps (framed_backing apart rfl (reach_governs spares))
    framed_indifferent fuel permits event sends depth later world begins) ended
  intro number owns inside
  have reassigned := framed.contents number inside
  have listed : ∀ name,
      (∃ other, (setting.instances other).signal = (setting.instances number).signal ∧
      frame.active other ∧ frame.assigns other name) → frame.active number ∧
      frame.assigns number name := by
    rintro name ⟨other, shared, active, assigns⟩
    obtain rfl := owns other active shared
    exact ⟨active, assigns⟩
  refine ⟨reassigned.slots, fun start key outside => ?_, fun elsewhere _ key outside => ?_,
    fun elsewhere closed => ⟨?_, fun none => ?_⟩⟩
  · refine reassigned.variableTable key fun name found => outside name ?_
    exact (listed name found).2.imp (fun given => given.2) id
  · refine reassigned.variableTable key fun name found => outside name ?_
    exact (listed name found).2.resolve_left fun given => elsewhere given.1
  · refine reassigned.unchanged fun name found => ?_
    exact (listed name found).1.elim elsewhere closed
  · exact ⟨framed.memos number ⟨elsewhere, closed, none⟩, framed.sinks number
      ⟨elsewhere, closed, none⟩⟩

/-- An instance that keeps what others give it, through an exposed workflow. -/
def keeper : Instance :=
  { signal := 0
    registry :=
      { formulas :=
          { packages := [(Catalog.root, [(.text "args", some (.handler Stock.all)),
              (.text "call", some (.handler Stock.call))])]
            legacy := [] }
        actions := Catalog.empty }
    component := some { Component.ofFormulas "Keeper" [] with
      workflows := [("keep", {
        name := .text "keep"
        actions := [.setVariable "kept" (some (.path ["Parameters", "given", "f"]))]
        parameters := ["given"], callbacks := [], isExposed := true })] }
    package := .null, apis := [], scope := none, triggerEvent := none, setUrlParameters := none
    root := .null, overlay := .mapping [], logErrors := false }

/-- An instance that exposes nothing and finds the keeper in its scope. -/
def lender : Instance :=
  { keeper with signal := 1, component := some (Component.ofFormulas "Lender" []), scope := some 0 }

def lending : Setting :=
  { instances := fun number => if number = 0 then keeper else if number = 1 then lender else { lender with signal := 2 }
    formulaFuel := 6 }

def lendingWorld : World :=
  { cells := #[Signal.Cell.fresh (.mapping [(.text "Variables", .mapping [])]) none,
      Signal.Cell.fresh (.mapping [(.text "Variables", .mapping [])]) none]
    nextSubscription := 0
    host :=
      { machine :=
          { limits := Limits.standard, journal := Journal.empty,
            hosts := #[{ HostState.blank with sink := Sink.ofCapacity (.int 5) },
              { HostState.blank with sink := Sink.ofCapacity (.int 5) }]
            cycleStacks := #[], closures := #[] }
        workflows := #[Cycle.Workflow.empty (.int 1), Cycle.Workflow.empty (.int 1)]
        continuations := #[], promises := #[], queue := [], hasLoop := false
        scopes := [{ providers := [(.text "Keeper", .host 0)], ancestors := [] }] } }

/-- Gives the keeper a closure, whose formula is not registered. -/
def lend : List Entry :=
  [.action (.triggerWorkflow "keep"
    [{ name := "given", formula := some (.function "args"
        [.mk (some (.function "missing" [] .null)) (.text "f") true] .null) }]
    [] (.text "Keeper") .null)]

/-- Calls what is kept. -/
def recalling : List Entry :=
  [.action (.setVariable "result" (some (.function "call"
    [.mk (some (.path ["Variables", "kept"])) (.text "fn") false] .null)))]

theorem lending_spares (free : Nat → Prop) : lending.Spares free := by
  have bare : ∀ host, (lending.instances host).registry.actions = Catalog.empty ∧
      (lending.instances host).apis = [] ∧
      (lending.instances host).triggerEvent = none ∧
      (lending.instances host).setUrlParameters = none := by
    intro host
    simp only [lending]
    split
    · exact ⟨rfl, rfl, rfl, rfl⟩
    · split <;> exact ⟨rfl, rfl, rfl, rfl⟩
  refine ⟨fun host name package handler found resolved => ?_, fun host name api found => ?_,
    fun host name api plan found => ?_, fun host run given => ?_, fun host run given => ?_⟩
  · rw [(bare host).1] at resolved
    rcases resolved with resolved | resolved
    · rcases Catalog.resolve_cases resolved with ⟨_, _, _, _, _, _, inside, _⟩ | ⟨_, _, _, member⟩
      · cases inside
      · cases member
    · rcases Catalog.resolve_cases resolved with ⟨_, _, _, _, _, _, inside, _⟩ | ⟨_, _, _, member⟩
      · cases inside
      · cases member
  · rw [(bare host).2.1] at found
    cases found
  · rw [(bare host).2.1] at found
    cases found
  · rw [(bare host).2.2.1] at given
    cases given
  · rw [(bare host).2.2.2] at given
    cases given

theorem lending_stays (frame : Frame) : frame.Stays lendingWorld where
  cells signal := by
    rcases signal with _ | _ | signal
    · exact ⟨nofun, nofun, nofun⟩
    · exact ⟨nofun, nofun, nofun⟩
    · exact ⟨nofun, nofun, nofun⟩
  continuations _ _ found := by simp [lendingWorld] at found
  cleanups _ _ _ found := by simp [lendingWorld] at found
  queue _ member := by cases member

/-- The keeper's variables change at the one name that its workflow sets. -/
theorem lending_stays_in_footprint :
    ∃ after, (executeAndAfter lending 6 lend (lending.contextOf 1) .null .none (.int 0) [] lendingWorld).state? =
        some after ∧
      ∀ key, key ≠ .text "kept" →
        Keyed.find? key (after.cell 0).content.variableTable =
          Keyed.find? key (lendingWorld.cell 0).content.variableTable := by
  refine ⟨_, rfl, fun key other => ?_⟩
  have footprint := execution_stays_in_footprint lending 6 lend (lending.contextOf 1) .null .none (.int 0) []
    (lending_spares _) trivial nofun (lending_stays _) rfl 0 ?_ (by decide)
  · refine footprint.2.2.1 (by decide) ⟨_, rfl, by decide⟩ key fun name sets same => other ?_
    obtain ⟨component, present, entry, member, visit, visited, data, set⟩ := sets
    cases present
    obtain rfl := List.mem_singleton.mp member
    obtain rfl := List.mem_singleton.mp visited
    cases set
    exact same
  · intro number _ shared
    refine Decidable.byContradiction fun different => ?_
    simp only [lending, different, if_false] at shared
    split at shared <;> cases shared

/-- A closure that was lent is at home where it was written: calling it from the keeper is recorded
for the lender, although the lender exposes no workflow and no code writes signals. -/
theorem recall_is_recorded_for_lender :
    ¬lending.Exposes 1 ∧ lending.Spares (fun _ => False) ∧
      ∃ before after,
        (execute lending 6 lend (lending.contextOf 1) .null .none (.int 0) lendingWorld).state? = some before ∧
        (execute lending 6 recalling (lending.contextOf 0) .null .none (.int 0) before).state? = some after ∧
        (before.machine.host 1).sink.total = 0 ∧ (after.machine.host 1).sink.total = 1 := by
  have unexposed : ¬lending.Exposes 1 := by
    rintro ⟨component, present, exposed⟩
    cases present
    exact exposed rfl
  have runs : ((execute lending 6 lend (lending.contextOf 1) .null .none (.int 0) lendingWorld).state?.bind
      fun before =>
        (execute lending 6 recalling (lending.contextOf 0) .null .none (.int 0) before).state?.map fun after =>
          ((before.machine.host 1).sink.total, (after.machine.host 1).sink.total)) = some (0, 1) := by
    decide +kernel
  obtain ⟨before, lent, rest⟩ := Option.bind_eq_some_iff.mp runs
  obtain ⟨after, recalled, totals⟩ := Option.map_eq_some_iff.mp rest
  exact ⟨unexposed, lending_spares _, before, after, lent, recalled, congrArg Prod.fst totals,
    congrArg Prod.snd totals⟩

end Execute
end Interplay
