import Interplay.Proofs.Cycle.Stack
import Interplay.Proofs.Evaluate.Ground
import Interplay.Proofs.Evaluate.Meaning
import Interplay.Proofs.Metrics.Timing
import Interplay.Proofs.Value.Fingerprint

/-!
Runs that are faithful to a meaning.

A run is faithful if, as long as it adds no fault, it ends with the content that it should, and
keeps every memo entry backed by a meaning whatever happens.  A second run goes along with it from a
machine that differs in its memo and in the looks into memos it has counted: where the first one,
which has no memo, adds no fault, the second one ends as well, adds none and has the same content.
-/

namespace Interplay

/-- What a run on a host goes by, memo and faults apart. -/
structure Imprint where
  limits : Limits
  cycles : Array Cycle.Stack
  clock : Float
  hosts : Nat
  timings : Option (Bool × (String → String → Metric Value))

def Imprint.withCycles (cycles : Array Cycle.Stack) (imprint : Imprint) : Imprint :=
  { imprint with cycles := cycles }

def HostState.timings (state : HostState) : Option (Bool × (String → String → Metric Value)) :=
  state.metrics.map fun metrics => (metrics.enabled, metrics.timings)

structure HostState.SameBooks (before after : HostState) : Prop where
  memo : after.memo = before.memo
  sink : after.sink = before.sink
  metrics : after.metrics = before.metrics

namespace Machine

def imprint (host : Nat) (machine : Machine) : Imprint :=
  { limits := machine.limits
    cycles := machine.cycleStacks
    clock := machine.journal.clock
    hosts := machine.hosts.size
    timings := (machine.host host).timings }

def faults (host : Nat) (machine : Machine) : Nat :=
  (machine.host host).sink.total

theorem imprint_modify_stack (host number : Nat)
    (change : Cycle.Stack → Cycle.Stack) (machine : Machine) :
    (machine.modifyStack number change).imprint host =
      (machine.imprint host).withCycles (machine.cycleStacks.modify number change) := rfl

end Machine

namespace Evaluate

/-- A result in a memo that is the meaning of its formula for arguments of its fingerprint. -/
def Backed (setting : Setting) (name fingerprint : String) (value : Value) : Prop :=
  ∃ definition arguments inner content,
    Meaning.definition? setting name = some definition ∧ definition.memoize = true ∧
      (Content.mapping (Content.arrange arguments)).fingerprint? = some fingerprint ∧
      setting.root.withArguments arguments = some inner ∧ value.content? = some content ∧
      Meaning.operand (meaning setting inner) definition.formula = some content

def Backs (setting : Setting) (memo : Memo String String) : Prop :=
  ∀ name fingerprint value, Keyed.find? name memo.entries = some (fingerprint, value) →
    Backed setting name fingerprint value

/-- A machine with the given host, whose memo is backed if it has one. -/
structure Sound (setting : Setting) (host : Nat) (machine : Machine) : Prop where
  present : host < machine.hosts.size
  backs : ∀ memo, (machine.host host).memo = some memo → Backs setting memo

/-- What every run brings about between the states before and after it. -/
structure Onward (setting : Setting) (host : Nat) (before after : Machine) : Prop where
  imprint : after.imprint host = before.imprint host
  faults : before.faults host ≤ after.faults host
  memo : (after.host host).memo.isSome = (before.host host).memo.isSome
  sound : Sound setting host before → Sound setting host after
  others : ∀ other, other ≠ host → (before.host other).SameBooks (after.host other)
  notes : after.journal.notes = before.journal.notes
  trace : setting.IsQuiet → after.journal.trace = before.journal.trace

/-- A machine without a memo, and one that has been given a backed one. -/
structure Beside (setting : Setting) (host : Nat) (machine counterpart : Machine) : Prop where
  imprint : counterpart.imprint host = machine.imprint host
  faults : counterpart.faults host = machine.faults host
  bare : (machine.host host).memo = none
  sound : Sound setting host counterpart

section States

variable {setting : Setting} {host : Nat} {machine counterpart : Machine}

theorem Onward.refl (machine : Machine) : Onward setting host machine machine :=
  ⟨rfl, Nat.le_refl _, rfl, id, fun _ _ => ⟨rfl, rfl, rfl⟩, rfl, fun _ => rfl⟩

theorem Onward.trans {first second third : Machine} (left : Onward setting host first second)
    (right : Onward setting host second third) : Onward setting host first third where
  imprint := right.imprint.trans left.imprint
  faults := left.faults.trans right.faults
  memo := right.memo.trans left.memo
  sound := right.sound ∘ left.sound
  others other different :=
    have before := left.others other different
    have after := right.others other different
    ⟨after.memo.trans before.memo, after.sink.trans before.sink, after.metrics.trans before.metrics⟩
  notes := right.notes.trans left.notes
  trace quiet := (right.trace quiet).trans (left.trace quiet)

theorem Beside.present (beside : Beside setting host machine counterpart) :
    host < machine.hosts.size := by
  have sizes : counterpart.hosts.size = machine.hosts.size := congrArg Imprint.hosts beside.imprint
  rw [← sizes]
  exact beside.sound.present

theorem Beside.sound_left (beside : Beside setting host machine counterpart) :
    Sound setting host machine :=
  ⟨beside.present, fun memo present => by rw [beside.bare] at present; cases present⟩

/-- Machines stay beside each other as long as neither is given a fault. -/
theorem Beside.onward {after later : Machine} (beside : Beside setting host machine counterpart)
    (first : Onward setting host machine after) (second : Onward setting host counterpart later)
    (clean : after.faults host = machine.faults host)
    (otherClean : later.faults host = counterpart.faults host) :
    Beside setting host after later := by
  refine ⟨?_, ?_, ?_, second.sound beside.sound⟩
  · rw [second.imprint, beside.imprint, first.imprint]
  · rw [otherClean, beside.faults, clean]
  · have same := first.memo
    rw [beside.bare] at same
    exact Option.isNone_iff_eq_none.mp (by simpa using same)

theorem Beside.limits (beside : Beside setting host machine counterpart) :
    counterpart.limits = machine.limits :=
  congrArg Imprint.limits beside.imprint

theorem Beside.cycles (beside : Beside setting host machine counterpart) :
    counterpart.cycleStacks = machine.cycleStacks :=
  congrArg Imprint.cycles beside.imprint

theorem Beside.now (beside : Beside setting host machine counterpart) :
    counterpart.now = machine.now := by
  have clock : counterpart.journal.clock = machine.journal.clock :=
    congrArg Imprint.clock beside.imprint
  unfold Machine.now Journal.now
  rw [clock]

theorem Beside.has_metrics (beside : Beside setting host machine counterpart) :
    counterpart.hasMetrics host = machine.hasMetrics host := by
  have timings : (counterpart.host host).timings = (machine.host host).timings :=
    congrArg Imprint.timings beside.imprint
  have taken := congrArg Option.isSome timings
  unfold HostState.timings at taken
  rw [Option.isSome_map, Option.isSome_map] at taken
  exact taken

/-- A change of hosts is on the way if it keeps timings, takes no fault back and keeps a backed memo
backed, all of one host. -/
theorem onward_modify_host {number : Nat} {change : HostState → HostState}
    (others : ∀ other, other ≠ host →
      (machine.host other).SameBooks ((machine.modifyHost number change).host other))
    (timings : ((machine.modifyHost number change).host host).timings = (machine.host host).timings)
    (faults : machine.faults host ≤ (machine.modifyHost number change).faults host)
    (memo : ((machine.modifyHost number change).host host).memo.isSome =
      (machine.host host).memo.isSome)
    (backs : (∀ memo, (machine.host host).memo = some memo → Backs setting memo) →
      ∀ memo, ((machine.modifyHost number change).host host).memo = some memo →
      Backs setting memo) :
    Onward setting host machine (machine.modifyHost number change) := by
  have size : (machine.modifyHost number change).hosts.size = machine.hosts.size :=
    by simp [Machine.modifyHost]
  refine ⟨?_, faults, memo, fun sound => ⟨?_, backs sound.backs⟩, others, rfl, fun _ => rfl⟩
  · unfold Machine.imprint
    rw [timings, size]
    rfl
  · rw [size]
    exact sound.present

theorem same_books_of_ne {other : Nat} (different : other ≠ host) (machine : Machine)
    (change : HostState → HostState) :
    (machine.host other).SameBooks ((machine.modifyHost host change).host other) := by
  rw [Machine.host_modify_host_of_ne different]
  exact ⟨rfl, rfl, rfl⟩

theorem onward_modify_trail (number : Nat) (change : Trail → Trail) (machine : Machine) :
    Onward setting host machine
      (machine.modifyHost number fun state => { state with trail := change state.trail }) ∧
      (machine.modifyHost number fun state => { state with trail := change state.trail }).faults
      host =
        machine.faults host := by
  have walked : ∀ other, ∃ trail,
      (machine.modifyHost number fun state => { state with trail := change state.trail }).host
      other =
        { machine.host other with trail := trail } := by
    intro other
    rcases Machine.host_modify_host_cases number other machine fun state =>
        { state with trail := change state.trail } with same | ⟨_, changed⟩
    · exact ⟨_, same⟩
    · exact ⟨_, changed⟩
  obtain ⟨trail, same⟩ := walked host
  have counted :
      (machine.modifyHost number fun state => { state with trail := change state.trail }).faults
      host = machine.faults host := by
    unfold Machine.faults
    rw [same]
  refine ⟨onward_modify_host (fun other _ => ?_) ?_ counted.ge ?_ ?_, counted⟩
  · obtain ⟨_, kept⟩ := walked other
    rw [kept]
    exact ⟨rfl, rfl, rfl⟩
  · rw [same]
    rfl
  · rw [same]
  · rw [same]
    exact id

theorem onward_modify_journal {change : Journal → Journal}
    (clock : ∀ journal, (change journal).clock = journal.clock)
    (notes : ∀ journal, (change journal).notes = journal.notes)
    (trace : setting.IsQuiet → ∀ journal, (change journal).trace = journal.trace)
    (machine : Machine) :
    Onward setting host machine (machine.modifyJournal change) := by
  refine ⟨?_, Nat.le_refl _, rfl, fun sound => ⟨sound.present, sound.backs⟩,
    fun _ _ => ⟨rfl, rfl, rfl⟩, notes machine.journal, fun quiet => trace quiet machine.journal⟩
  unfold Machine.imprint Machine.modifyJournal
  rw [clock]
  rfl

theorem beside_modify_stack (beside : Beside setting host machine counterpart) (number : Nat)
    (change : Cycle.Stack → Cycle.Stack) :
    Beside setting host (machine.modifyStack number change)
      (counterpart.modifyStack number change) := by
  refine ⟨?_, beside.faults, beside.bare, beside.sound.present, beside.sound.backs⟩
  rw [Machine.imprint_modify_stack, Machine.imprint_modify_stack, beside.imprint, beside.cycles]

end States

section Runs

variable {α β γ ε : Type}

/-- A result that is on its way, and has the expected content if it came about without a fault. -/
def Lawful (setting : Setting) (host : Nat) (view : α → Option γ)
    (expected : Option γ) (before : Machine) :
    Result Machine α → Prop
  | .done value after =>
    Onward setting host before after ∧
      ∃ content, view value = some content ∧
      (after.faults host = before.faults host → expected = some content)
  | .raised _ after => Onward setting host before after
  | .exhausted => True

structure Faithful (setting : Setting) (host : Nat) (view : α → Option γ) (expected : Option γ)
    (run other : Run Machine α) : Prop where
  lawful : ∀ machine, Sound setting host machine →
    Lawful setting host view expected machine (run machine)
  matched : ∀ machine counterpart, Beside setting host machine counterpart → ∀ value after,
    run machine = .done value after → after.faults host = machine.faults host →
      ∃ answer later, other counterpart = .done answer later ∧ Beside setting host after later ∧
        view answer = view value

variable {setting : Setting} {host : Nat} {view : α → Option γ} {expected : Option γ}

/-- What a run does from a later machine on it also does from an earlier one, where what is owed
there is owed here. -/
theorem lawful_after {wanted : Option γ} {before middle : Machine} {result : Result Machine α}
    (onward : Onward setting host before middle)
    (lawful : Lawful setting host view wanted middle result)
    (agrees : middle.faults host = before.faults host → ∀ content, wanted = some content →
      expected = some content) :
    Lawful setting host view expected before result := by
  cases result with
  | exhausted => trivial
  | raised failure after => exact onward.trans lawful
  | done value after =>
      obtain ⟨further, content, known, meant⟩ := lawful
      refine ⟨onward.trans further, content, known, fun clean => ?_⟩
      -- faults are never taken back, so neither part has added one
      have early := onward.faults
      have late := further.faults
      exact agrees (by omega) content (meant (by omega))

theorem faithful_pure {value answer : α} {content : γ} (known : view value = some content)
    (otherKnown : view answer = some content) :
    Faithful setting host view (some content) (pure value) (pure answer) := by
  refine ⟨fun machine _ => ⟨.refl machine, content, known, fun _ => rfl⟩, ?_⟩
  intro machine counterpart beside found after ended _
  cases ended
  exact ⟨answer, counterpart, rfl, beside, otherKnown.trans known.symm⟩

theorem faithful_raise (failure : Failure) (other : Run Machine α) :
    Faithful setting host view expected (Run.raise failure) other :=
  ⟨fun machine _ => .refl machine, fun _ _ _ _ _ ended _ => by cases ended⟩

theorem faithful_bind {following : β → Option ε} {next : γ → Option ε} {run other : Run Machine α}
    {continuation otherContinuation : α → Run Machine β}
    (first : Faithful setting host view expected run other)
    (second : ∀ value answer content, view value = some content → view answer = some content →
      Faithful setting host following (next content) (continuation value)
        (otherContinuation answer)) :
    Faithful setting host following (expected.bind next) (run >>= continuation)
      (other >>= otherContinuation) := by
  constructor
  · intro machine sound
    have lawful := first.lawful machine sound
    change Lawful setting host following (expected.bind next) machine
      (Run.bind run continuation machine)
    unfold Run.bind
    cases ended : run machine with
    | exhausted => trivial
    | raised failure after =>
        rw [ended] at lawful
        exact lawful
    | done value after =>
        rw [ended] at lawful
        obtain ⟨onward, content, known, meant⟩ := lawful
        have continued := (second value value content known known).lawful after (onward.sound sound)
        refine lawful_after onward continued fun clean outcome owed => ?_
        rw [meant clean, Option.bind_some]
        exact owed
  · intro machine counterpart beside result last ended clean
    obtain ⟨value, after, started, continuing⟩ := Run.done_of_bind ended
    have lawful := first.lawful machine beside.sound_left
    rw [started] at lawful
    obtain ⟨onward, content, known, _⟩ := lawful
    have continued :=
      (second value value content known known).lawful after (onward.sound beside.sound_left)
    rw [continuing] at continued
    have early := onward.faults
    have late := continued.1.faults
    obtain ⟨answer, later, answered, besideLater, sameView⟩ :=
      first.matched machine counterpart beside value after started (by omega)
    obtain ⟨reply, closing, replied, besideLast, sameReply⟩ :=
      (second value answer content known (sameView.trans known)).matched after later
        besideLater result last continuing (by omega)
    refine ⟨reply, closing, ?_, besideLast, sameReply⟩
    rw [Run.bind_of_done answered]
    exact replied

theorem faithful_map {following : β → Option ε} {form : α → β} {change : γ → ε}
    {run other : Run Machine α} (faithful : Faithful setting host view expected run other)
    (formed : ∀ value content, view value = some content →
      following (form value) = some (change content)) :
    Faithful setting host following (expected.map change) (run >>= fun value => pure (form value))
      (other >>= fun value => pure (form value)) := by
  rw [Option.map_eq_bind]
  apply faithful_bind faithful
  intro value answer content known otherKnown
  exact faithful_pure (formed value content known) (formed answer content otherKnown)

theorem faithful_then {books otherBooks : Run Machine Unit} {allowed : Option Unit}
    {run other : Run Machine α} (first : Faithful setting host some allowed books otherBooks)
    (second : Faithful setting host view expected run other) :
    Faithful setting host view (allowed.bind fun _ => expected) (books >>= fun _ => run)
      (otherBooks >>= fun _ => other) :=
  faithful_bind first fun _ _ _ _ _ => second

theorem faithful_of_except_bind {outcome : Except Failure β} {next following : β → Run Machine α}
    (continues : ∀ value, outcome = .ok value → Faithful setting host view expected
      (next value) (following value)) :
    Faithful setting host view expected (Run.ofExcept outcome >>= next)
      (Run.ofExcept outcome >>= following) := by
  cases outcome with
  | ok value => exact continues value rfl
  | error failure => exact faithful_raise failure _

/-- A run that never ends without adding a fault owes no content. -/
theorem faithful_of_spoiled {run : Run Machine α} (other : Run Machine α)
    (spoiled : ∀ machine, Sound setting host machine →
      Lawful setting host view none machine (run machine)) :
    Faithful setting host view expected run other := by
  constructor
  · intro machine sound
    exact lawful_after (.refl machine) (spoiled machine sound) fun _ _ => nofun
  · intro machine counterpart beside value after ended clean
    have lawful := spoiled machine beside.sound_left
    rw [ended] at lawful
    obtain ⟨_, _, _, impossible⟩ := lawful
    cases impossible clean

theorem Faithful.spoiled {run other : Run Machine α}
    (faithful : Faithful setting host view none run other)
    (another : Run Machine α) : Faithful setting host view expected run another :=
  faithful_of_spoiled another faithful.lawful

theorem faithful_get_bind {next following : Machine → Run Machine α}
    (continues : ∀ machine counterpart, counterpart.limits = machine.limits →
      Faithful setting host view expected (next machine) (following counterpart)) :
    Faithful setting host view expected (Run.get >>= next) (Run.get >>= following) := by
  constructor
  · intro machine sound
    exact (continues machine machine rfl).lawful machine sound
  · intro machine counterpart beside value after ended clean
    exact (continues machine counterpart beside.limits).matched machine counterpart
      beside value after ended clean

/-- A run of which every failure is caught at the price of a fault. -/
theorem faithful_attempt_bind {run other : Run Machine α} {next : Except Failure α → Run Machine α}
    {following : Except Failure α → Run Machine α}
    (faithful : Faithful setting host view expected run other)
    (passed : ∀ value, next (.ok value) = pure value)
    (otherPassed : ∀ value, following (.ok value) = pure value)
    (caught : ∀ failure, Faithful setting host view none (next (.error failure))
      (next (.error failure))) :
    Faithful setting host view expected (Run.attempt run >>= next)
      (Run.attempt other >>= following) := by
  constructor
  · intro machine sound
    have lawful := faithful.lawful machine sound
    change Lawful setting host view expected machine (Run.bind (Run.attempt run) next machine)
    unfold Run.bind Run.attempt
    cases ended : run machine with
    | exhausted => trivial
    | done value after =>
        rw [ended] at lawful
        dsimp only
        rw [passed]
        exact lawful
    | raised failure reached =>
        rw [ended] at lawful
        have onward : Onward setting host machine reached := lawful
        -- whoever catches the failure records it, so from here on no content is owed
        exact lawful_after onward ((caught failure).lawful reached (onward.sound sound)) fun _ _ =>
          nofun
  · intro machine counterpart beside value last ended clean
    have lawful := faithful.lawful machine beside.sound_left
    change Run.bind (Run.attempt run) next machine = .done value last at ended
    unfold Run.bind Run.attempt at ended
    cases started : run machine with
    | exhausted =>
        rw [started] at ended
        cases ended
    | done inside after =>
        rw [started] at ended
        dsimp only at ended
        rw [passed] at ended
        cases ended
        obtain ⟨answer, later, answered, besideLater, sameView⟩ :=
          faithful.matched machine counterpart beside value last started clean
        refine ⟨answer, later, ?_, besideLater, sameView⟩
        change Run.bind (Run.attempt other) following counterpart = _
        unfold Run.bind Run.attempt
        rw [answered]
        dsimp only
        rw [otherPassed]
        rfl
    | raised failure reached =>
        rw [started] at ended lawful
        have onward : Onward setting host machine reached := lawful
        have recorded : Lawful setting host view none machine (.done value last) := by
          rw [← ended]
          exact lawful_after onward
            ((caught failure).lawful reached (onward.sound beside.sound_left)) fun _ _ => nofun
        obtain ⟨_, _, _, impossible⟩ := recorded
        cases impossible clean

theorem lawful_map_state {before entered : Machine} {change : Machine → Machine}
    {result : Result Machine α} (lawful : Lawful setting host view expected entered result)
    (start : entered.faults host = before.faults host)
    (kept : ∀ after, Onward setting host entered after →
      Onward setting host before (change after) ∧ (change after).faults host = after.faults host) :
    Lawful setting host view expected before (result.mapState change) := by
  cases result with
  | exhausted => trivial
  | raised failure after => exact (kept after lawful).1
  | done value after =>
      obtain ⟨onward, content, known, meant⟩ := lawful
      obtain ⟨whole, same⟩ := kept after onward
      exact ⟨whole, content, known, fun clean => meant (by omega)⟩

theorem matched_map_state {run other : Run Machine α}
    (faithful : Faithful setting host view expected run other)
    {entered counterpart last : Machine} {change : Machine → Machine} {value : α}
    (beside : Beside setting host entered counterpart)
    (kept : ∀ after, (change after).faults host = after.faults host)
    (leaving : ∀ after later, Beside setting host after later →
      Beside setting host (change after) (change later))
    (ended : (run entered).mapState change = .done value last)
      (clean : last.faults host = entered.faults host) :
    ∃ answer later, (other counterpart).mapState change = .done answer later ∧
      Beside setting host last later ∧
      view answer = view value := by
  cases started : run entered with
  | exhausted =>
      rw [started] at ended
      cases ended
  | raised failure after =>
      rw [started] at ended
      cases ended
  | done inside after =>
      rw [started] at ended
      cases ended
      rw [kept] at clean
      obtain ⟨answer, later, answered, besideLater, sameView⟩ :=
        faithful.matched entered counterpart beside value after started clean
      refine ⟨answer, change later, ?_, leaving after later besideLater, sameView⟩
      rw [answered]
      rfl

end Runs

section Bookkeeping

variable {α γ : Type} {setting : Setting} {host : Nat} {view : α → Option γ} {expected : Option γ}

theorem faithful_on_trail (number : Nat) (kind name : String) {run other : Run Machine α}
    (faithful : Faithful setting host view expected run other) :
    Faithful setting host view expected (Machine.onTrail number kind name run)
      (Machine.onTrail number kind name other) := by
  have pushed : ∀ machine : Machine, Onward setting host machine
      (machine.pushStep number kind name) ∧
      (machine.pushStep number kind name).faults host = machine.faults host :=
    onward_modify_trail number fun trail => trail.pushNamed kind name
  have popped : ∀ machine : Machine, Onward setting host machine (machine.popStep number) ∧
      (machine.popStep number).faults host = machine.faults host :=
    onward_modify_trail number Trail.pop
  constructor
  · intro machine sound
    apply lawful_map_state (faithful.lawful _ ((pushed machine).1.sound sound)) (pushed machine).2
    intro after onward
    exact ⟨((pushed machine).1.trans onward).trans (popped after).1, (popped after).2⟩
  · intro machine counterpart beside value last ended clean
    have entered :=
      beside.onward (pushed machine).1 (pushed counterpart).1
        (pushed machine).2 (pushed counterpart).2
    apply matched_map_state faithful entered (fun after => (popped after).2) ?_ ended
    · rw [(pushed machine).2]
      exact clean
    · intro after later beside
      exact beside.onward (popped after).1 (popped later).1 (popped after).2 (popped later).2

/-- A body that leaves the cycle stacks as it found them gives back those that were there before its
key. -/
theorem onward_under_key {number : Nat} {key : String}
    {machine after : Machine} {entered : Cycle.Stack}
    (entry : (machine.stack number).enter machine.limits key = .ok entered)
    (onward : Onward setting host (machine.modifyStack number fun _ => entered) after) :
    Onward setting host machine (after.modifyStack number (Cycle.Stack.leave key)) := by
  obtain ⟨inactive, rfl⟩ := Cycle.Stack.entered_is_pushed entry
  have inside : after.cycleStacks = machine.cycleStacks.modify number fun _ =>
    (machine.stack number).pushed key :=
    congrArg Imprint.cycles onward.imprint
  have restored : after.cycleStacks.modify number (Cycle.Stack.leave key) =
      machine.cycleStacks := by
    rw [inside]
    apply Array.ext_getElem?
    intro index
    rw [Array.getElem?_modify, Array.getElem?_modify]
    split
    · rename_i equal
      subst equal
      -- a number without a stack enters a blank one, which is kept nowhere
      by_cases present : number < machine.cycleStacks.size
      · have found : machine.stack number = machine.cycleStacks[number] := by
          simp [Machine.stack, Array.getElem?_eq_getElem present]
        rw [Array.getElem?_eq_getElem present, Option.map_some, Option.map_some,
          Cycle.Stack.leave_pushed inactive, found]
      · rw [Array.getElem?_eq_none (Nat.le_of_not_lt present)]
        rfl
    · rfl
  refine ⟨?_, onward.faults, onward.memo, fun sound => ?_, onward.others,
    onward.notes, onward.trace⟩
  · rw [Machine.imprint_modify_stack, onward.imprint, Machine.imprint_modify_stack, restored]
    rfl
  · have kept := onward.sound ⟨sound.present, sound.backs⟩
    exact ⟨kept.present, kept.backs⟩

theorem faithful_under_key (number : Nat) (key : String) {run other : Run Machine α}
    (faithful : Faithful setting host view expected run other) :
    Faithful setting host view expected (Machine.underKey number key run)
      (Machine.underKey number key other) := by
  constructor
  · intro machine sound
    unfold Machine.underKey
    cases entry : (machine.stack number).enter machine.limits key with
    | error failure => exact .refl machine
    | ok entered =>
        have inside : Sound setting host (machine.modifyStack number fun _ => entered) :=
          ⟨sound.present, sound.backs⟩
        have start : (machine.modifyStack number fun _ => entered).faults host =
            machine.faults host := rfl
        apply lawful_map_state (faithful.lawful _ inside) start
        intro after onward
        exact ⟨onward_under_key entry onward, rfl⟩
  · intro machine counterpart beside value last ended clean
    have sameStack : counterpart.stack number = machine.stack number := by
      unfold Machine.stack
      rw [beside.cycles]
    unfold Machine.underKey at ended ⊢
    rw [sameStack, beside.limits]
    cases entry : (machine.stack number).enter machine.limits key with
    | error failure =>
        rw [entry] at ended
        cases ended
    | ok entered =>
        rw [entry] at ended
        exact matched_map_state faithful (beside_modify_stack beside number _) (fun _ => rfl)
          (fun _ _ beside => beside_modify_stack beside number _) ended clean

theorem faithful_modify {change : Machine → Machine}
    (onward : ∀ machine, Onward setting host machine (change machine))
    (kept : ∀ machine, (change machine).faults host = machine.faults host) :
    Faithful setting host some (some ()) (Run.modify change) (Run.modify change) := by
  refine ⟨fun machine _ => ⟨onward machine, (), rfl, fun _ => rfl⟩, ?_⟩
  intro machine counterpart beside value after ended clean
  cases ended
  exact ⟨(), change counterpart, rfl,
    beside.onward (onward machine) (onward counterpart) (kept machine) (kept counterpart), rfl⟩

theorem faithful_log (level : LogLevel) (source : LogSource) (message : String) :
    Faithful setting host some (some ()) (Run.modify (Machine.log level source message))
      (Run.modify (Machine.log level source message)) :=
  faithful_modify (onward_modify_journal (fun _ => rfl) (fun _ => rfl) fun _ _ => rfl) fun _ => rfl

theorem onward_add_fault {fault : Fault} {machine : Machine} {sink : Sink Fault}
    (present : host < machine.hosts.size) (added : (machine.host host).sink.add fault = .ok sink) :
    Onward setting host machine (machine.modifyHost host fun state => { state with sink := sink }) ∧
      (machine.modifyHost host fun state => { state with sink := sink }).faults host =
      machine.faults host + 1 := by
  have changed := Machine.host_modify_host_self present fun state => { state with sink := sink }
  have counted : (machine.modifyHost host fun state => { state with sink := sink }).faults host =
      machine.faults host + 1 := by
    unfold Machine.faults
    rw [changed]
    exact Sink.total_add added
  refine ⟨onward_modify_host (fun _ different => same_books_of_ne different machine _) ?_
    (by omega) ?_ ?_, counted⟩
  · rw [changed]
    rfl
  · rw [changed]
  · rw [changed]
    exact id

theorem faithful_add_fault (fault : Fault) (other : Run Machine Unit) :
    Faithful setting host some none (Machine.addFault host fault) other := by
  apply faithful_of_spoiled
  intro machine sound
  unfold Machine.addFault Run.update
  simp only [bind, Except.bind, pure, Except.pure]
  cases added : (machine.host host).sink.add fault with
  | error failure => exact Onward.refl machine
  | ok sink =>
      obtain ⟨onward, counted⟩ : Onward setting host machine _ ∧ _ :=
        onward_add_fault sound.present added
      refine ⟨onward, (), rfl, fun clean => ?_⟩
      omega

theorem faithful_record_fault {environment : Environment} {context : Context}
    (home : context.host = host) (fault : Fault) (other : Run Machine Unit) :
    Faithful setting host some none (recordFault environment context fault) other := by
  subst home
  have recorded : Faithful setting context.host some none (recordFault environment context fault)
      (recordFault environment context fault) := by
    apply faithful_get_bind
    intro machine counterpart _
    have logged : Faithful setting context.host some (some ())
        (if (environment context.host).logErrors then Run.modify
          (Machine.log .error .evaluate fault.text) else pure ())
        (if (environment context.host).logErrors then Run.modify
          (Machine.log .error .evaluate fault.text) else pure ()) := by
      split
      · exact faithful_log _ _ _
      · exact faithful_pure rfl rfl
    exact faithful_then (faithful_add_fault _ _) logged
  exact recorded.spoiled other

theorem faithful_not_found {environment : Environment} {context : Context}
    (home : context.host = host)
    (name type message : String) (expected : Option Content) (other : Run Machine Value) :
    Faithful setting host Value.content? expected
      (notFound environment context name type message) other := by
  have spoiled : Faithful setting host Value.content? none
      (notFound environment context name type message)
      (notFound environment context name type message) :=
    faithful_then (faithful_log _ _ _)
      (faithful_then (faithful_record_fault home _ _)
        (faithful_pure Value.content_of_null Value.content_of_null))
  exact spoiled.spoiled other

theorem faithful_of_agrees {outcome answer : Except Failure Value} {expected : Option Content}
    (agrees : Value.Agrees outcome expected) (otherAgrees : Value.Agrees answer expected) :
    Faithful setting host Value.content? expected (Run.ofExcept outcome) (Run.ofExcept answer) := by
  cases outcome with
  | error failure => exact faithful_raise failure _
  | ok value =>
      obtain ⟨content, known, rfl⟩ := agrees
      cases answer with
      | error failure => cases otherAgrees
      | ok reply =>
          obtain ⟨other, otherKnown, same⟩ := otherAgrees
          cases same
          exact faithful_pure known otherKnown

end Bookkeeping
end Evaluate
end Interplay
