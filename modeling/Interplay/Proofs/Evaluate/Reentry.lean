import Interplay.Proofs.Evaluate.Nesting
import Interplay.Proofs.Value.Quotation

/-!
Calls that are refused as cycles.

An evaluation is told the calls that it goes on inside of, across closures and handlers.  A cycle
stack holds a key for each of them, made of the label of the call and the fingerprint of its
arguments.  So where a call is refused as a cycle, it goes on inside of a call by the same label and
with the same fingerprint; that call is of the same definition if labels tell definitions apart.
-/

namespace Interplay
namespace Evaluate

/-- Whether both are the same formula of the component or the same registered definition. -/
def Callee.isSame : Callee → Callee → Bool
  | component name, component other => name == other
  | registered package name, registered other otherName => package.same other && name == otherName
  | _, _ => false

/-- The labels of calls from contexts of one host tell their callees apart. -/
def TellsApart (environment : Environment) : Prop :=
  ∀ host label (running asked : Callee), running.HasLabel environment host label →
    asked.HasLabel environment host label → running.isSame asked = true

/-- A call that goes on, or is about to, with a cycle stack to be refused by. -/
structure Calling where
  stack : Nat
  host : Nat
  callee : Callee
  label : String
  fingerprint : String

namespace Calling

def key (calling : Calling) : String :=
  calling.label ++ "#" ++ calling.fingerprint

/-- Whether both calls have one label and arguments of one fingerprint, on one stack. -/
def sharesLabel (running asked : Calling) : Bool :=
  running.stack == asked.stack && running.host == asked.host && running.label == asked.label &&
    running.fingerprint == asked.fingerprint

/-- Whether both are calls of one definition with arguments of one fingerprint, on one stack. -/
def isSame (running asked : Calling) : Bool :=
  running.stack == asked.stack && running.host == asked.host &&
    running.callee.isSame asked.callee && running.fingerprint == asked.fingerprint

/-- A call that evaluation can come to, where each stack belongs to a host. -/
structure IsReal (environment : Environment) (owner : Nat → Nat) (calling : Calling) : Prop where
  owned : calling.host = owner calling.stack
  labelled : calling.callee.HasLabel environment calling.host calling.label
  printed : ∃ arguments : Entries, arguments.fingerprint = some calling.fingerprint

theorem key_injective {environment : Environment} {owner : Nat → Nat} {running asked : Calling}
    (there : running.IsReal environment owner) (here : asked.IsReal environment owner)
    (same : running.key = asked.key) : running.label = asked.label ∧
    running.fingerprint = asked.fingerprint := by
  obtain ⟨arguments, printed⟩ := there.printed
  obtain ⟨others, otherPrinted⟩ := here.printed
  exact Text.hash_append_inj (Entries.balanced_fingerprint printed)
    (Entries.balanced_fingerprint otherPrinted) same

end Calling

section Amid

variable (environment : Environment) (blames : Calling → Calling → Bool)

/-- A call is let in as far as its key goes, or one that goes on around it is to blame. -/
def isDue (around : List Calling) (asked : Calling) (machine : Machine) : Bool :=
  !(machine.stack asked.stack).isActive asked.key || around.any fun running => blames running asked

/-- Holds the key of a call, and breaks off where the call is refused as a cycle without anything to
blame. -/
def callDue {α : Type} (around : List Calling) (asked : Calling) (body : Run Machine α) :
    Run Machine α :=
  fun machine =>
    if isDue blames around asked machine then Machine.underKey asked.stack asked.key body machine
    else .exhausted

def enterAmid (smaller : List Calling → Evaluator) (around : List Calling) (depth : Value) (context : Context)
    (entrance : Entrance) : Run Machine Value :=
  Machine.onTrail context.trailHost "formula" entrance.label <|
    match entrance.fingerprint with
    | none => evaluateBelow (smaller around) context depth entrance.body
    | some content =>
      let asked : Calling :=
        { stack := context.stack, host := context.host, callee := entrance.callee, label := entrance.label
          fingerprint := content }
      callDue blames around asked (evaluateBelow (smaller (asked :: around)) context depth entrance.body)

def nodeAmid (smaller : List Calling → Evaluator) (around : List Calling) : Evaluator := fun formula context depth =>
  evaluateBy environment context depth
    (dispatchBy environment (smaller around) (enterAmid blames smaller around depth) context depth formula) formula

/-- Evaluation that is told the calls that it goes on inside of, with fuel for the nesting of
nodes. -/
def evaluatorAmid : Nat → List Calling → Evaluator
  | 0, _ => fun _ _ _ => Run.exhaust
  | fuel + 1, around => nodeAmid environment blames (evaluatorAmid fuel) around

end Amid

end Evaluate

namespace Machine

open Evaluate

/-- Every closure finds on its cycle stack the host that the stack belongs to. -/
def IsOwned (owner : Nat → Nat) (machine : Machine) : Prop :=
  ∀ (handle : Nat) closure, machine.closures[handle]? = some closure →
    closure.context.host = owner closure.context.stack

theorem owned_new_closure {owner : Nat → Nat} {machine : Machine}
    (owned : machine.IsOwned owner) {closure : Closure}
    (home : closure.context.host = owner closure.context.stack) :
    (machine.newClosure closure).2.IsOwned owner := by
  intro handle held found
  change (machine.closures.push closure)[handle]? = some held at found
  rw [Array.getElem?_push] at found
  split at found
  · cases found
    exact home
  · exact owned handle held found

/-- No cycle stack holds a key. -/
def IsIdle (machine : Machine) : Prop :=
  ∀ stack ∈ machine.cycleStacks, stack.active = []

/-- A machine after some work: its trails and cycle stacks are what they were. -/
structure Held (owner : Nat → Nat) (origin machine : Machine) : Prop where
  restored : origin.Restored machine
  owned : machine.IsOwned owner

/-- What the cycle stacks hold goes on around. -/
structure Accounts (environment : Environment) (owner : Nat → Nat)
    (around : List Calling) (machine : Machine) :
    Prop where
  active : ∀ number key, (machine.stack number).isActive key = true →
    ∃ calling ∈ around, calling.stack = number ∧ calling.key = key
  real : ∀ calling ∈ around, calling.IsReal environment owner

theorem held_tolerant (owner : Nat → Nat) (origin : Machine) (number : Nat) :
    Tolerant number (Held owner origin) := by
  intro before after booked held
  refine ⟨restored_tolerant origin number before after booked held.restored, ?_⟩
  unfold IsOwned
  rw [booked.closures]
  exact held.owned

variable {environment : Environment} {owner : Nat → Nat} {around : List Calling} {machine : Machine}

namespace Accounts

theorem of_idle (environment : Environment) (owner : Nat → Nat) (idle : machine.IsIdle) :
    machine.Accounts environment owner [] where
  active number key active := by
    have nothing : (machine.stack number).active = [] := by
      unfold stack
      cases found : machine.cycleStacks[number]? with
      | none => rfl
      | some stack => exact idle stack (Array.mem_of_getElem? found)
    unfold Cycle.Stack.isActive at active
    rw [nothing] at active
    cases active
  real := nofun

theorem of_restored {after : Machine} (accounts : machine.Accounts environment owner around)
    (restored : machine.Restored after) : after.Accounts environment owner around where
  active number key := by
    have same : after.stack number = machine.stack number := by
      unfold stack
      rw [restored.cycles]
    rw [same]
    exact accounts.active number key
  real := accounts.real

theorem enter (accounts : machine.Accounts environment owner around) {asked : Calling}
    (real : asked.IsReal environment owner) :
    (machine.modifyStack asked.stack fun _ => (machine.stack asked.stack).pushed asked.key).Accounts
    environment owner
      (asked :: around) where
  active number key active := by
    have before : (machine.stack number).isActive key = true →
        ∃ calling ∈ asked :: around, calling.stack = number ∧ calling.key = key := by
      intro known
      obtain ⟨calling, member, same⟩ := accounts.active number key known
      exact ⟨calling, List.mem_cons_of_mem _ member, same⟩
    rcases machine.stack_modify_cases asked.stack number
      ((machine.stack asked.stack).pushed asked.key) with
      same | ⟨rfl, same⟩
    · rw [same] at active
      exact before active
    · rw [same] at active
      rcases Cycle.Stack.is_active_pushed active with rfl | known
      · exact ⟨asked, List.mem_cons_self, rfl, rfl⟩
      · exact before known
  real := List.forall_mem_cons.mpr ⟨real, accounts.real⟩

end Accounts

end Machine

namespace Evaluate

open Run

/-- Whoever holds the key of a call on its stack is to blame for its refusal. -/
def Blames (environment : Environment) (owner : Nat → Nat) (blames : Calling → Calling → Bool) :
    Prop :=
  ∀ running asked : Calling, running.IsReal environment owner → asked.IsReal environment owner →
    running.stack = asked.stack → running.key = asked.key → blames running asked = true

theorem shares_label_blames (environment : Environment) (owner : Nat → Nat) :
    Blames environment owner Calling.sharesLabel := by
  intro running asked there here stack key
  have hosts : running.host = asked.host := by rw [there.owned, here.owned, stack]
  obtain ⟨label, fingerprint⟩ := Calling.key_injective there here key
  simp [Calling.sharesLabel, stack, hosts, label, fingerprint]

theorem is_same_blames {environment : Environment}
    (apart : TellsApart environment) (owner : Nat → Nat) :
    Blames environment owner Calling.isSame := by
  intro running asked there here stack key
  have hosts : running.host = asked.host := by rw [there.owned, here.owned, stack]
  obtain ⟨label, fingerprint⟩ := Calling.key_injective there here key
  have labelled := there.labelled
  rw [hosts, label] at labelled
  simp [Calling.isSame, stack, hosts, apart _ _ _ _ labelled here.labelled, fingerprint]

section Runs

variable {environment : Environment} {owner : Nat → Nat}
  {blames : Calling → Calling → Bool} {origin : Machine} {around : List Calling}

theorem is_due (blamed : Blames environment owner blames) {machine : Machine}
    (accounts : machine.Accounts environment owner around) {asked : Calling}
    (real : asked.IsReal environment owner) : isDue blames around asked machine = true := by
  unfold isDue
  cases active : (machine.stack asked.stack).isActive asked.key with
  | false => rfl
  | true =>
      obtain ⟨running, member, stack, key⟩ := accounts.active _ _ active
      have found : around.any (fun running => blames running asked) = true :=
        List.any_eq_true.mpr
          ⟨running, member, blamed running asked (accounts.real running member) real stack key⟩
      simp [found]

def NodesAccount (environment : Environment) (owner : Nat → Nat) (evaluator : Evaluator)
    (amid : List Calling → Evaluator) : Prop :=
  ∀ (origin : Machine) around, origin.Accounts environment owner around → ∀ formula context depth,
    context.host = owner context.stack →
      Tracks True (Machine.Held owner origin) (evaluator formula context depth)
        (amid around formula context depth)

variable {evaluator : Evaluator} {amid : List Calling → Evaluator}
  (account : NodesAccount environment owner evaluator amid)
  (accounts : origin.Accounts environment owner around)

include account accounts

theorem tracks_invoke_amid (handle : Nat) (arguments : Value) :
    Tracks True (Machine.Held owner origin) (invoke evaluator handle arguments)
      (invoke (amid around) handle arguments) := by
  apply tracks_invoke
  · exact fun machine closure _ _ => Machine.held_tolerant owner origin closure.context.host
  · intro machine closure inner below formula held found home _ _
    apply account origin around accounts
    rw [home.host, home.stack]
    exact held.owned handle closure found

variable (blamed : Blames environment owner blames) {context : Context}
  (home : context.host = owner context.stack) (depth : Value)

include home

theorem tracks_below_amid (formula : Option Formula) :
    Tracks True (Machine.Held owner origin) (evaluateBelow evaluator context depth formula)
      (evaluateBelow (amid around) context depth formula) :=
  tracks_below (fun below _ present => account origin around accounts present context below home)
    formula

theorem tracks_handler_amid (handler : FormulaHandler) (arguments : Arguments) :
    Tracks True (Machine.Held owner origin)
      (callHandler environment evaluator context handler arguments)
      (callHandler environment (amid around) context handler arguments) := by
  intro machine held
  have tolerant := Machine.held_tolerant owner origin context.host
  refine tracks_routine tolerant (fun (_ : True) handle inputs => ?_)
    (fun (_ : True) level source => ?_)
    (Routine.confined_of_permitted trivial trivial _) machine held
  · exact tracks_invoke_amid account accounts handle inputs
  · exact tracks_source tolerant
      (fun formula => account origin around accounts formula context level home) source

include blamed

/-- A call is refused for a reason, and goes on around its body. -/
theorem tracks_call_due {asked : Calling} (real : asked.IsReal environment owner)
    (body : Option Formula) :
    Tracks True (Machine.Held owner origin)
      (Machine.underKey asked.stack asked.key (evaluateBelow evaluator context depth body))
      (callDue blames around asked
        (evaluateBelow (amid (asked :: around)) context depth body)) := by
  intro machine held
  have here := accounts.of_restored held.restored
  unfold callDue
  rw [if_pos (is_due blamed here real)]
  unfold Machine.underKey
  cases entry : (machine.stack asked.stack).enter machine.limits asked.key with
  | error failure => exact ⟨rfl, held⟩
  | ok entered =>
      have inside := here.enter real
      rw [← (Cycle.Stack.entered_is_pushed entry).2] at inside
      have inner := tracks_below_amid account inside home depth body _ ⟨.refl _, held.owned⟩
      exact Result.tracks_map_state inner fun after left =>
        ⟨held.restored.trans (left.restored.leave entry), left.owned⟩

theorem tracks_enter_amid (entrance : Entrance) (real : entrance.IsReal environment context.host) :
    Tracks True (Machine.Held owner origin) (enterGuarded evaluator depth context entrance)
      (enterAmid blames amid around depth context entrance) := by
  intro machine held
  let pushed := machine.pushStep context.trailHost "formula" entrance.label
  have inside : pushed.Accounts environment owner around :=
    { active := (accounts.of_restored held.restored).active, real := accounts.real }
  have start : Machine.Held owner pushed pushed := ⟨.refl pushed, held.owned⟩
  refine Result.tracks_map_state ?_ fun after (left : pushed.Held owner after) =>
    ⟨held.restored.trans left.restored.pop, left.owned⟩
  obtain ⟨callee, label, fingerprint, body⟩ := entrance
  cases fingerprint with
  | none => exact tracks_below_amid account inside home depth body pushed start
  | some content =>
      let asked : Calling := ⟨context.stack, context.host, callee, label, content⟩
      have called : asked.IsReal environment owner := ⟨home, real.labelled, real.printed⟩
      exact tracks_call_due account inside blamed home depth called body pushed start

theorem tracks_node_amid (formula : Formula) :
    Tracks True (Machine.Held owner origin) (evaluateWith environment evaluator formula context depth)
      (nodeAmid environment blames amid around formula context depth) := by
  have tolerant := Machine.held_tolerant owner origin context.host
  rw [evaluate_with_eq, dispatch_eq]
  refine tracks_evaluate_by tolerant (fun _ _ _ => tracks_dispatch_by ?_ formula) formula
  refine ⟨⟨fun formula machine held => ?_, tracks_below_amid account accounts home depth⟩, tolerant,
    fun inner entrance same real => ?_,
    fun handler arguments _ => tracks_handler_amid account accounts home handler arguments⟩
  · exact ⟨⟨held.restored.trails, held.restored.cycles⟩, Machine.owned_new_closure held.owned home⟩
  · have near : inner.host = owner inner.stack := by
      rw [same.host, same.stack]
      exact home
    rw [← same.host] at real
    exact tracks_enter_amid account accounts blamed near depth entrance real

end Runs

theorem nodes_account {environment : Environment} {owner : Nat → Nat} {blames : Calling → Calling → Bool}
    (blamed : Blames environment owner blames) (fuel : Nat) :
    NodesAccount environment owner (evaluateNode environment fuel) (evaluatorAmid environment blames fuel) := by
  induction fuel with
  | zero => exact fun _ _ _ _ _ _ _ => tracks_exhaust trivial _
  | succ fuel ih =>
      intro origin around accounts formula context depth home
      exact tracks_node_amid ih accounts blamed home depth formula

/-- What host code can ask of formulas. -/
inductive Inquiry where
  | evaluate (formula : Option Formula) (context : Context) (depth : Value)
  | persisted (source : Value) (context : Context) (depth : Value)
  | invoke (handle : Nat) (arguments : Value)

namespace Inquiry

def run (evaluator : Evaluator) : Inquiry → Run Machine Value
  | evaluate formula context depth => evaluateTop evaluator context depth formula
  | persisted source context depth => evaluateSource evaluator context depth source
  | invoke handle arguments => Evaluate.invoke evaluator handle arguments

/-- The context of an inquiry, if it names one, is of the host that its cycle stack belongs to. -/
def IsAtHome (owner : Nat → Nat) : Inquiry → Prop
  | evaluate _ context _ => context.host = owner context.stack
  | persisted _ context _ => context.host = owner context.stack
  | invoke _ _ => True

end Inquiry

/-- Inquiries one after the other; one that fails does not stop the others. -/
def inquire (evaluator : Evaluator) (inquiries : List Inquiry) :
    Run Machine (List (Except Failure Value)) :=
  Run.collect (fun inquiry => Run.attempt (inquiry.run evaluator)) inquiries

theorem tracks_inquiry {environment : Environment} {owner : Nat → Nat}
    {origin : Machine} {around : List Calling}
    {evaluator : Evaluator} {amid : List Calling → Evaluator}
    (account : NodesAccount environment owner evaluator amid)
    (accounts : origin.Accounts environment owner around) {inquiry : Inquiry}
    (home : inquiry.IsAtHome owner) :
    Tracks True (Machine.Held owner origin) (inquiry.run evaluator)
      (inquiry.run (amid around)) := by
  cases inquiry with
  | evaluate formula context depth =>
      exact tracks_evaluate_top (Machine.held_tolerant owner origin _) fun present _ =>
        account origin around accounts present context depth home
  | persisted source context depth =>
      exact tracks_source (Machine.held_tolerant owner origin _)
        (fun present => account origin around accounts present context depth home) source
  | invoke handle arguments => exact tracks_invoke_amid account accounts handle arguments

/-- However inquiries follow each other, from a machine whose cycle stacks are empty: a call is
refused as a cycle only where it goes on inside of one by the same label and with the same
fingerprint, and that is a call of the same definition where labels tell definitions apart.  In the
end the cycle stacks are empty. -/
theorem cycles_are_due (environment : Environment) (fuel : Nat) (inquiries : List Inquiry) {owner : Nat → Nat}
    {machine last : Machine} (idle : machine.IsIdle) (owned : machine.IsOwned owner)
    (home : ∀ inquiry ∈ inquiries, inquiry.IsAtHome owner)
    (ended : (inquire (evaluateNode environment fuel) inquiries machine).state? = some last) :
    inquire (evaluatorAmid environment Calling.sharesLabel fuel []) inquiries machine =
        inquire (evaluateNode environment fuel) inquiries machine ∧
      (TellsApart environment →
        inquire (evaluatorAmid environment Calling.isSame fuel []) inquiries machine =
          inquire (evaluateNode environment fuel) inquiries machine) ∧
      last.IsIdle := by
  have accounts := Machine.Accounts.of_idle environment owner idle
  have tracks : ∀ blames, Blames environment owner blames →
      (inquire (evaluateNode environment fuel) inquiries machine).Tracks True (Machine.Held owner machine)
        (inquire (evaluatorAmid environment blames fuel []) inquiries machine) := by
    intro blames blamed
    have account := nodes_account blamed fuel
    refine tracks_collect_of_mem (fun inquiry member => ?_) machine ⟨.refl machine, owned⟩
    exact tracks_attempt (tracks_inquiry account accounts (home inquiry member))
  obtain ⟨same, held⟩ := Result.settled_of_tracks (tracks _ (shares_label_blames environment owner)) ended
  refine ⟨same, fun apart => (Result.settled_of_tracks (tracks _ (is_same_blames apart owner)) ended).1, ?_⟩
  intro stack member
  rw [held.restored.cycles] at member
  exact idle stack member

/-- One component, whose formula calls itself. -/
def ringing : Environment := fun _ =>
  { formulas := .empty
    component := some (Component.ofFormulas "Bell"
      [("ring", { name := .text "ring", formula := some (.apply "ring" []), arguments := [], memoize := false,
                  isExposed := false })])
    logErrors := false }

theorem ringing_tells_apart : TellsApart ringing := by
  have label : ∀ {host label callee}, Callee.HasLabel ringing host label callee →
      ∃ name, callee = .component name ∧ label = "Bell/" ++ name := by
    intro host label callee labelled
    cases callee with
    | component name =>
        obtain ⟨component, definition, present, _, written⟩ := labelled
        cases present
        exact ⟨name, rfl, written⟩
    | registered package name =>
        obtain ⟨asked, definition, resolved, _⟩ := labelled
        rcases Catalog.resolve_cases resolved with ⟨entry, holder, _, _, _, _, inside, _⟩ |
          ⟨key, entry, same, _⟩
        · cases inside
        · cases same
  intro host shared running asked there here
  obtain ⟨name, rfl, written⟩ := label there
  obtain ⟨other, rfl, again⟩ := label here
  have names : name = other := (String.append_right_inj _).mp (written.symm.trans again)
  simp [Callee.isSame, names]

def ringTwice : List Inquiry :=
  List.replicate 2 (.evaluate (some (.apply "ring" [])) (Context.lone (.mapping [])) (.int 0))

theorem rings_are_refused_duly :
    (inquire (evaluateNode ringing 3) ringTwice (Machine.lone Limits.standard 5)).state?.map (fun last =>
        (last.host 0).sink.kept.map Fault.text) =
      some (List.replicate 2
        "Circular formula reference detected: formula:Bell/ring#\x7b\x7d → formula:Bell/ring#\x7b\x7d") ∧
      ∀ last, (inquire (evaluateNode ringing 3) ringTwice (Machine.lone Limits.standard 5)).state? = some last →
        inquire (evaluatorAmid ringing Calling.isSame 3 []) ringTwice (Machine.lone Limits.standard 5) =
          inquire (evaluateNode ringing 3) ringTwice (Machine.lone Limits.standard 5) := by
  have idle : (Machine.lone Limits.standard 5).IsIdle := by
    intro stack member
    obtain rfl := List.mem_singleton.mp (Array.mem_toList_iff.mpr member)
    rfl
  have owned : (Machine.lone Limits.standard 5).IsOwned fun _ => 0 := nofun
  have home : ∀ inquiry ∈ ringTwice, inquiry.IsAtHome fun _ => 0 := by
    intro inquiry member
    obtain ⟨_, rfl⟩ := List.mem_replicate.mp member
    rfl
  exact ⟨by decide +kernel, fun _ ended =>
    (cycles_are_due ringing 3 ringTwice idle owned home ended).2.1 ringing_tells_apart⟩

/-- Two definitions that are registered by different names, and have the same name of their own.
The first one calls the second one. -/
def namesakes : Environment := fun _ =>
  { formulas := { packages := [(Catalog.root, [
      (.text "outer", some (.definition
        { name := .text "shared", formula := some (.function "inner" [] .null), arguments := [] })),
      (.text "inner", some (.definition
        { name := .text "shared", formula := some (.value (.int 1)), arguments := [] }))])], legacy := [] }
    component := none
    logErrors := false }

def outer : List Inquiry :=
  [.evaluate (some (.function "outer" [] .null)) (Context.lone (.mapping [])) (.int 0)]

/-- The second definition is refused because the first one is being evaluated; without that it would
give a number. -/
theorem namesakes_are_confused :
    (inquire (evaluateNode namesakes 3) outer (Machine.lone Limits.standard 5)).state?.map (fun last =>
        (last.host 0).sink.kept.map Fault.text) =
      some ["Circular formula reference detected: formula:/shared#\x7b\x7d → formula:/shared#\x7b\x7d"] ∧
      (inquire (evaluatorAmid namesakes Calling.isSame 3 []) outer (Machine.lone Limits.standard 5)).state?.isNone =
        true := by
  decide +kernel

end Evaluate
end Interplay
