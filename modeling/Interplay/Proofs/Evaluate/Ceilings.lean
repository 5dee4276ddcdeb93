import Interplay.Proofs.Cycle.Raising
import Interplay.Proofs.Evaluate.Lockstep

/-!
Evaluations under raised ceilings.

A rehearsal is a run under the low ceilings whose sinks start empty and have room for what is to
come.  As long as its sinks drop nothing and keep no fault of a ceiling, the same happens under the
raised ceilings, with the sinks as they are: these take, in the same order, what the sinks of the
rehearsal took.
-/

namespace Interplay

open Run

namespace Sink

variable {α : Type} {item : α} {sink taken after : Sink α}

/-- Adds an item; a capacity that cannot be compared with keeps it out. -/
def keep (sink : Sink α) (item : α) : Sink α :=
  match sink.add item with
  | .ok after => after
  | .error _ => sink

def replay (taken sink : Sink α) : Sink α :=
  { taken.kept.foldl keep sink with dropped := (taken.kept.foldl keep sink).dropped +
    taken.dropped }

theorem replay_empty (capacity : Value) (sink : Sink α) :
    (ofCapacity capacity).replay sink = sink :=
  rfl

theorem add_keep (counting : sink.IsCounting) (item : α) :
    sink.add item = .ok (sink.keep item) := by
  obtain ⟨after, added⟩ := add_of_is_counting counting item
  unfold keep
  rw [added]

theorem fold_keep (counting : sink.IsCounting) (items : List α) :
    (items.foldl keep sink).IsCounting ∧ (items.foldl keep sink).total =
    sink.total + items.length := by
  induction items generalizing sink with
  | nil => exact ⟨counting, rfl⟩
  | cons item rest ih =>
      have added := add_keep counting item
      have still : (sink.keep item).IsCounting := by
        unfold IsCounting at counting ⊢
        rw [capacity_add added]
        exact counting
      refine ⟨(ih still).1, ?_⟩
      rw [List.foldl_cons, (ih still).2, total_add added, List.length_cons]
      omega

theorem total_replay (counting : sink.IsCounting) (taken : Sink α) :
    (taken.replay sink).total = sink.total + taken.total := by
  have fold := (fold_keep counting taken.kept).2
  unfold total at fold ⊢
  unfold replay
  dsimp only
  omega

/-- How many items were dropped does not decide what becomes of the next one. -/
theorem add_with_dropped (sink : Sink α) (more : Nat) (item : α) :
    add item { sink with dropped := sink.dropped + more } =
      (sink.add item).map fun after => { after with dropped := after.dropped + more } := by
  have full : isFull { sink with dropped := sink.dropped + more } = sink.isFull := rfl
  unfold add
  rw [full]
  cases sink.isFull with
  | error failure => rfl
  | ok full =>
      cases full with
      | true =>
          exact congrArg (fun dropped => Except.ok { sink with dropped := dropped })
            (Nat.add_right_comm _ _ _)
      | false => rfl

theorem add_cases (added : sink.add item = .ok after) :
    after = { sink with dropped := sink.dropped + 1 } ∨
    after = { sink with kept := sink.kept ++ [item] } := by
  unfold add at added
  split at added
  · cases added
  · cases added
    exact .inl rfl
  · cases added
    exact .inr rfl

/-- Unless the other sink drops an item, both go on alike. -/
theorem add_replay (counting : sink.IsCounting) (taken : Sink α) (item : α) :
    (taken.replay sink).add item = .ok
    (replay { taken with kept := taken.kept ++ [item] } sink) := by
  have folded := add_keep (fold_keep counting taken.kept).1 item
  unfold replay
  rw [add_with_dropped, folded, List.foldl_append]
  rfl

end Sink

/-- Whether the sink of a host dropped a fault, or keeps one that says that something was cut. -/
def HostState.isCut (state : HostState) : Bool :=
  state.sink.dropped != 0 || state.sink.kept.any Fault.isCut

/-- A fault that a ceiling made, and a fault that is dropped, make a host cut; it stays so. -/
theorem HostState.is_cut_add {state : HostState} {fault : Fault} {sink : Sink Fault}
    (added : state.sink.add fault = .ok sink)
    (cut : state.isCut = true ∨ fault.isCut = true ∨
      sink = { state.sink with dropped := state.sink.dropped + 1 }) :
    ({ state with sink := sink } : HostState).isCut = true := by
  unfold isCut at cut ⊢
  rw [Bool.or_eq_true, bne_iff_ne] at cut ⊢
  rcases Sink.add_cases added with rfl | rfl
  · exact .inl (Nat.succ_ne_zero _)
  · dsimp only
    rw [List.any_append, Bool.or_eq_true]
    rcases cut with (dropped | kept) | cut | dropped
    · exact .inl dropped
    · exact .inr (.inl kept)
    · exact .inr (.inr (by simp [cut]))
    · exact absurd (congrArg Sink.dropped dropped).symm (Nat.succ_ne_self _)

namespace Machine

def isCut (machine : Machine) : Bool :=
  machine.hosts.any HostState.isCut

theorem is_cut_iff (machine : Machine) :
    machine.isCut = true ↔
      ∃ (number : Nat) (state : HostState), machine.hosts[number]? = some state ∧
      state.isCut = true := by
  unfold isCut
  rw [Array.any_eq_true]
  constructor
  · rintro ⟨number, bound, cut⟩
    exact ⟨number, _, Array.getElem?_eq_getElem bound, cut⟩
  · rintro ⟨number, state, found, cut⟩
    obtain ⟨bound, rfl⟩ := Array.getElem?_eq_some_iff.mp found
    exact ⟨number, bound, cut⟩

theorem hosts_modify_host (number index : Nat)
    (change : HostState → HostState) (machine : Machine) :
    (machine.modifyHost number change).hosts[index]? =
      if number = index then (machine.hosts[index]?).map change else machine.hosts[index]? :=
  Array.getElem?_modify

theorem is_cut_of_modified {machine : Machine} {number : Nat} {state : HostState}
    {change : HostState → HostState}
    (present : machine.hosts[number]? = some state) (cut : (change state).isCut = true) :
    (machine.modifyHost number change).isCut = true := by
  refine (is_cut_iff _).mpr ⟨number, change state, ?_, cut⟩
  rw [hosts_modify_host, if_pos rfl, present]
  rfl

theorem is_cut_modify_host {machine : Machine} (number : Nat) {change : HostState → HostState}
    (cut : machine.isCut = true)
    (keeps : ∀ state, machine.hosts[number]? = some state → state.isCut = true →
      (change state).isCut = true) :
    (machine.modifyHost number change).isCut = true := by
  obtain ⟨index, state, found, shown⟩ := (is_cut_iff machine).mp cut
  by_cases own : number = index
  · subst own
    exact is_cut_of_modified found (keeps state found shown)
  · refine (is_cut_iff _).mpr ⟨index, state, ?_, shown⟩
    rw [hosts_modify_host, if_neg own, found]

/-- The same machine with empty sinks that have some room. -/
def rehearsing (room : Int) (machine : Machine) : Machine :=
  { machine with hosts := machine.hosts.map fun state =>
    { state with sink := Sink.ofCapacity (.int room) } }

end Machine

/-- A rehearsal under low ceilings: how many hosts it has, how much room is in their sinks, and the
sinks and ceilings that the run itself has. -/
structure Rehearsal where
  size : Nat
  room : Int
  low : Limits
  high : Limits
  sinks : Nat → Sink Fault

namespace Rehearsal

variable (rehearsal : Rehearsal)

def performHost (number : Nat) (state : HostState) : HostState :=
  { state with sink := state.sink.replay (rehearsal.sinks number) }

def perform (machine : Machine) : Machine :=
  { machine with limits := rehearsal.high, hosts := machine.hosts.mapIdx rehearsal.performHost }

structure Governs (machine : Machine) : Prop where
  limits : machine.limits = rehearsal.low
  size : machine.hosts.size = rehearsal.size
  rooms : ∀ number, number < rehearsal.size →
    (machine.host number).sink.capacity = .int rehearsal.room
  handles : ∀ (handle : Nat) closure, machine.closures[handle]? = some closure →
    closure.context.host < rehearsal.size

def pairing : Pairing Machine Machine where
  twin machine another := rehearsal.Governs machine ∧ another = rehearsal.perform machine
  excused machine := machine.isCut = true
  lost := True
  lenient _ _ _ _ := trivial

def pardons : Failure → Prop :=
  fun failure => ∃ fault, failure = .fault fault ∧ fault.isCut = true

/-- Raised ceilings, and sinks that take every fault. -/
structure IsSound : Prop where
  raises : rehearsal.low.RaisesTo rehearsal.high
  capacities : ∀ number, number < rehearsal.size → (rehearsal.sinks number).IsCounting

section Accords

variable {rehearsal : Rehearsal} {machine another : Machine}

theorem Governs.present (governs : rehearsal.Governs machine) {number : Nat}
    (bound : number < rehearsal.size) :
    machine.hosts[number]? = some (machine.host number) := by
  have size : number < machine.hosts.size := governs.size ▸ bound
  unfold Machine.host
  rw [Array.getElem?_eq_getElem size]
  rfl

theorem perform_host (number : Nat) {state : HostState}
    (found : machine.hosts[number]? = some state) :
    (rehearsal.perform machine).host number = rehearsal.performHost number state := by
  unfold Machine.host perform
  rw [Array.getElem?_mapIdx, found]
  rfl

theorem perform_host_sink (rehearsal : Rehearsal) (machine : Machine) (number : Nat) :
    ∃ sink, (rehearsal.perform machine).host number =
    { machine.host number with sink := sink } := by
  cases found : machine.hosts[number]? with
  | some state =>
      rw [perform_host number found]
      refine ⟨state.sink.replay (rehearsal.sinks number), ?_⟩
      unfold Machine.host
      rw [found]
      rfl
  | none =>
      refine ⟨HostState.blank.sink, ?_⟩
      unfold Machine.host perform
      rw [Array.getElem?_mapIdx, found]
      rfl

theorem twin_perform (governs : rehearsal.Governs machine) :
    rehearsal.pairing.twin machine (rehearsal.perform machine) :=
  ⟨governs, rfl⟩

/-- Changes that leave hosts and limits alone, and are the same in the performance. -/
theorem stays_of_modify {change : Machine → Machine}
    (limits : ∀ machine, (change machine).limits = machine.limits)
    (hosts : ∀ machine, (change machine).hosts = machine.hosts)
    (handles : ∀ machine, rehearsal.Governs machine → ∀ (handle : Nat) closure,
      (change machine).closures[handle]? = some closure → closure.context.host < rehearsal.size)
    (performed : ∀ machine, change (rehearsal.perform machine) =
      rehearsal.perform (change machine)) :
    rehearsal.pairing.Stays change change := by
  rintro machine another ⟨governs, rfl⟩
  refine ⟨⟨⟨(limits machine).trans governs.limits, ?_, fun number bound => ?_,
    handles machine governs⟩, performed machine⟩, fun cut => ?_⟩
  · rw [hosts]
    exact governs.size
  · unfold Machine.host
    rw [hosts]
    exact governs.rooms number bound
  · change (change machine).isCut = true
    unfold Machine.isCut
    rw [hosts]
    exact cut

theorem stays_of_modify_host (number : Nat) {change : HostState → HostState}
    (same : ∀ state sink, change { state with sink := sink } = { change state with sink := sink }) :
    rehearsal.pairing.Stays (Machine.modifyHost number change)
      (Machine.modifyHost number change) := by
  have sinks (state : HostState) : (change state).sink = state.sink := by
    have own := congrArg HostState.sink (same state state.sink)
    exact own
  rintro machine another ⟨governs, rfl⟩
  refine ⟨⟨⟨governs.limits, ?_, fun other bound => ?_, governs.handles⟩, ?_⟩, fun cut => ?_⟩
  · rw [← governs.size]
    exact Array.size_modify
  · rcases Machine.host_modify_host_cases number other machine change with untouched | ⟨_, changed⟩
    · rw [untouched]
      exact governs.rooms other bound
    · rw [changed, sinks]
      exact governs.rooms other bound
  · have commutes : (machine.hosts.modify number change).mapIdx rehearsal.performHost =
        (machine.hosts.mapIdx rehearsal.performHost).modify number change := by
      refine map_idx_modify fun state _ => ?_
      refine Eq.trans ?_ (same state (state.sink.replay (rehearsal.sinks number))).symm
      exact congrArg
        (fun sink => { change state with sink := sink.replay (rehearsal.sinks number) })
        (sinks state)
    unfold Machine.modifyHost perform
    dsimp only
    rw [commutes]
  · refine Machine.is_cut_modify_host number cut fun state _ shown => ?_
    unfold HostState.isCut
    rw [sinks]
    exact shown

theorem pairs_on_metrics (number : Nat) (body : Run (Metrics Value) Unit) :
    InStep rehearsal.pairing (Machine.onMetrics number () body)
      (Machine.onMetrics number () body) := by
  have stays (metrics : Metrics Value) : rehearsal.pairing.Stays
      (Machine.modifyHost number fun state => { state with metrics := some metrics })
      (Machine.modifyHost number fun state => { state with metrics := some metrics }) :=
    stays_of_modify_host number fun _ _ => rfl
  constructor
  case follows =>
    rintro machine another ⟨governs, rfl⟩
    obtain ⟨sink, same⟩ := perform_host_sink rehearsal machine number
    unfold Machine.onMetrics
    rw [same]
    dsimp only
    cases (machine.host number).metrics with
    | none => exact .inl ⟨rfl, governs, rfl⟩
    | some metrics =>
        dsimp only
        cases body metrics with
        | done value after => exact .inl ⟨rfl, (stays after _ _ (twin_perform governs)).1⟩
        | raised failure after => exact .inl ⟨rfl, (stays after _ _ (twin_perform governs)).1⟩
        | exhausted => exact .inl trivial
  case keeps =>
    rintro machine another ⟨governs, rfl⟩ cut
    unfold Machine.onMetrics
    cases (machine.host number).metrics with
    | none => exact ⟨cut, _, twin_perform governs⟩
    | some metrics =>
        dsimp only
        cases body metrics with
        | done value after =>
            have next := stays after _ _ (twin_perform governs)
            exact ⟨next.2 cut, _, next.1⟩
        | raised failure after =>
            have next := stays after _ _ (twin_perform governs)
            exact ⟨next.2 cut, _, next.1⟩
        | exhausted => trivial

theorem stays_of_modify_journal (change : Journal → Journal) :
    rehearsal.pairing.Stays (Machine.modifyJournal change) (Machine.modifyJournal change) :=
  stays_of_modify (fun _ => rfl) (fun _ => rfl) (fun _ governs => governs.handles) fun _ => rfl

theorem pairs_advance (seconds : Value) :
    InStep rehearsal.pairing (Machine.advance seconds) (Machine.advance seconds) := by
  have advance_eq : Machine.advance seconds = Run.get >>= fun machine =>
      Run.ofExcept (machine.journal.advance seconds) >>= fun journal =>
        Run.modify (Machine.modifyJournal fun _ => journal) := by
    funext machine
    unfold Machine.advance Run.update
    change _ = (Run.ofExcept (machine.journal.advance seconds) >>= fun journal =>
      Run.modify (Machine.modifyJournal fun _ => journal)) machine
    cases advanced : machine.journal.advance seconds <;> simp only [advanced] <;> rfl
  rw [advance_eq]
  refine .get_bind fun machine another twin => ?_
  obtain ⟨_, rfl⟩ := twin
  exact (Pairs.of_except _).bind fun journal => .modify (stays_of_modify_journal fun _ => journal)

/-- A fault that the sink of the performance takes too is added there as well. -/
theorem perform_add_fault {number : Nat} {fault : Fault} {sink : Sink Fault}
    (present : machine.hosts[number]? = some (machine.host number))
    (taken : ((machine.host number).sink.replay (rehearsal.sinks number)).add fault =
      .ok (sink.replay (rehearsal.sinks number))) :
    Machine.addFault number fault (rehearsal.perform machine) =
      .done () (rehearsal.perform
        (machine.modifyHost number fun state => { state with sink := sink })) := by
  have hosts : (machine.hosts.modify number fun state => { state with sink := sink }).mapIdx
      rehearsal.performHost =
      (machine.hosts.mapIdx rehearsal.performHost).modify number fun state =>
        { state with sink := sink.replay (rehearsal.sinks number) } := map_idx_modify fun _ _ => rfl
  unfold Machine.addFault Run.update
  dsimp only
  rw [perform_host number present]
  unfold performHost
  dsimp only
  rw [taken]
  unfold perform Machine.modifyHost
  dsimp only
  rw [hosts]
  rfl

/-- What becomes of a fault in the rehearsal: unless that is cut from then on, the same happens in
the performance. -/
theorem add_fault_performed (sound : rehearsal.IsSound) (governs : rehearsal.Governs machine) {number : Nat}
    (bound : number < rehearsal.size) (fault : Fault) :
    ∃ after, Machine.addFault number fault machine = .done () after ∧ rehearsal.Governs after ∧
      (machine.isCut = true ∨ fault.isCut = true → after.isCut = true) ∧
      (after.isCut = true ∨
        Machine.addFault number fault (rehearsal.perform machine) = .done () (rehearsal.perform after)) := by
  have present := governs.present bound
  have counting : (machine.host number).sink.IsCounting := ⟨.int rehearsal.room, .int rehearsal.room,
    governs.rooms number bound, rfl⟩
  obtain ⟨sink, added⟩ := Sink.add_of_is_counting counting fault
  refine ⟨machine.modifyHost number fun state => { state with sink := sink }, ?_, ?_, fun cut => ?_, ?_⟩
  · unfold Machine.addFault Run.update
    dsimp only
    rw [added]
    rfl
  · refine ⟨governs.limits, Array.size_modify.trans governs.size, fun other inside => ?_, governs.handles⟩
    rcases Machine.host_modify_host_cases number other machine fun state => { state with sink := sink } with
      untouched | ⟨rfl, changed⟩
    · rw [untouched]
      exact governs.rooms other inside
    · rw [changed]
      exact (Sink.capacity_add added).trans (governs.rooms other inside)
  · rcases cut with shown | cut
    · refine Machine.is_cut_modify_host number shown fun state found shown => ?_
      cases present.symm.trans found
      exact HostState.is_cut_add added (.inl shown)
    · exact Machine.is_cut_of_modified present (HostState.is_cut_add added (.inr (.inl cut)))
  · -- a sink of the performance may have room where that of the rehearsal has none, so a dropped fault is a cut
    rcases Sink.add_cases added with dropped | kept
    · exact .inl (Machine.is_cut_of_modified present (HostState.is_cut_add added (.inr (.inr dropped))))
    · have taken := Sink.add_replay (sound.capacities number bound) (machine.host number).sink fault
      exact .inr (perform_add_fault present (kept ▸ taken))

theorem pairs_add_fault (sound : rehearsal.IsSound) {number : Nat}
    (bound : number < rehearsal.size) (fault : Fault) :
    InStep rehearsal.pairing (Machine.addFault number fault) (Machine.addFault number fault) where
  follows machine _ := by
    rintro ⟨governs, rfl⟩
    obtain ⟨after, done, still, _, cut | performed⟩ := add_fault_performed sound governs bound fault
    · rw [done]
      exact .of_excused ⟨cut, _, twin_perform still⟩
    · rw [done, performed]
      exact .inl ⟨rfl, twin_perform still⟩
  keeps machine _ := by
    rintro ⟨governs, rfl⟩ shown
    obtain ⟨after, done, still, cut, _⟩ := add_fault_performed sound governs bound fault
    rw [done]
    exact ⟨cut (.inl shown), _, twin_perform still⟩

theorem pairs_closing (raises : rehearsal.low.RaisesTo rehearsal.high) (number : Nat)
    (name category : String) {budget : String} (other : budget ≠ "max_depth")
    {opened counterpart : Machine} (twin : rehearsal.pairing.twin opened counterpart) :
    InStep rehearsal.pairing (Machine.closing number name category budget opened)
      (Machine.closing number name category budget counterpart) := by
  obtain ⟨governs, rfl⟩ := twin
  have measured : (rehearsal.perform opened).hasMetrics number = opened.hasMetrics number := by
    obtain ⟨sink, same⟩ := perform_host_sink rehearsal opened number
    unfold Machine.hasMetrics
    rw [same]
  have budgeted :
      (rehearsal.perform opened).limits.ceiling category budget =
      opened.limits.ceiling category budget := by
    rw [governs.limits]
    exact raises.ceiling category other
  unfold Machine.closing
  rw [measured, budgeted]
  refine .choose (fun _ => ?_) fun _ => .pure ()
  refine .get_bind fun machine another twin => ?_
  obtain ⟨_, rfl⟩ := twin
  refine (pairs_on_metrics number _).bind fun _ => (Pairs.of_except _).bind fun exceeded => ?_
  refine .choose (fun _ => ?_) fun _ => .pure ()
  exact .modify (stays_of_modify_journal _)

theorem total_perform (sound : rehearsal.IsSound)
    (governs : rehearsal.Governs machine) (number : Nat) :
    ((rehearsal.perform machine).host number).sink.total =
      (machine.host number).sink.total + if number < rehearsal.size then
      (rehearsal.sinks number).total else 0 := by
  by_cases bound : number < rehearsal.size
  · rw [perform_host number (governs.present bound), if_pos bound, Nat.add_comm]
    exact Sink.total_replay (sound.capacities number bound) _
  · have absent : machine.hosts[number]? = none :=
      Array.getElem?_eq_none (governs.size ▸ Nat.le_of_not_lt bound)
    rw [if_neg bound]
    unfold Machine.host perform
    rw [Array.getElem?_mapIdx, absent]
    rfl

theorem accord (sound : rehearsal.IsSound) {environment : Environment}
    (blind : ∀ number handler, Evaluate.Registered (environment number).formulas handler →
      ∀ arguments view, (handler arguments view).IsBlind) :
    Evaluate.Accord rehearsal.pairing pardons (fun number => number < rehearsal.size)
      environment environment where
  formulas _ := rfl
  components _ := rfl
  cycles machine _ := by
    rintro ⟨_, rfl⟩
    rfl
  closures machine _ := by
    rintro ⟨_, rfl⟩
    rfl
  entries machine _ := by
    rintro ⟨_, rfl⟩
    rfl
  trails machine _ := by
    rintro ⟨_, rfl⟩ number
    obtain ⟨sink, same⟩ := perform_host_sink rehearsal machine number
    rw [same]
  memos machine _ := by
    rintro ⟨_, rfl⟩ number
    obtain ⟨sink, same⟩ := perform_host_sink rehearsal machine number
    rw [same]
  totals machine _ after _ := by
    rintro ⟨governs, rfl⟩ ⟨still, rfl⟩ number
    rw [total_perform sound governs, total_perform sound still, Nat.add_right_cancel_iff]
  handles _ _ twin := twin.1.handles
  checks machine _ := by
    rintro ⟨governs, rfl⟩ category value
    rw [governs.limits]
    rcases sound.raises.check category "max_depth" value with same | ⟨fault, refused, cut⟩
    · exact .inl same
    · exact .inr ⟨fault, refused, fault, rfl, cut⟩
  handlers number handler registered := .inl (blind number handler registered)
  faults := by
    rintro _ ⟨fault, rfl, cut⟩
    exact ⟨fault, rfl, fun path => ⟨fault.stamp path, rfl, (fault.is_cut_stamp path).trans cut⟩⟩
  restacked change :=
    stays_of_modify (fun _ => rfl) (fun _ => rfl) (fun _ governs => governs.handles) fun _ => rfl
  enclosed closure home := by
    refine stays_of_modify (fun _ => rfl) (fun _ => rfl)
      (fun machine governs handle found held => ?_) fun _ => rfl
    change (machine.closures.push closure)[handle]? = some found at held
    rw [Array.getElem?_push] at held
    split at held
    · cases held
      exact home
    · exact governs.handles handle found held
  trailed number change := stays_of_modify_host number fun _ _ => rfl
  memorized number change := stays_of_modify_host number fun _ _ => rfl
  noted change := stays_of_modify_journal _
  logged level source message := stays_of_modify_journal _
  spoken number message := .choose (fun _ => .modify (stays_of_modify_journal _)) fun _ => .pure ()
  added number fault home := pairs_add_fault sound home fault
  cut number fault machine _ home pardoned := by
    rintro ⟨governs, rfl⟩
    obtain ⟨_, ⟨⟩, cut⟩ := pardoned
    obtain ⟨after, done, still, shown, _⟩ := add_fault_performed sound governs home fault
    rw [done]
    exact ⟨shown (.inr cut), _, twin_perform still⟩
  advanced := pairs_advance
  looked number name hit := pairs_on_metrics number _
  closed number name category budget opened counterpart other _ twin :=
    pairs_closing sound.raises number name category other twin

end Accords

end Rehearsal
end Interplay
