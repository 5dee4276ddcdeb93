import Interplay.Proofs.Evaluate.Raising

/-!
Paths, segment by segment.

A segment leads from a mapping to the content of its key and from a list to the item of its index,
and a reserved segment leads nowhere.  A path that leads nowhere at one of its segments is null, and
null leads nowhere, so a longer path goes on from the value of a shorter one.
-/

namespace Interplay

open Run

namespace Path

/-- Segments that give access to the inside of objects. -/
def Reserved (segment : String) : Prop :=
  segment = "__proto__" ∨ segment = "constructor" ∨ segment = "prototype" ∨
    "__".toList <+: segment.toList ∧ "__".toList <:+ segment.toList

theorem reserved_iff (segment : String) : isReserved segment = true ↔ Reserved segment := by
  simp only [isReserved, startsAndEnds, Reserved, Bool.or_eq_true, Bool.and_eq_true,
    List.isPrefixOf_iff_prefix,
    List.isSuffixOf_iff_suffix, List.contains_cons, List.contains_nil, beq_iff_eq,
    Bool.or_false, or_assoc]

inductive Leads (segment : String) : Value → Value → Prop
  | entry {entries : Entries} {content : Value} (free : ¬Reserved segment)
      (found : Keyed.find? (.text segment) entries = some content) : Leads segment
      (.mapping entries) content
  | item {items : List Value} {index : Nat} {content : Value} (free : ¬Reserved segment)
      (numbered : index? segment = some index) (readable : segment.length ≤ Number.digitLimit)
      (found : items[index]? = some content) : Leads segment (.list items) content

/-- What a walk along segments yields from a value: where it arrives, or null once a segment leads
nowhere. -/
inductive Yields : List String → Value → Value → Prop
  | arrived {current : Value} : Yields [] current current
  | onward {segment : String} {rest : List String} {current next last : Value}
      (leads : Leads segment current next)
      (continues : Yields rest next last) : Yields (segment :: rest) current last
  | lost {segment : String} {rest : List String} {current : Value}
      (nowhere : ∀ next, ¬Leads segment current next) :
      Yields (segment :: rest) current .null

theorem Leads.not_reserved {segment : String} {current next : Value}
    (leads : Leads segment current next) :
    ¬Reserved segment := by
  cases leads with
  | entry free found => exact free
  | item free numbered readable found => exact free

theorem Leads.unique {segment : String} {current next other : Value}
    (leads : Leads segment current next) (also : Leads segment current other) : next = other := by
  cases leads with
  | entry free found =>
      cases also with
      | entry _ same => exact Option.some.inj (found.symm.trans same)
  | item free numbered readable found =>
      cases also with
      | item _ again _ same =>
          cases numbered.symm.trans again
          exact Option.some.inj (found.symm.trans same)

theorem Yields.unique {segments : List String} {current last other : Value}
    (yields : Yields segments current last)
    (also : Yields segments current other) : last = other := by
  induction yields with
  | arrived =>
      cases also with
      | arrived => rfl
  | onward leads continues ih =>
      cases also with
      | onward same goes => exact ih (leads.unique same ▸ goes)
      | lost nowhere => exact absurd leads (nowhere _)
  | lost nowhere =>
      cases also with
      | onward leads continues => exact absurd leads (nowhere _)
      | lost _ => rfl

/-- A walk that comes to a reserved segment or is lost before it yields null. -/
theorem Yields.null_of_reserved {segments : List String} {current last : Value}
    (yields : Yields segments current last)
    {segment : String} (member : segment ∈ segments)
    (reserved : Reserved segment) : last = .null := by
  induction yields with
  | arrived => cases member
  | onward leads continues ih =>
      rcases List.mem_cons.mp member with rfl | later
      · exact absurd reserved leads.not_reserved
      · exact ih later
  | lost nowhere => rfl

theorem Yields.null_of_null {segments : List String} {last : Value}
    (yields : Yields segments .null last) :
    last = .null := by
  cases yields with
  | arrived => rfl
  | onward leads continues => cases leads
  | lost nowhere => rfl

/-- A walk along two paths is a walk along the second from where the first one ends; if that is
nowhere, the second one has to yield null as well. -/
theorem Yields.append {segments rest : List String} {current middle last : Value}
    (yields : Yields segments current middle) (continues : Yields rest middle last) :
    Yields (segments ++ rest) current last := by
  induction yields with
  | arrived => exact continues
  | onward leads _ ih => exact .onward leads (ih continues)
  | lost nowhere =>
      cases continues.null_of_null
      exact .lost nowhere

/-- What is left of a walk: null if it fails. -/
def outcome (segments : List String) (current : Value) : Value :=
  match walk segments current with
  | .ok last => last
  | .error _ => .null

theorem outcome_of_step {segment : String} {rest : List String} {current next : Value}
    (stepped : step segment current = .ok next) : outcome
    (segment :: rest) current = outcome rest next := by
  rw [outcome, walk, stepped]
  rfl

theorem outcome_of_failure {segment : String} {rest : List String}
    {current : Value} {failure : Failure}
    (failed : step segment current = .error failure) : outcome
    (segment :: rest) current = .null := by
  rw [outcome, walk, failed]
  rfl

theorem step_null (segment : String) : step segment .null = .ok .null := by
  unfold step
  split
  · rfl
  · rfl

theorem outcome_null (segments : List String) : outcome segments .null = .null := by
  induction segments with
  | nil => rfl
  | cons segment rest ih => rw [outcome_of_step (step_null segment), ih]

theorem step_entry {segment : String} (free : isReserved segment = false) (entries : Entries) :
    step segment (.mapping entries) = .ok ((Keyed.find? (.text segment) entries).getD .null) := by
  rw [step, free]
  rfl

theorem step_item {segment : String} (free : isReserved segment = false) (items : List Value) :
    step segment (.list items) = item segment items := by
  rw [step, free]
  rfl

/-- Reading the item of a list finds the one that the segment numbers; else it is null or the number
is too long. -/
theorem item_cases (segment : String) (items : List Value) :
    (∃ index content, index? segment = some index ∧ segment.length ≤ Number.digitLimit ∧
        items[index]? = some content ∧ item segment items = .ok content) ∨
      (∀ index content, index? segment = some index → segment.length ≤ Number.digitLimit →
          items[index]? ≠ some content) ∧
        (item segment items = .ok .null ∨ ∃ failure, item segment items = .error failure) := by
  unfold item
  cases numbered : index? segment with
  | none =>
      right
      constructor
      · intro index content known
        cases known
      · exact .inl rfl
  | some index =>
      by_cases long : Number.digitLimit < segment.length
      · right
        constructor
        · intro _ _ _ readable
          exact absurd long (Nat.not_lt.mpr readable)
        · exact .inr ⟨_, if_pos long⟩
      · have readable := Nat.not_lt.mp long
        cases found : items[index]? with
        | some content =>
            exact .inl ⟨index, content, rfl, readable, found,
              by simp only [if_neg long, found]; rfl⟩
        | none =>
            right
            constructor
            · intro other content same _
              cases same
              rw [found]
              nofun
            · exact .inl (by simp only [if_neg long, found]; rfl)

/-- One step goes where the segment leads; where it leads nowhere, the step is null or fails. -/
theorem step_cases (segment : String) (current : Value) :
    (∃ next, Leads segment current next ∧ step segment current = .ok next) ∨
      (∀ next, ¬Leads segment current next) ∧
        (step segment current = .ok .null ∨ ∃ failure, step segment current = .error failure) := by
  cases forbidden : isReserved segment with
  | true =>
      right
      constructor
      · intro next leads
        exact leads.not_reserved ((reserved_iff segment).mp forbidden)
      · exact .inl (if_pos forbidden)
  | false =>
      have free : ¬Reserved segment := by
        rw [← reserved_iff, forbidden]
        decide
      cases current with
      | scalar content =>
          right
          constructor
          · intro next leads
            cases leads
          · exact .inl (by unfold step; rw [forbidden]; rfl)
      | mapping entries =>
          rw [step_entry forbidden]
          cases found : Keyed.find? (.text segment) entries with
          | some content => exact .inl ⟨content, .entry free found, rfl⟩
          | none =>
              right
              constructor
              · intro next leads
                cases leads with
                | entry _ known => cases found.symm.trans known
              · exact .inl rfl
      | list items =>
          rw [step_item forbidden]
          rcases item_cases segment items with ⟨index, content, numbered, readable, found, known⟩ |
            ⟨nowhere, known⟩
          · exact .inl ⟨content, .item free numbered readable found, known⟩
          · right
            constructor
            · intro next leads
              cases leads with
              | item _ numbered readable found => exact nowhere _ _ numbered readable found
            · exact known

/-- Walking yields what the relation says, by induction on the segments; a failure counts as
null. -/
theorem yields_outcome (segments : List String) (current : Value) :
    Yields segments current (outcome segments current) := by
  induction segments generalizing current with
  | nil => exact .arrived
  | cons segment rest ih =>
      rcases step_cases segment current with ⟨next, leads, stepped⟩ |
        ⟨nowhere, stepped | ⟨failure, failed⟩⟩
      · rw [outcome_of_step stepped]
        exact .onward leads (ih next)
      · rw [outcome_of_step stepped, outcome_null]
        exact .lost nowhere
      · rw [outcome_of_failure failed]
        exact .lost nowhere

theorem yields_iff (segments : List String) (current last : Value) :
    Yields segments current last ↔ last = outcome segments current := by
  constructor
  · intro yields
    exact yields.unique (yields_outcome segments current)
  · rintro rfl
    exact yields_outcome segments current

end Path

namespace Evaluate

variable {environment : Environment} {context : Context} {depth : Value} {machine : Machine}

theorem timed_done {body : Run Machine Value} {content : Value} {reached : Machine} (number : Nat)
    (name category : String) {budget : Value} (budgeted : budget.IsNumber ∨ budget = .null)
    (ended : body machine = .done content reached) (ready : reached.IsReady) :
    ∃ last, Machine.timed number (.text name) (.text category) budget body machine =
    .done content last := by
  obtain ⟨last, timed⟩ := Machine.finish_timing_done ready number name category budgeted machine.now
  refine ⟨last, ?_⟩
  unfold Machine.timed followedBy
  rw [ended]
  exact bind_of_done timed

theorem path_node_done (ready : machine.IsReady)
    (within : machine.limits.check "formula" "max_depth" depth = .ok ())
    (fuel : Nat) (segments : List String) :
    ∃ last, evaluateNode environment (fuel + 1) (.path segments) context depth machine =
      .done (Path.outcome segments context.data) last := by
  change ∃ last, evaluateWith environment _ _ _ _ _ = _
  unfold evaluateWith
  rw [bind_of_done (rfl : Run.get machine = .done machine machine), within]
  dsimp only
  have walked : dispatch environment (evaluateNode environment fuel)
      (.path segments) context depth = Run.ofExcept (Path.walk segments context.data) := rfl
  rw [walked, Path.outcome]
  cases Path.walk segments context.data with
  | ok content => exact ⟨machine, rfl⟩
  | error failure =>
      obtain ⟨last, recorded⟩ := record_fault_done ready
        (nodeFault environment (.path segments) context machine failure)
      exact ⟨last, bind_of_done recorded⟩

/-- A path within the depth ceiling evaluates to what is left of its walk. -/
theorem path_done (ready : machine.IsReady)
    (within : machine.limits.check "formula" "max_depth" depth = .ok ())
    (fuel : Nat) (segments : List String) :
    ∃ last, evaluate environment (fuel + 1) (some (.path segments)) context depth machine =
      .done (Path.outcome segments context.data) last := by
  obtain ⟨reached, ended⟩ :=
    @path_node_done environment context depth machine ready within fuel segments
  unfold evaluate evaluateTop
  dsimp only
  split
  · have tracks : Tracks True Machine.IsReady
        (evaluateNode environment (fuel + 1) (.path segments) context depth) _ :=
      more_fuel_tracks Machine.ready_steady (Nat.le_refl (fuel + 1)) _ trivial depth
    have still : reached.IsReady :=
      Result.holds_of_tracks (tracks machine ready) (by rw [ended]; rfl)
    exact timed_done context.host _ "formula" (ready.limits _ _) ended still
  · exact ⟨reached, ended⟩

/-- A path with a reserved segment is null, whatever the data holds.  If a path has a value, every
longer path has the one value that a walk along the other segments yields from there, and that is
null if the value is. -/
theorem paths_go_on_from_their_values (ready : machine.IsReady)
    (within : machine.limits.check "formula" "max_depth" depth = .ok ()) (fuel : Nat)
    (segments : List String) :
    (∀ segment ∈ segments, Path.Reserved segment → ∃ last,
        evaluate environment (fuel + 1) (some (.path segments)) context depth machine =
        .done .null last) ∧
      ∀ value after, evaluate environment (fuel + 1) (some (.path segments)) context depth machine =
        .done value after →
        ∀ rest, ∃ further last,
          evaluate environment (fuel + 1) (some (.path (segments ++ rest))) context depth machine =
              .done further last ∧
            (∀ other, Path.Yields rest value other ↔ other = further) ∧
              (value = .null → further = .null) := by
  obtain ⟨reached, ended⟩ := @path_done environment context depth machine ready within fuel segments
  have yields := Path.yields_outcome segments context.data
  constructor
  · intro segment member reserved
    rw [yields.null_of_reserved member reserved] at ended
    exact ⟨reached, ended⟩
  · intro value after known rest
    obtain ⟨last, longer⟩ :=
      @path_done environment context depth machine ready within fuel (segments ++ rest)
    cases ended.symm.trans known
    have goes := Path.yields_outcome rest (Path.outcome segments context.data)
    have joined : Path.outcome (segments ++ rest) context.data =
        Path.outcome rest (Path.outcome segments context.data) :=
      ((Path.yields_iff _ _ _).mp (yields.append goes)).symm
    rw [joined] at longer
    refine ⟨_, last, longer, Path.yields_iff rest _, ?_⟩
    intro absent
    rw [absent] at goes ⊢
    exact goes.null_of_null

/-- A cart that hides a second one behind a reserved name. -/
def hidingCart : Value :=
  .object [("items", .list [.object [("price", .int 7)]]),
    ("__proto__", .object [("price", .int 9)])]

theorem hiding_cart_goes_on :
    (Machine.lone Limits.standard 5).IsReady ∧
    Limits.standard.check "formula" "max_depth" (.int 0) = .ok () ∧
      (∃ last, evaluate barren 1 (some (.path ["__proto__", "price"]))
        (Context.lone hidingCart) (.int 0) (Machine.lone Limits.standard 5) = .done .null last) ∧
      ∃ further last,
        evaluate barren 1 (some (.path ["items", "0", "price"])) (Context.lone hidingCart) (.int 0)
            (Machine.lone Limits.standard 5) = .done further last ∧
          (∀ other, Path.Yields ["price"] (.object [("price", .int 7)]) other ↔ other = further) ∧
          further = .int 7 := by
  have ready := lone_machine_is_ready 5
  have within : Limits.standard.check "formula" "max_depth" (.int 0) = .ok () := rfl
  have hidden :=
    @paths_go_on_from_their_values barren (Context.lone hidingCart) (.int 0) _ ready within 0
    ["__proto__", "price"]
  have shown :=
    @paths_go_on_from_their_values barren (Context.lone hidingCart)
      (.int 0) _ ready within 0 ["items", "0"]
  obtain ⟨further, last, ended, only, _⟩ := shown.2 (.object [("price", .int 7)]) _ rfl ["price"]
  have priced : Path.Yields ["price"] (.object [("price", .int 7)]) (.int 7) :=
    (Path.yields_iff _ _ _).mpr rfl
  exact ⟨ready, within, hidden.1 "__proto__" List.mem_cons_self (.inl rfl),
    further, last, ended, only, ((only _).mp priced).symm⟩

end Evaluate
end Interplay
