import Interplay.Proofs.Run.Tracking

/-!
Items consulted up to the first that answers with a truth.

A search consults the items of a list in order and stops at the first whose value has the truth it
looks for.  What it does to the state is exactly what evaluating these items one after the other
does, and the values decide how it goes on.
-/

namespace Interplay
namespace Run

variable {σ α β : Type}

theorem collect_cons_of_done {step : α → Run σ β} {item : α} {value : β} {state after : σ}
    (ended : step item state = .done value after) (rest : List α) :
    collect step (item :: rest) state =
    (collect step rest >>= fun others => pure (value :: others)) after := by
  change (step item >>= fun first => collect step rest >>= fun others => pure (first :: others))
    state = _
  rw [bind_of_done ended]

theorem done_of_collect_cons {step : α → Run σ β} {item : α} {rest : List α}
    {values : List β} {state last : σ}
    (ended : collect step (item :: rest) state = .done values last) :
    ∃ value after others, step item state = .done value after ∧
    collect step rest after = .done others last ∧
      values = value :: others := by
  obtain ⟨value, after, first, continued⟩ := done_of_bind ended
  obtain ⟨others, reached, collected, same⟩ := done_of_bind continued
  cases same
  exact ⟨value, after, others, first, collected, rfl⟩

theorem length_of_collect {step : α → Run σ β} {items : List α} {values : List β} {state last : σ}
    (collected : collect step items state = .done values last) : values.length = items.length := by
  induction items generalizing state values with
  | nil =>
      cases collected
      rfl
  | cons item rest ih =>
      obtain ⟨value, after, others, _, continued, rfl⟩ := done_of_collect_cons collected
      rw [List.length_cons, List.length_cons, ih continued]

/-- The items at the head of a list up to the first one with a truth, or all if there is none.
Whatever comes before the last of them has returned a value without the truth. -/
structure Consulted (truth : Bool) (step : α → Run σ Value) (state : σ) (items consulted : List α) :
    Prop where
  leading : consulted <+: items
  passed : ∀ earlier, earlier <+: consulted → earlier ≠ consulted → ∃ values after,
    collect step earlier state = .done values after ∧ ∀ value ∈ values, value.isTrue ≠ truth
  stopped : ∀ values after, collect step consulted state = .done values after →
    (∀ value ∈ values, value.isTrue ≠ truth) ∧ consulted = items ∨
      ∃ value, values.getLast? = some value ∧ value.isTrue = truth

variable {truth : Bool} {step : α → Run σ Value} {state : σ} {items : List α}

namespace Consulted

/-- One of two lists of consulted items cannot go on after the other. -/
theorem eq_of_leading {consulted other : List α}
    (first : Consulted truth step state items consulted)
    (second : Consulted truth step state items other) (leading : consulted <+: other) : consulted =
    other := by
  apply Classical.byContradiction
  intro different
  obtain ⟨values, after, collected, without⟩ := second.passed consulted leading different
  rcases first.stopped values after collected with ⟨_, whole⟩ | ⟨value, final, found⟩
  · have shorter : other.length ≤ consulted.length := whole ▸ second.leading.length_le
    exact different (leading.eq_of_length_le shorter)
  · exact without value (List.mem_of_getLast? final) found

theorem unique {consulted other : List α} (first : Consulted truth step state items consulted)
    (second : Consulted truth step state items other) : consulted = other := by
  rcases List.prefix_or_prefix_of_prefix first.leading second.leading with shorter | longer
  · exact first.eq_of_leading second shorter
  · exact (second.eq_of_leading first longer).symm

theorem nil : Consulted truth step state [] [] where
  leading := List.prefix_rfl
  passed := by
    intro earlier leading different
    exact absurd (List.prefix_nil.mp leading) different
  stopped := by
    intro values after collected
    cases collected
    exact .inl ⟨by simp, rfl⟩

theorem passed_of_single {item : α} {earlier : List α} (leading : earlier <+: [item])
    (different : earlier ≠ [item]) :
    ∃ values after, collect step earlier state = .done values after ∧
    ∀ value ∈ values, value.isTrue ≠ truth := by
  cases earlier with
  | nil => exact ⟨[], state, rfl, by simp⟩
  | cons first others =>
      obtain ⟨rfl, nothing⟩ := List.cons_prefix_cons.mp leading
      rw [List.prefix_nil.mp nothing] at different
      exact absurd rfl different

theorem of_found {item : α} {rest : List α} {value : Value} {after : σ}
    (ended : step item state = .done value after) (found : value.isTrue = truth) :
    Consulted truth step state (item :: rest) [item] where
  leading := ⟨rest, rfl⟩
  passed := fun _ => passed_of_single
  stopped := by
    intro values last collected
    rw [collect_cons_of_done ended] at collected
    cases collected
    exact .inr ⟨value, rfl, found⟩

theorem of_stuck {item : α} {rest : List α}
    (stuck : ∀ value after, step item state ≠ .done value after) :
    Consulted truth step state (item :: rest) [item] where
  leading := ⟨rest, rfl⟩
  passed := fun _ => passed_of_single
  stopped := by
    intro values last collected
    obtain ⟨value, after, _, ended, _⟩ := done_of_collect_cons collected
    exact absurd ended (stuck value after)

/-- After a first item without the truth, the others are consulted from where it ended. -/
theorem cons {item : α} {rest consulted : List α} {value : Value} {after : σ}
    (ended : step item state = .done value after) (without : value.isTrue ≠ truth)
    (others : Consulted truth step after rest consulted) :
    Consulted truth step state (item :: rest) (item :: consulted) where
  leading := List.cons_prefix_cons.mpr ⟨rfl, others.leading⟩
  passed := by
    intro earlier leading different
    cases earlier with
    | nil => exact ⟨[], state, rfl, by simp⟩
    | cons first following =>
        obtain ⟨rfl, shorter⟩ := List.cons_prefix_cons.mp leading
        obtain ⟨values, last, collected, absent⟩ :=
          others.passed following shorter fun same => different (same ▸ rfl)
        refine ⟨value :: values, last, ?_, List.forall_mem_cons.mpr ⟨without, absent⟩⟩
        rw [collect_cons_of_done ended, bind_of_done collected]
        rfl
  stopped := by
    intro values last collected
    obtain ⟨first, reached, following, again, continued, rfl⟩ := done_of_collect_cons collected
    cases ended.symm.trans again
    rcases others.stopped following last continued with ⟨absent, whole⟩ | ⟨final, latest, found⟩
    · exact .inl ⟨List.forall_mem_cons.mpr ⟨without, absent⟩, whole ▸ rfl⟩
    · refine .inr ⟨final, ?_, found⟩
      rw [List.getLast?_cons, latest]
      rfl

end Consulted

/-- From a state a run does what evaluating the consulted items in order does, and then these and
their values say how it goes on. -/
def ShortCircuits (truth : Bool) (step : α → Run σ Value) (items : List α)
    (continues : List α → List Value → Run σ β) (run : Run σ β) (state : σ) : Prop :=
  ∃ consulted, Consulted truth step state items consulted ∧
    run state = (collect step consulted >>= continues consulted) state

/-- What a search comes to: the choice of the last consulted item if that has the truth. -/
def verdict {γ : Type} (truth : Bool) (chosen : α → γ) (otherwise : γ) (consulted : List α)
    (values : List Value) : γ :=
  if values.any fun value => value.isTrue = truth then
    (consulted.getLast?.map chosen).getD otherwise else otherwise

theorem verdict_apply {γ δ : Type} (next : γ → δ) (truth : Bool) (chosen : α → γ)
    (otherwise : γ) (consulted : List α) (values : List Value) :
    verdict truth (fun item => next (chosen item)) (next otherwise) consulted values =
      next (verdict truth chosen otherwise consulted values) := by
  unfold verdict
  split
  · cases consulted.getLast? with
    | none => rfl
    | some last => rfl
  · rfl

/-- A search that only says whether it found anything. -/
theorem verdict_flag {consulted : List α} {values : List Value}
    (matched : values.length = consulted.length) :
    verdict truth (fun _ => true) false consulted values = values.any fun value =>
      value.isTrue = truth := by
  unfold verdict
  cases consulted with
  | nil =>
      rw [List.eq_nil_of_length_eq_zero matched]
      rfl
  | cons first rest =>
      rw [List.getLast?_cons]
      cases values.any fun value => value.isTrue = truth with
      | true => rfl
      | false => rfl

theorem verdict_cons {γ : Type} {chosen : α → γ} {otherwise : γ} {item : α}
    {value : Value} {consulted : List α}
    {values : List Value} (without : value.isTrue ≠ truth)
    (matched : values.length = consulted.length) :
    verdict truth chosen otherwise (item :: consulted) (value :: values) =
      verdict truth chosen otherwise consulted values := by
  unfold verdict
  cases consulted with
  | nil =>
      rw [List.eq_nil_of_length_eq_zero matched]
      simp [without]
  | cons next following => simp [without, List.getLast?_cons_cons]

/-- The first item whose value has a truth decides how to go on. -/
def search (truth : Bool) (step : α → Run σ Value) (found : α → Run σ β) (missed : Run σ β) :
    List α → Run σ β
  | [] => missed
  | item :: rest => do
    let value ← step item
    if value.isTrue = truth then found item else search truth step found missed rest

theorem search_short_circuits (truth : Bool) (step : α → Run σ Value)
    (found : α → Run σ β) (missed : Run σ β) (items : List α) (state : σ) :
    ShortCircuits truth step items (verdict truth found missed)
      (search truth step found missed items) state := by
  induction items generalizing state with
  | nil => exact ⟨[], .nil, rfl⟩
  | cons item rest ih =>
      cases ended : step item state with
      | done value after =>
          have goes : search truth step found missed (item :: rest) state =
              (if value.isTrue = truth then found item else search truth step found missed rest)
              after :=
            bind_of_done ended
          by_cases decided : value.isTrue = truth
          · refine ⟨[item], .of_found ended decided, ?_⟩
            have alone : collect step [item] state = .done [value] after :=
              collect_cons_of_done ended []
            rw [goes, if_pos decided, bind_of_done alone]
            simp [verdict, decided]
          · obtain ⟨consulted, known, same⟩ := ih after
            refine ⟨item :: consulted, .cons ended decided known, ?_⟩
            rw [goes, if_neg decided, same]
            cases collected : collect step consulted after with
            | done values last =>
                have longer : collect step (item :: consulted) state = .done
                    (value :: values) last := by
                  rw [collect_cons_of_done ended, bind_of_done collected]
                  rfl
                rw [bind_of_done collected, bind_of_done longer, verdict_cons decided
                  (length_of_collect collected)]
            | raised failure last =>
                have longer : collect step (item :: consulted) state = .raised failure last := by
                  rw [collect_cons_of_done ended, bind_of_raised collected]
                rw [bind_of_raised collected, bind_of_raised longer]
            | exhausted =>
                have longer : collect step (item :: consulted) state = .exhausted := by
                  rw [collect_cons_of_done ended, bind_of_exhausted collected]
                rw [bind_of_exhausted collected, bind_of_exhausted longer]
      | raised failure after =>
          have alone : collect step [item] state = .raised failure after := bind_of_raised ended
          refine ⟨[item], .of_stuck (by rw [ended]; nofun), ?_⟩
          rw [bind_of_raised alone]
          exact bind_of_raised ended
      | exhausted =>
          have alone : collect step [item] state = .exhausted := bind_of_exhausted ended
          refine ⟨[item], .of_stuck (by rw [ended]; nofun), ?_⟩
          rw [bind_of_exhausted alone]
          exact bind_of_exhausted ended

/-- A run that short-circuits still does with more to do afterwards. -/
theorem ShortCircuits.bind {γ : Type} {continues : List α → List Value → Run σ β} {run : Run σ β}
    (circuits : ShortCircuits truth step items continues run state) (next : β → Run σ γ) :
    ShortCircuits truth step items (fun consulted values => continues consulted values >>= next)
      (run >>= next) state := by
  obtain ⟨consulted, known, same⟩ := circuits
  refine ⟨consulted, known, ?_⟩
  rw [← bind_assoc]
  change Run.bind run next state = Run.bind
    (collect step consulted >>= continues consulted) next state
  unfold Run.bind
  rw [same]

/-- What follows the consulted items and their values may be said in other words. -/
theorem ShortCircuits.mono {continues others : List α → List Value → Run σ β} {run : Run σ β}
    (circuits : ShortCircuits truth step items continues run state)
    (same : ∀ consulted values, values.length = consulted.length →
      continues consulted values = others consulted values) :
    ShortCircuits truth step items others run state := by
  obtain ⟨consulted, known, equal⟩ := circuits
  refine ⟨consulted, known, equal.trans ?_⟩
  cases collected : collect step consulted state with
  | done values last =>
      rw [bind_of_done collected, bind_of_done collected, same consulted values
        (length_of_collect collected)]
  | raised failure last => rw [bind_of_raised collected, bind_of_raised collected]
  | exhausted => rw [bind_of_exhausted collected, bind_of_exhausted collected]

end Run
end Interplay
