import Interplay.Proofs.Evaluate.Memoization
import Interplay.Proofs.Evaluate.Roots

/-!
Evaluation with a companion.

The same whole formula is evaluated over two machines that stand beside each other, one without a
memo.  If the first evaluation adds no fault, both end with the same content and the machines stand
beside each other again.  All that either of them touches are the books of its own host.
-/

namespace Interplay
namespace Evaluate

/-- What an evaluation for a host leaves alone. -/
structure Aside (host : Nat) (before after : Machine) : Prop where
  limits : after.limits = before.limits
  cycles : after.cycleStacks = before.cycleStacks
  clock : after.journal.clock = before.journal.clock
  hosts : after.hosts.size = before.hosts.size
  others : ∀ other, other ≠ host → (before.host other).SameBooks (after.host other)
  notes : after.journal.notes = before.journal.notes
  trace : after.journal.trace = before.journal.trace

section Aside

variable {setting : Setting} {host : Nat} {first second third machine last : Machine}

theorem Aside.refl (host : Nat) (machine : Machine) : Aside host machine machine :=
  ⟨rfl, rfl, rfl, rfl, fun _ _ => ⟨rfl, rfl, rfl⟩, rfl, rfl⟩

theorem Aside.trans (left : Aside host first second) (right : Aside host second third) :
    Aside host first third where
  limits := right.limits.trans left.limits
  cycles := right.cycles.trans left.cycles
  clock := right.clock.trans left.clock
  hosts := right.hosts.trans left.hosts
  others other different :=
    have before := left.others other different
    have after := right.others other different
    ⟨after.memo.trans before.memo, after.sink.trans before.sink, after.metrics.trans before.metrics⟩
  notes := right.notes.trans left.notes
  trace := right.trace.trans left.trace

theorem aside_of_onward (quiet : setting.IsQuiet) (onward : Onward setting host first second) :
    Aside host first second where
  limits := congrArg Imprint.limits onward.imprint
  cycles := congrArg Imprint.cycles onward.imprint
  clock := congrArg Imprint.clock onward.imprint
  hosts := congrArg Imprint.hosts onward.imprint
  others := onward.others
  notes := onward.notes
  trace := onward.trace quiet

theorem aside_modify_host (machine : Machine) (change : HostState → HostState) :
    Aside host machine (machine.modifyHost host change) where
  limits := rfl
  cycles := rfl
  clock := rfl
  hosts := by simp [Machine.modifyHost]
  others _ different := same_books_of_ne different machine change
  notes := rfl
  trace := rfl

theorem aside_on_metrics {α : Type} {standard : α} {body : Run (Metrics Value) α}
    (ended : (Machine.onMetrics host standard body machine).state? = some last) :
    Aside host machine last := by
  unfold Machine.onMetrics at ended
  cases taken : (machine.host host).metrics with
  | none =>
      rw [taken] at ended
      cases ended
      exact .refl host machine
  | some metrics =>
      rw [taken] at ended
      dsimp only at ended
      cases recorded : body metrics with
      | exhausted =>
          rw [recorded] at ended
          cases ended
      | raised failure after =>
          rw [recorded] at ended
          cases ended
          exact aside_modify_host machine _
      | done value after =>
          rw [recorded] at ended
          cases ended
          exact aside_modify_host machine _

theorem aside_warn_over {category name budget duration : Value}
    (ended : (warnOver category name budget duration machine).state? = some last) :
    Aside host machine last := by
  unfold warnOver at ended
  cases compared : Machine.overBudget budget duration with
  | error failure =>
      rw [compared] at ended
      cases ended
      exact .refl host machine
  | ok exceeded =>
      rw [compared] at ended
      cases exceeded with
      | true =>
          cases ended
          exact ⟨rfl, rfl, rfl, rfl, fun _ _ => ⟨rfl, rfl, rfl⟩, rfl, rfl⟩
      | false =>
          cases ended
          exact .refl host machine

theorem aside_finish_timing {name category budget started : Value}
    (ended : (Machine.finishTiming host name category budget started machine).state? = some last) :
    Aside host machine last := by
  rw [finish_timing_eq] at ended
  rcases Run.state_of_bind_cases ended with ⟨_, after, recorded, left⟩ | ⟨failure, recorded⟩
  · exact (aside_on_metrics (congrArg Result.state? recorded)).trans (aside_warn_over left)
  · exact aside_on_metrics (congrArg Result.state? recorded)

/-- Machines stand beside each other again if both leave the rest alone and end with the same
timings. -/
theorem Beside.aside {counterpart later : Machine}
    (beside : Beside setting host machine counterpart)
    (left : Aside host machine last) (right : Aside host counterpart later)
    (stores : SameStores host machine last) (otherStores : SameStores host counterpart later)
    (timings : (later.host host).timings = (last.host host).timings) :
    Beside setting host last later := by
  refine ⟨?_, ?_, ?_, ?_, ?_⟩
  · have sizes : counterpart.hosts.size = machine.hosts.size :=
      congrArg Imprint.hosts beside.imprint
    have clocks : counterpart.journal.clock = machine.journal.clock :=
      congrArg Imprint.clock beside.imprint
    unfold Machine.imprint
    rw [timings, right.limits, left.limits, beside.limits, right.cycles, left.cycles,
      beside.cycles, right.clock, left.clock, clocks, right.hosts, left.hosts, sizes]
  · have faults := beside.faults
    unfold Machine.faults at faults ⊢
    rw [stores.1, otherStores.1, faults]
  · rw [stores.2, beside.bare]
  · rw [right.hosts]
    exact beside.sound.present
  · intro memo held
    rw [otherStores.2] at held
    exact beside.sound.backs memo held

end Aside

section Tops

variable {setting : Setting} {environment : Environment} {host : Nat} {data : Content}
  {context other : Context} {machine counterpart last : Machine} {value : Value}

theorem timed_abreast (quiet : setting.IsQuiet) {expected : Option Content}
    {run another : Run Machine Value}
    (faithful : Faithful setting host Value.content? expected run another)
    (otherFaithful : Faithful setting host Value.content? expected another another)
    (beside : Beside setting host machine counterpart) {name : String} {budget : Value}
    (ended : Machine.timed host (.text name)
      (.text "formula") budget run machine = .done value last)
    (clean : last.faults host = machine.faults host) :
    ∃ answer later content, Machine.timed host (.text name)
        (.text "formula") budget another counterpart =
        .done answer later ∧ Beside setting host last later ∧ Aside host machine last ∧
      Aside host counterpart later ∧ value.content? = some content ∧
        answer.content? = some content ∧
      expected = some content := by
  have clock : counterpart.now = machine.now := beside.now
  unfold Machine.timed Run.followedBy at ended ⊢
  cases started : run machine with
  | exhausted =>
      rw [started] at ended
      cases ended
  | raised failure after =>
      rw [started] at ended
      obtain ⟨_, _, _, impossible⟩ := Run.done_of_bind ended
      cases impossible
  | done inside after =>
      rw [started] at ended
      obtain ⟨_, reached, finished, left⟩ := Run.done_of_bind ended
      cases left
      have stores : SameStores host after last :=
        finish_timing_stores (congrArg Result.state? finished)
      have unspoiled : after.faults host = machine.faults host := by
        rw [← clean]
        unfold Machine.faults
        rw [stores.1]
      have lawful := faithful.lawful machine beside.sound_left
      rw [started] at lawful
      obtain ⟨onward, content, known, meant⟩ := lawful
      obtain ⟨answer, later, answered, besideLater, sameView⟩ :=
        faithful.matched machine counterpart beside value after started unspoiled
      have otherLawful := otherFaithful.lawful counterpart beside.sound
      rw [answered] at otherLawful
      obtain ⟨closing, closed, timings⟩ :=
        finish_timing_beside besideLater.now (congrArg Imprint.timings besideLater.imprint) finished
      have ending : Aside host after last := aside_finish_timing (congrArg Result.state? finished)
      have otherEnding : Aside host later closing :=
        aside_finish_timing (congrArg Result.state? closed)
      refine ⟨answer, closing, content, ?_, ?_, ?_, ?_, known,
        sameView.trans known, meant unspoiled⟩
      · rw [answered, clock]
        exact Run.bind_of_done closed
      · exact besideLater.aside ending otherEnding stores
          (finish_timing_stores (congrArg Result.state? closed)) timings
      · exact (aside_of_onward quiet onward).trans ending
      · exact (aside_of_onward quiet otherLawful.1).trans otherEnding

/-- A whole formula that evaluates without a fault where there is no memo evaluates to the same
content beside it, and both evaluations touch the books of their host only. -/
theorem evaluate_abreast (lawful : setting.IsPlain) (quiet : setting.IsQuiet)
    (abreast : Abreast setting environment host data context other) {formula : Option Formula}
    (plain : PlainOperand formula) (beside : Beside setting host machine counterpart)
    {fuel : Nat} {depth : Value}
    (ended : evaluate environment fuel formula context depth machine = .done value last)
    (clean : last.faults host = machine.faults host) :
    ∃ answer later content, evaluate environment fuel formula other depth counterpart =
    .done answer later ∧
      Beside setting host last later ∧ Aside host machine last ∧ Aside host counterpart later ∧
      value.content? = some content ∧ answer.content? = some content ∧
      Meaning.operand (meaning setting data) formula = some content := by
  cases formula with
  | none =>
      cases ended
      exact ⟨.null, counterpart, .null, rfl, beside, .refl host machine,
        .refl host counterpart, Value.content_of_null, Value.content_of_null, rfl⟩
  | some formula =>
      have along : Abreast setting environment host data other other :=
        ⟨abreast.same.host.trans abreast.home, same_home_refl other,
          abreast.otherWithin, abreast.otherWithin⟩
      have faithful :=
        interprets_node lawful environment host fuel data context other abreast formula
        (plain formula rfl) depth
      have otherFaithful :=
        interprets_node lawful environment host fuel data other other along formula
        (plain formula rfl) depth
      -- whether the whole formula is timed is decided by its depth and the metrics, not by the memo
      have same : counterpart.hasMetrics other.host = machine.hasMetrics context.host := by
        rw [along.home, abreast.home]
        exact beside.has_metrics
      unfold evaluate evaluateTop at ended ⊢
      dsimp only at ended ⊢
      rw [same, beside.limits]
      by_cases timed : depth.same (.int 0) = true ∧ machine.hasMetrics context.host = true
      · rw [if_pos timed, abreast.home] at ended
        rw [if_pos timed, along.home]
        exact timed_abreast quiet faithful otherFaithful beside ended clean
      · rw [if_neg timed] at ended ⊢
        have first := faithful.lawful machine beside.sound_left
        rw [ended] at first
        obtain ⟨onward, content, known, meant⟩ := first
        obtain ⟨answer, later, answered, besideLater, sameView⟩ :=
          faithful.matched machine counterpart beside value last ended clean
        have second := otherFaithful.lawful counterpart beside.sound
        rw [answered] at second
        exact ⟨answer, later, content, answered, besideLater, aside_of_onward quiet onward,
          aside_of_onward quiet second.1, known, sameView.trans known, meant clean⟩

end Tops

end Evaluate
end Interplay
