import Interplay.Cycle.Detector
import Interplay.Proofs.Cycle.Dependency
import Interplay.Proofs.Cycle.Stack
import Interplay.Proofs.Run.Attempts

/-!
The discipline of cycle stacks.

However keys are entered and left, no key stands twice on the path and every key on it is active:
leaving a key may cut off others that stay active, never the other way round.  Under guards nothing
of that kind is left over: the path lists the active keys, which are those of the guards around, in
the order of their entry, and every guard gives back the stack that it was entered on.
-/

namespace Interplay
namespace Cycle
namespace Stack

/-- A use of a stack: a key is entered, under the ceilings that are in force then, or it is left. -/
inductive Use where
  | enter (limits : Limits) (key : String)
  | leave (key : String)

def Use.run : Use → Run Stack Unit
  | enter limits key => Run.update (Stack.enter limits key)
  | leave key => Run.modify (Stack.leave key)

/-! ### Any order of entries and exits -/

/-- No key stands twice on the path, and every key on it is active. -/
structure IsRegular (stack : Stack) : Prop where
  distinct : stack.path.Nodup
  active : ∀ key ∈ stack.path, key ∈ stack.active
  once : stack.active.Nodup

/-- How the entry of a key ends.  A refusal changes nothing.  It is a cycle if the key is active;
otherwise it says that a ceiling was exceeded, which needs more active keys than the ceiling allows.
(A number of more digits than can be shown is refused without being named.) -/
structure EntersDuly (limits : Limits) (key : String) (stack : Stack) : Prop where
  settled : (Use.enter limits key).run stack = .done () (stack.pushed key) ∨
    ∃ failure, (Use.enter limits key).run stack = .raised failure stack
  repeated : stack.isActive key = true → ∃ fault, (Use.enter limits key).run stack =
    .raised (.fault fault) stack ∧
    fault.source = .cycle (.text stack.domain.label) (stack.path.map Value.text)
      (.text (stack.fullKey key))
  unlimited : stack.isActive key = false → limits.ceiling stack.domain.label "max_depth" = .null →
    (Use.enter limits key).run stack = .done () (stack.pushed key)
  within : stack.isActive key = false → ∀ ceiling : Int,
    limits.ceiling stack.domain.label "max_depth" = .int ceiling → (stack.depth : Int) ≤ ceiling →
      (Use.enter limits key).run stack = .done () (stack.pushed key)
  exceeded : stack.isActive key = false → ∀ ceiling : Int,
    limits.ceiling stack.domain.label "max_depth" = .int ceiling → ceiling < stack.depth →
      ∃ failure, (Use.enter limits key).run stack = .raised failure stack ∧
        ((Value.ofNat stack.depth).isWritable = true → (Value.int ceiling).isWritable = true →
          failure = .fault
            (Fault.limit (.text stack.domain.label) (.text "max_depth") (.ofNat stack.depth)
            (.int ceiling)))

theorem cut_at_prefix (key : String) (path : List String) : cutAt key path <+: path := by
  unfold cutAt
  split
  · apply List.reverse_suffix.mp
    rw [List.reverse_reverse]
    exact (List.drop_suffix _ _).trans (List.dropWhile_suffix _)
  · exact List.prefix_refl path

/-- What is left of a path without repetitions does not have the key that it was cut at. -/
theorem not_mem_cut_at {key : String} {path : List String} (distinct : path.Nodup) :
    key ∉ cutAt key path := by
  unfold cutAt
  split
  · rename_i present
    intro member
    rw [List.mem_reverse] at member
    cases kept : path.reverse.dropWhile (fun entry => entry != key) with
    | nil =>
        rw [kept] at member
        cases member
    | cons entry rest =>
        rw [kept] at member
        have first : entry = key := by
          have stopped := List.head?_dropWhile_not (fun entry => entry != key) path.reverse
          rw [kept] at stopped
          simpa using stopped
        have suffix : entry :: rest <:+ path.reverse := kept ▸ List.dropWhile_suffix _
        have twice : (entry :: rest).Nodup :=
          (List.nodup_reverse.mpr distinct).sublist suffix.sublist
        rw [first] at twice
        exact (List.nodup_cons.mp twice).1 member
  · rename_i absent
    intro member
    exact absent (List.contains_iff_mem.mpr member)

theorem empty_is_regular (domain : Domain) : (empty domain).IsRegular where
  distinct := List.nodup_nil
  active := nofun
  once := List.nodup_nil

namespace IsRegular

variable {stack : Stack}

theorem pushed (regular : stack.IsRegular) {key : String} (inactive : stack.isActive key = false) :
    (stack.pushed key).IsRegular := by
  have absent : stack.fullKey key ∉ stack.active := by simpa [isActive] using inactive
  have offPath : stack.fullKey key ∉ stack.path := fun member => absent (regular.active _ member)
  constructor
  · exact regular.distinct.append (List.nodup_singleton _) (by simpa using offPath)
  · intro other member
    rcases List.mem_append.mp member with before | last
    · exact List.mem_append_left _ (regular.active other before)
    · exact List.mem_append_right _ last
  · exact regular.once.append (List.nodup_singleton _) (by simpa using absent)

theorem leave (regular : stack.IsRegular) (key : String) : (stack.leave key).IsRegular := by
  have shorter := cut_at_prefix (stack.fullKey key) stack.path
  constructor
  · exact regular.distinct.sublist shorter.sublist
  · intro other member
    have active : other ∈ stack.active := regular.active other (shorter.subset member)
    have different : other ≠ stack.fullKey key := by
      intro same
      rw [same] at member
      exact not_mem_cut_at regular.distinct member
    exact List.mem_filter.mpr ⟨active, by simpa using different⟩
  · exact regular.once.filter _

end IsRegular

section

variable (limits : Limits) (key : String) {stack : Stack}

theorem enter_active (active : stack.isActive key = true) :
    stack.enter limits key =
      .error (.cycle (.text stack.domain.label) (stack.path.map Value.text)
        (.text (stack.fullKey key))) := by
  unfold enter
  rw [if_pos active]

theorem enter_inactive (inactive : stack.isActive key = false) :
    stack.enter limits key =
      match limits.check stack.domain.label "max_depth" (.ofNat stack.depth) with
      | .error failure => .error failure
      | .ok () => .ok (stack.pushed key) := by
  unfold enter
  rw [if_neg (by simp [inactive])]
  rfl

theorem enter_settles :
    (Use.enter limits key).run stack = .done () (stack.pushed key) ∨
      ∃ failure, (Use.enter limits key).run stack = .raised failure stack := by
  cases entry : stack.enter limits key with
  | ok entered =>
      left
      rw [(entered_is_pushed entry).2] at entry
      simp only [Use.run, Run.update, entry]
  | error failure =>
      right
      refine ⟨failure, ?_⟩
      simp only [Use.run, Run.update, entry]

theorem done_of_check (inactive : stack.isActive key = false)
    (passed : limits.check stack.domain.label "max_depth" (.ofNat stack.depth) = .ok ()) :
    (Use.enter limits key).run stack = .done () (stack.pushed key) := by
  simp only [Use.run, Run.update, enter_inactive limits key inactive, passed]

theorem enters_duly : stack.EntersDuly limits key where
  settled := enter_settles limits key
  repeated active := by
    obtain ⟨fault, raised, source⟩ :=
      Failure.cycle_of_keys (.text stack.domain.label) stack.path (stack.fullKey key)
    refine ⟨fault, ?_, source⟩
    simp only [Use.run, Run.update, enter_active limits key active, raised]
  unlimited inactive known := by
    apply done_of_check limits key inactive
    simp [Limits.check, Limits.checkAgainst, known, Value.isNull]
  within inactive ceiling known room :=
    done_of_check limits key inactive (Limits.check_within known room)
  exceeded inactive ceiling known above := by
    have refused := Limits.check_above known above
    have entry := enter_inactive limits key inactive
    rw [show Value.ofNat stack.depth = .int (stack.depth : Int) from rfl, refused] at entry
    split at entry
    · rename_i failure raised
      refine ⟨failure, ?_, ?_⟩
      · simp only [Use.run, Run.update, entry]
      · intro counted written
        rw [show Value.ofNat stack.depth = .int (stack.depth : Int) from rfl] at counted ⊢
        rw [counted, written] at raised
        exact (Except.error.inj raised).symm
    · rename_i passed
      split at passed <;> cases passed

end

theorem IsRegular.use {stack : Stack} (regular : stack.IsRegular) (use : Use) :
    ∃ after, (use.run stack).state? = some after ∧ after.IsRegular := by
  cases use with
  | leave key => exact ⟨stack.leave key, rfl, regular.leave key⟩
  | enter limits key =>
      cases entry : stack.enter limits key with
      | ok entered =>
          obtain ⟨inactive, rfl⟩ := entered_is_pushed entry
          refine ⟨stack.pushed key, ?_, regular.pushed inactive⟩
          simp only [Use.run, Run.update, entry, Result.state?]
      | error failure =>
          refine ⟨stack, ?_, regular⟩
          simp only [Use.run, Run.update, entry, Result.state?]

/-! ### Guards -/

/-- Host code that uses a stack through guards only.  The code after a guard is told how the guard
ended, so it may catch a failure or pass it on. -/
inductive Guarding where
  | done
  | fail (failure : Failure)
  | look (next : Stack → Guarding)
  | guard (limits : Limits) (key : String) (body : Guarding) (next : Except Failure Unit → Guarding)

namespace Guarding

def run : Guarding → Run Stack Unit
  | done => Run.pure ()
  | fail failure => Run.raise failure
  | look next => fun stack => (next stack).run stack
  | guard limits key body next =>
    Run.bind (Run.attempt (guarded (Use.enter limits key).run (Use.leave key).run body.run))
      fun outcome => (next outcome).run

end Guarding

def ofKeys (domain : Domain) (keys : List String) : Stack :=
  { domain := domain
    active := keys.map fun key => domain.keyStem ++ key
    path := keys.map fun key => domain.keyStem ++ key }

/-- How host code ends that is told of the guards around it, from the outermost one in, and shares
no stack with anyone. -/
def Guarding.ending (domain : Domain) : Guarding → List String → Except Failure Unit
  | done, _ => .ok ()
  | fail failure, _ => .error failure
  | look next, around => (next (ofKeys domain around)).ending domain around
  | guard limits key body next, around =>
    match (ofKeys domain around).enter limits key with
    | .error failure => (next (.error failure)).ending domain around
    | .ok _ => (next (body.ending domain (around ++ [key]))).ending domain around

theorem pushed_of_keys (domain : Domain) (keys : List String) (key : String) :
    (ofKeys domain keys).pushed key = ofKeys domain (keys ++ [key]) := by
  simp [pushed, ofKeys, fullKey]

theorem attempt_refused {limits : Limits} {key : String} {stack : Stack} {failure : Failure}
    (refused : stack.enter limits key = .error failure) (body : Run Stack Unit) :
    Run.attempt (guarded (Use.enter limits key).run (Use.leave key).run body) stack = .done
      (.error failure) stack := by
  have entry : (Use.enter limits key).run stack = .raised failure stack := by
    simp only [Use.run, Run.update, refused]
  have whole : guarded (Use.enter limits key).run (Use.leave key).run body stack =
      .raised failure stack :=
    Run.bind_of_raised entry
  simp only [Run.attempt, whole]

/-- A body that leaves the stack as it finds it ends a guard on the stack that the guard was entered
on. -/
theorem attempt_admitted {limits : Limits} {key : String} {stack entered : Stack}
    {outcome : Except Failure Unit}
    {body : Run Stack Unit} (admitted : stack.enter limits key = .ok entered)
    (kept : body entered = Run.ofExcept outcome entered) :
    Run.attempt (guarded (Use.enter limits key).run (Use.leave key).run body) stack =
    .done outcome stack := by
  obtain ⟨inactive, rfl⟩ := entered_is_pushed admitted
  have entry : (Use.enter limits key).run stack = .done () (stack.pushed key) := by
    simp only [Use.run, Run.update, admitted]
  have exit : (Use.leave key).run (stack.pushed key) = .done () stack := by
    simp only [Use.run, Run.modify, leave_pushed inactive]
  have inside : Run.followedBy (Use.leave key).run body (stack.pushed key) =
      Run.ofExcept outcome stack := by
    unfold Run.followedBy
    rw [kept]
    cases outcome with
    | ok value => exact Run.bind_of_done exit
    | error failure => exact Run.bind_of_done exit
  have whole : guarded (Use.enter limits key).run (Use.leave key).run body stack =
      Run.ofExcept outcome stack :=
    (Run.bind_of_done entry).trans inside
  exact Run.attempt_of_except whole

namespace Guarding

/-- Whatever stack it is started on, host code that uses it through guards only leaves it as it
was. -/
theorem restores (program : Guarding) (stack : Stack) :
    ∃ outcome, program.run stack = Run.ofExcept outcome stack := by
  induction program generalizing stack with
  | done => exact ⟨.ok (), rfl⟩
  | fail failure => exact ⟨.error failure, rfl⟩
  | look next ih => exact ih stack stack
  | guard limits key body next bodyKeeps nextKeeps =>
      cases entry : stack.enter limits key with
      | error failure =>
          obtain ⟨outcome, after⟩ := nextKeeps (.error failure) stack
          exact ⟨outcome, (Run.bind_of_done (attempt_refused entry body.run)).trans after⟩
      | ok entered =>
          obtain ⟨ended, kept⟩ := bodyKeeps entered
          obtain ⟨outcome, after⟩ := nextKeeps ended stack
          exact ⟨outcome, (Run.bind_of_done (attempt_admitted entry kept)).trans after⟩

/-- A stack that is used through guards shows the keys of the guards around, and no more. -/
theorem run_of_keys (domain : Domain) (program : Guarding) (around : List String) :
    program.run (ofKeys domain around) = Run.ofExcept (program.ending domain around)
      (ofKeys domain around) := by
  induction program generalizing around with
  | done => rfl
  | fail failure => rfl
  | look next ih => exact ih (ofKeys domain around) around
  | guard limits key body next bodyEnds nextEnds =>
      unfold ending
      cases entry : (ofKeys domain around).enter limits key with
      | error failure =>
          exact (Run.bind_of_done (attempt_refused entry body.run)).trans (nextEnds _ around)
      | ok entered =>
          have inside : entered = ofKeys domain (around ++ [key]) := by
            rw [(entered_is_pushed entry).2, pushed_of_keys]
          have kept : body.run entered = Run.ofExcept
              (body.ending domain (around ++ [key])) entered := by
            rw [inside]
            exact bodyEnds (around ++ [key])
          exact (Run.bind_of_done (attempt_admitted entry kept)).trans (nextEnds _ around)

end Guarding

/-- However keys are entered and left, no key stands twice on the path, every key on it is active,
and an entry ends as it should.  Under guards on an empty stack, host code is shown the keys of the
guards around it in the order of their entry, as the path and as what is active; and whatever it
does, each guard ends on the stack that it was entered on. -/
theorem stacks_are_disciplined (domain : Domain) :
    (∀ uses, ∃ outcomes last, Run.attemptAll Use.run uses (empty domain) =
      .done outcomes last ∧ last.IsRegular ∧
      ∀ limits key, last.EntersDuly limits key) ∧
    (∀ program : Guarding,
      program.run (empty domain) = Run.ofExcept (program.ending domain []) (empty domain)) ∧
    ∀ (limits : Limits) (key : String) (body : Guarding) (stack : Stack), ∃ outcome,
      Run.attempt (guarded (Use.enter limits key).run (Use.leave key).run body.run) stack =
      .done outcome stack := by
  refine ⟨?_, ?_, ?_⟩
  · intro uses
    obtain ⟨outcomes, last, ended, regular⟩ :=
      Run.attempt_all_reaches (fun _ stack => IsRegular stack)
      (fun _ use _ before => before.use use) uses (empty_is_regular domain)
    exact ⟨outcomes, last, ended, regular, fun limits key => enters_duly limits key⟩
  · intro program
    exact Guarding.run_of_keys domain program []
  · intro limits key body stack
    cases entry : stack.enter limits key with
    | error failure => exact ⟨.error failure, attempt_refused entry body.run⟩
    | ok entered =>
        obtain ⟨outcome, kept⟩ := body.restores entered
        exact ⟨outcome, attempt_admitted entry kept⟩

end Stack
end Cycle
end Interplay
