import Interplay.Evaluate.Machine
import Interplay.Proofs.Value.Whole

/-!
Entering and leaving a cycle stack.

A key that was let in stands last, and leaving it gives back the very stack it entered.  A stack
that holds no more keys than the ceiling allows refuses a key for one reason only, namely that the
key is active.
-/

namespace Interplay
namespace Cycle

/-- Replacing one of many detectors shows at its own place, if at all. -/
theorem held_modify_cases {α : Type} (detectors : Array α) (number other : Nat)
    (detector standard : α) :
    ((detectors.modify number fun _ => detector)[other]?).getD standard =
    (detectors[other]?).getD standard ∨
      other = number ∧ ((detectors.modify number fun _ => detector)[other]?).getD standard =
      detector := by
  rw [Array.getElem?_modify]
  split
  · rename_i same
    cases detectors[other]? with
    | none => exact .inl rfl
    | some held => exact .inr ⟨same.symm, rfl⟩
  · exact .inl rfl

namespace Stack

def pushed (key : String) (stack : Stack) : Stack :=
  { stack with
    active := stack.active ++ [stack.fullKey key]
    path := stack.path ++ [stack.fullKey key] }

@[simp] theorem depth_pushed (key : String) (stack : Stack) :
    (stack.pushed key).depth = stack.depth + 1 := by
  simp [pushed, depth]

theorem entered_is_pushed {limits : Limits} {key : String} {stack entered : Stack}
    (entry : stack.enter limits key = .ok entered) : stack.isActive key = false ∧
    entered = stack.pushed key := by
  unfold enter at entry
  split at entry
  · cases entry
  · rename_i inactive
    split at entry
    · cases entry
    · cases entry
      exact ⟨by simpa using inactive, rfl⟩

theorem cut_at_append_self (key : String) (path : List String) :
    cutAt key (path ++ [key]) = path := by
  simp [cutAt]

theorem leave_pushed {key : String} {stack : Stack} (inactive : stack.isActive key = false) :
    (stack.pushed key).leave key = stack := by
  have absent : stack.fullKey key ∉ stack.active := by
    simpa [isActive] using inactive
  have kept : stack.active.filter (fun entry => entry != stack.fullKey key) = stack.active := by
    rw [List.filter_eq_self]
    intro entry member
    have different : entry ≠ stack.fullKey key := fun equal => absent (equal ▸ member)
    simpa using different
  have sameKey : (stack.pushed key).fullKey key = stack.fullKey key := rfl
  unfold leave
  rw [sameKey]
  simp only [pushed, List.filter_append, kept, cut_at_append_self]
  simp

theorem is_active_pushed {key other : String} {stack : Stack}
    (active : (stack.pushed key).isActive other = true) :
    other = key ∨ stack.isActive other = true := by
  unfold isActive pushed at active
  rw [List.contains_iff_mem] at active
  rcases List.mem_append.mp active with before | added
  · exact .inr (List.contains_iff_mem.mpr before)
  · exact .inl ((String.append_right_inj _).mp (List.mem_singleton.mp added))

theorem active_of_refused {limits : Limits} {key : String} {stack : Stack}
    {failure : Failure} {ceiling : Int}
    (known : limits.ceiling stack.domain.label "max_depth" = .int ceiling)
    (room : (stack.depth : Int) ≤ ceiling)
    (refused : stack.enter limits key = .error failure) : stack.isActive key = true := by
  unfold enter at refused
  split at refused
  · assumption
  · have passed := Limits.check_within known room
    rw [show Value.ofNat stack.depth = .int (stack.depth : Int) from rfl, passed] at refused
    cases refused

end Stack
end Cycle

namespace Machine

theorem stack_modify_stack {number : Nat} {machine : Machine}
    (present : number < machine.cycleStacks.size) (change : Cycle.Stack → Cycle.Stack) :
    (machine.modifyStack number change).stack number = change (machine.stack number) := by
  simp only [stack, modifyStack, Array.getElem?_modify, if_true, Array.getElem?_eq_getElem present,
    Option.map_some, Option.getD_some]

theorem stack_modify_cases (number other : Nat) (entered : Cycle.Stack) (machine : Machine) :
    (machine.modifyStack number fun _ => entered).stack other = machine.stack other ∨
      other = number ∧ (machine.modifyStack number fun _ => entered).stack other = entered :=
  Cycle.held_modify_cases machine.cycleStacks number other entered _

end Machine
end Interplay
