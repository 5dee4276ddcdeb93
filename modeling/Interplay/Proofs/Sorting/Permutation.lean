import Mathlib.Data.List.Basic
import Interplay.Sorting

/-!
Sorting loses nothing and makes nothing up.

Whatever the comparison says, even if it is no order, each step of a sort only moves items: cutting
a list into runs, taking items from one run or the other, and merging runs on the pile.  So the
sorted list is a permutation of the list.
-/

namespace Interplay
namespace Sorting

variable {α : Type} (below : α → α → Bool)

namespace Merging

/-- All items of a merge under way. -/
def items (merging : Merging α) : List α :=
  merging.merged ++ (merging.left ++ merging.right)

theorem items_take_left (count : Nat) (merging : Merging α) :
    (merging.takeLeft count).items.Perm merging.items := by
  have taken : ((merging.left.take count).reverse ++ merging.merged).Perm
      (merging.merged ++ merging.left.take count) :=
    List.perm_append_comm.trans ((List.reverse_perm _).append_left _)
  have moved := taken.append_right (merging.left.drop count ++ merging.right)
  have whole : merging.left.take count ++ (merging.left.drop count ++ merging.right) =
      merging.left ++ merging.right := by
    rw [← List.append_assoc, List.take_append_drop]
  rw [List.append_assoc merging.merged, whole] at moved
  exact moved

theorem items_take_right (count : Nat) (merging : Merging α) :
    (merging.takeRight count).items.Perm merging.items := by
  have taken : ((merging.right.take count).reverse ++ merging.merged).Perm
      (merging.merged ++ merging.right.take count) :=
    List.perm_append_comm.trans ((List.reverse_perm _).append_left _)
  have swapped : (merging.left ++ merging.right.drop count).Perm
      (merging.right.drop count ++ merging.left) :=
    List.perm_append_comm
  have moved := taken.append swapped
  have whole : merging.right.take count ++ (merging.right.drop count ++ merging.left) =
      merging.right ++ merging.left := by
    rw [← List.append_assoc, List.take_append_drop]
  rw [List.append_assoc merging.merged, whole] at moved
  exact moved.trans (List.perm_append_comm.append_left _)

theorem finish_perm (merging : Merging α) : merging.finish.1.Perm merging.items := by
  unfold finish items
  cases merging.side with
  | front =>
      dsimp only
      rw [List.append_assoc]
      exact (List.reverse_perm _).append List.perm_append_comm
  | back =>
      have sides : (merging.right.reverse ++ merging.left.reverse).Perm
          (merging.left ++ merging.right) :=
        ((List.reverse_perm _).append (List.reverse_perm _)).trans List.perm_append_comm
      exact (sides.append_right _).trans List.perm_append_comm

/-- By induction on the fuel: one item or one round of stretches at a time. -/
theorem run_perm (fuel : Nat) (pace : Pace) (merging : Merging α) :
    (run below fuel pace merging).1.Perm merging.items := by
  induction fuel generalizing pace merging with
  | zero => exact merging.finish_perm
  | succ fuel ih =>
      cases pace with
      | single leftWins rightWins =>
          unfold run
          split
          · dsimp only
            split
            · have moved := merging.items_take_right 1
              split
              · exact (finish_perm _).trans moved
              · split
                · exact (ih _ _).trans moved
                · exact (ih _ _).trans moved
            · have moved := merging.items_take_left 1
              split
              · exact (finish_perm _).trans moved
              · split
                · exact (ih _ _).trans moved
                · exact (ih _ _).trans moved
          · exact merging.finish_perm
      | stretches =>
          unfold run
          extract_lets eased leftCount first second rightCount third fourth
          have one : first.items.Perm merging.items := eased.items_take_left leftCount
          have two : second.items.Perm merging.items := (first.items_take_right 1).trans one
          have three : third.items.Perm merging.items :=
            (second.items_take_right rightCount).trans two
          have four : fourth.items.Perm merging.items := (third.items_take_left 1).trans three
          split
          · exact first.finish_perm.trans one
          · split
            · exact second.finish_perm.trans two
            · split
              · exact third.finish_perm.trans three
              · split
                · exact fourth.finish_perm.trans four
                · split
                  · exact (ih _ _).trans four
                  · exact (ih _ _).trans four

end Merging

theorem merge_from_perm (side : Side) (left right : List α) (patience : Nat) :
    (mergeFrom below side left right patience).1.Perm (left ++ right) := by
  unfold mergeFrom
  extract_lets fuel start
  have started : start.items.Perm (left ++ right) := by
    cases side with
    | front => exact Merging.items_take_right 1 _
    | back =>
        exact (Merging.items_take_left 1 _).trans
          ((List.reverse_perm left).append (List.reverse_perm right))
  split
  · exact start.finish_perm.trans started
  · exact (Merging.run_perm below _ _ start).trans started

theorem merge_runs_perm (left right : List α) (patience : Nat) :
    (mergeRuns below left right patience).1.Perm (left ++ right) := by
  unfold mergeRuns
  split
  · rw [List.append_nil]
  · rename_i first others
    extract_lets before
    split
    · exact .rfl
    · rename_i head rest inside
      extract_lets inner last overlap side merged
      split
      · exact .rfl
      · have merging : merged.1.Perm (inner ++ (first :: others).take overlap) :=
          merge_from_perm below side _ _ _
        have around :=
          (merging.append_left (left.take before)).append_right ((first :: others).drop overlap)
        have whole : left.take before ++ inner = left := by
          rw [show inner = left.drop before from inside.symm, List.take_append_drop]
        rw [← List.append_assoc, whole, List.append_assoc left, List.take_append_drop] at around
        exact around

theorem insert_perm (sorted : List α) (item : α) : (insert below sorted item).Perm
    (sorted ++ [item]) := by
  unfold insert
  extract_lets position
  have swapped : (item :: sorted.drop position).Perm (sorted.drop position ++ [item]) :=
    (List.perm_append_singleton _ _).symm
  have around := swapped.append_left (sorted.take position)
  rw [← List.append_assoc, List.take_append_drop] at around
  exact around

theorem insert_all_perm (items sorted : List α) :
    (items.foldl (insert below) sorted).Perm (sorted ++ items) := by
  induction items generalizing sorted with
  | nil => simp
  | cons item rest ih =>
      have inserted := (insert_perm below sorted item).append_right rest
      rw [List.append_assoc] at inserted
      exact (ih _).trans inserted

theorem leading_run_perm (items : List α) :
    ((leadingRun below items).1 ++ (leadingRun below items).2).Perm items := by
  have turned : ∀ count, ((items.take count).reverse ++ items.drop count).Perm items := by
    intro count
    have kept := (List.reverse_perm (items.take count)).append_right (items.drop count)
    rw [List.take_append_drop] at kept
    exact kept
  unfold leadingRun
  split
  · exact .rfl
  · exact .rfl
  · dsimp only
    split
    · exact turned _
    · rw [List.take_append_drop]

theorem leading_run_takes {items : List α} (filled : items ≠ []) :
    (leadingRun below items).2.length < items.length := by
  unfold leadingRun
  split
  · exact absurd rfl filled
  · simp
  · dsimp only
    split
    · simp only [List.length_drop, List.length_cons]
      omega
    · simp only [List.length_drop, List.length_cons]
      omega

theorem take_run_perm (least : Nat) (items : List α) :
    ((takeRun below least items).1 ++ (takeRun below least items).2).Perm items := by
  unfold takeRun
  extract_lets found missing
  have filled :=
    (insert_all_perm below (found.2.take missing) found.1).append_right (found.2.drop missing)
  rw [List.append_assoc, List.take_append_drop] at filled
  exact filled.trans (leading_run_perm below items)

theorem runs_perm (least fuel : Nat) (items : List α) (enough : items.length ≤ fuel) :
    (runs below least fuel items).flatten.Perm items := by
  induction fuel generalizing items with
  | zero =>
      rw [List.eq_nil_of_length_eq_zero (Nat.le_zero.mp enough)]
      exact .rfl
  | succ fuel ih =>
      cases items with
      | nil => exact .rfl
      | cons item rest =>
          have fewer : (takeRun below least (item :: rest)).2.length < (item :: rest).length := by
            have taken := leading_run_takes below (List.cons_ne_nil item rest)
            simp only [takeRun, List.length_drop]
            omega
          have behind := ih (takeRun below least (item :: rest)).2 (by omega)
          exact (behind.append_left _).trans (take_run_perm below least _)

namespace Pile

/-- All items on a pile, last run first. -/
def items (pile : Pile α) : List α :=
  (pile.pending.map Pending.items).flatten

theorem join_perm (left right : Pending α) (patience : Nat) (rest : List (Pending α)) :
    (((join below left right patience).1 :: rest).map Pending.items).flatten.Perm
      ((right :: left :: rest).map Pending.items).flatten := by
  have merged := (merge_runs_perm below left.items right.items patience).trans List.perm_append_comm
  have around := merged.append_right (rest.map Pending.items).flatten
  rw [List.append_assoc] at around
  exact around

theorem settle_perm (level fuel : Nat) (pile : Pile α) :
    (settle below level fuel pile).items.Perm pile.items := by
  induction fuel generalizing pile with
  | zero => exact .rfl
  | succ fuel ih =>
      unfold settle
      split
      · rename_i right left rest pending
        split
        · have joined := join_perm below left right pile.patience rest
          rw [← pending] at joined
          exact (ih _).trans joined
        · exact .rfl
      · exact .rfl

theorem push_perm (length : Nat) (pile : Pile α) (run : List α) :
    (push below length pile run).items.Perm (run ++ pile.items) := by
  unfold push
  split
  · rename_i pending
    simp [items, pending]
  · extract_lets level added settled
    have kept : settled.items.Perm pile.items := settle_perm below level _ pile
    have added := kept.append_left run
    split
    · rename_i pending
      simp only [items, pending] at added ⊢
      exact added
    · rename_i pending
      simp only [items, pending] at added ⊢
      exact added

theorem push_all_perm (length : Nat) (cut : List (List α)) (pile : Pile α) :
    (cut.foldl (push below length) pile).items.Perm (pile.items ++ cut.flatten) := by
  induction cut generalizing pile with
  | nil => simp
  | cons run rest ih =>
      have pushed :=
        ((push_perm below length pile run).trans List.perm_append_comm).append_right rest.flatten
      rw [List.append_assoc] at pushed
      exact (ih _).trans pushed

theorem collapse_perm (fuel : Nat) (pile : Pile α) :
    (pile.collapse below fuel).Perm pile.items := by
  induction fuel generalizing pile with
  | zero => exact ((List.reverse_perm _).map _).flatten
  | succ fuel ih =>
      unfold collapse
      split
      · rename_i pending
        simp [items, pending]
      · rename_i only pending
        simp [items, pending]
      · rename_i right left pending
        have joined := join_perm below left right pile.patience []
        rw [← pending] at joined
        exact (ih _).trans joined
      · rename_i right middle left rest pending
        split
        · have joined := (join_perm below left middle pile.patience rest).append_left right.items
          have whole : right.items ++ ((middle :: left :: rest).map Pending.items).flatten =
              pile.items := by
            rw [items, pending]
            rfl
          rw [whole] at joined
          exact (ih _).trans joined
        · have joined := join_perm below middle right pile.patience (left :: rest)
          rw [← pending] at joined
          exact (ih _).trans joined

end Pile

/-- A sorted list is a permutation of the list, whether or not the comparison is an order. -/
theorem ascending_perm (items : List α) : (ascending below items).Perm items := by
  unfold ascending
  extract_lets length cut
  have cutting : cut.flatten.Perm items := runs_perm below _ length items (Nat.le_refl _)
  have piled : (cut.foldl (Pile.push below length) Pile.empty).items.Perm cut.flatten :=
    Pile.push_all_perm below length cut Pile.empty
  exact (Pile.collapse_perm below _ _).trans (piled.trans cutting)

end Sorting
end Interplay
