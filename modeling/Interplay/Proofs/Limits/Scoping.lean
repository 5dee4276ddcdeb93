import Interplay.Limits
import Interplay.Proofs.Registry.Lookup
import Interplay.Proofs.Run.Attempts

/-!
Changes and blocks of a limits table.

A change is made as a whole or not at all: one unknown name anywhere refuses it.  Blocks nest with
changes, resets and failures in any way, and host code cannot tell the one table that all of them
write from a copy for each block that is dropped at its end.
-/

namespace Interplay

/-- What changes say about a ceiling; of several values for it, the last. -/
def LimitChanges.named? (changes : LimitChanges) (category name : String) : Option Value :=
  changes.reverse.findSome? fun change =>
    if change.1 = category then change.2.toOption.bind fun ceilings =>
      Keyed.find? name ceilings.reverse else none

namespace LimitGroup

/-- A group takes new ceilings for names that it has; no ceiling is called as the group itself. -/
def Takes (ceilings : Table Value) (group : LimitGroup) : Prop :=
  ∀ entry ∈ ceilings, entry.1 ≠ "self" ∧ (group.ceiling? entry.1).isSome = true

theorem refusal_eq_none_iff (group : LimitGroup) (name : String) :
    group.refusal? name = none ↔ name ≠ "self" ∧ (group.ceiling? name).isSome = true := by
  unfold refusal?
  by_cases self : name = "self"
  · simp [self]
  · cases known : group.ceiling? name <;> simp [self]

theorem first_refusal_eq_none_iff (ceilings : Table Value) (group : LimitGroup) :
    ceilings.findSome? (fun change => group.refusal? change.1) = none ↔ group.Takes ceilings := by
  rw [List.findSome?_eq_none_iff]
  constructor
  · intro none entry member
    exact (group.refusal_eq_none_iff entry.1).mp (none entry member)
  · intro takes entry member
    exact (group.refusal_eq_none_iff entry.1).mpr (takes entry member)

theorem update_refused {ceilings : Table Value} {group : LimitGroup}
    (untaken : ¬group.Takes ceilings) :
    ∃ failure, group.update ceilings = .error failure := by
  unfold update
  split
  · exact ⟨_, rfl⟩
  · rename_i free
    exact absurd ((first_refusal_eq_none_iff ceilings group).mp free) untaken

theorem ceilings_of_sets (ceilings : Table Value) (group : LimitGroup) :
    (ceilings.foldl (fun result change => result.set change.1 change.2) group).ceilings =
      ceilings.foldl
        (fun result change => Keyed.insert change.1 change.2 result) group.ceilings := by
  induction ceilings generalizing group with
  | nil => rfl
  | cons change rest ih => exact ih (group.set change.1 change.2)

theorem update_taken {ceilings : Table Value} {group : LimitGroup} (taken : group.Takes ceilings) :
    ∃ changed, group.update ceilings = .ok changed ∧
      ∀ name, changed.ceiling? name = (Keyed.find? name ceilings.reverse).or
        (group.ceiling? name) := by
  refine ⟨ceilings.foldl (fun result change => result.set change.1 change.2) group, ?_, ?_⟩
  · unfold update
    rw [(first_refusal_eq_none_iff ceilings group).mpr taken]
  · intro name
    unfold ceiling?
    rw [ceilings_of_sets, Keyed.find?_foldl_insert]

end LimitGroup

namespace Limits

/-- A table takes changes to ceilings that it has, in categories that it has. -/
def Takes (changes : LimitChanges) (limits : Limits) : Prop :=
  ∀ change ∈ changes, (limits.group? change.1).isSome = true ∧ ∃ ceilings, change.2 = .ok ceilings ∧
    ∀ entry ∈ ceilings, entry.1 ≠ "self" ∧ (limits.ceiling? change.1 entry.1).isSome = true

/-! ### Changes -/

section

variable {category : String} {group changed : LimitGroup} {ceilings : Table Value} {limits : Limits}

theorem takes_cons {changes : LimitChanges} (present : limits.group? category = some group) :
    limits.Takes ((category, .ok ceilings) :: changes) ↔
    group.Takes ceilings ∧ limits.Takes changes := by
  have entries : ∀ name, limits.ceiling? category name = group.ceiling? name := by
    intro name
    unfold ceiling?
    rw [present]
  unfold Takes LimitGroup.Takes
  simp [present, entries]

theorem ceiling_of_set_group_self (name : String) :
    (limits.setGroup category changed).ceiling? category name = changed.ceiling? name := by
  unfold ceiling? group? setGroup
  rw [Keyed.find?_insert_self]

theorem ceiling_of_set_group_of_ne {other : String} (different : other ≠ category) (name : String) :
    (limits.setGroup category changed).ceiling? other name = limits.ceiling? other name := by
  unfold ceiling? group? setGroup
  rw [Keyed.find?_insert_of_ne _ _ different]

/-- A group that was changed has the ceilings that it had, so the table takes the same changes as
before. -/
theorem takes_after_set_group {changes : LimitChanges}
    (present : limits.group? category = some group) (taken : group.Takes ceilings)
    (values : ∀ name, changed.ceiling? name = (Keyed.find? name ceilings.reverse).or
      (group.ceiling? name)) :
    (limits.setGroup category changed).Takes changes ↔ limits.Takes changes := by
  have groups : ∀ other, ((limits.setGroup category changed).group? other).isSome =
      (limits.group? other).isSome := by
    intro other
    unfold group? setGroup
    by_cases same : other = category
    · subst same
      unfold group? at present
      rw [Keyed.find?_insert_self, present]
      rfl
    · rw [Keyed.find?_insert_of_ne _ _ same]
  have entries : ∀ other name, ((limits.setGroup category changed).ceiling? other name).isSome =
      (limits.ceiling? other name).isSome := by
    intro other name
    by_cases same : other = category
    · subst same
      have before : limits.ceiling? other name = group.ceiling? name := by
        unfold ceiling?
        rw [present]
      rw [ceiling_of_set_group_self, before, values]
      cases written : Keyed.find? name ceilings.reverse with
      | none => simp
      | some ceiling =>
          obtain ⟨spelled, equal, member⟩ := Keyed.entry_of_find? written
          have known := (taken _ (List.mem_reverse.mp member)).2
          rw [eq_of_beq equal] at known
          simp [known]
    · rw [ceiling_of_set_group_of_ne same]
  unfold Takes
  simp only [groups, entries]

end

theorem update_refused {changes : LimitChanges} {limits : Limits}
    (untaken : ¬limits.Takes changes) :
    ∃ failure, limits.update changes = .error failure := by
  induction changes generalizing limits with
  | nil => exact absurd (fun _ member => nomatch member) untaken
  | cons change rest ih =>
      obtain ⟨category, asked⟩ := change
      unfold update
      cases present : limits.group? category with
      | none => exact ⟨_, rfl⟩
      | some group =>
          cases asked with
          | error failure => exact ⟨failure, rfl⟩
          | ok ceilings =>
              by_cases taken : group.Takes ceilings
              · obtain ⟨changed, made, values⟩ := LimitGroup.update_taken taken
                have others : ¬limits.Takes rest := fun all => untaken
                    ((takes_cons present).mpr ⟨taken, all⟩)
                simp only [made]
                exact ih (mt (takes_after_set_group present taken values).mp others)
              · obtain ⟨failure, refused⟩ := LimitGroup.update_refused taken
                exact ⟨failure, by simp only [refused]⟩

/-- Changes that the table takes are made: the ceilings that they name are as they say, and all
others as before. -/
theorem update_taken {changes : LimitChanges} {limits : Limits} (taken : limits.Takes changes) :
    ∃ changed, limits.update changes = .ok changed ∧ ∀ category name,
      changed.ceiling? category name = (changes.named? category name).or
        (limits.ceiling? category name) := by
  induction changes generalizing limits with
  | nil => exact ⟨limits, rfl, fun _ _ => rfl⟩
  | cons change rest ih =>
      obtain ⟨category, asked⟩ := change
      obtain ⟨⟨inTable, ceilings, rfl, _⟩, _⟩ := List.forall_mem_cons.mp taken
      obtain ⟨group, present⟩ := Option.isSome_iff_exists.mp inTable
      obtain ⟨first, others⟩ := (takes_cons present).mp taken
      obtain ⟨next, made, values⟩ := LimitGroup.update_taken first
      obtain ⟨changed, done, law⟩ := ih ((takes_after_set_group present first values).mpr others)
      refine ⟨changed, ?_, ?_⟩
      · unfold update
        simp only [present, made, done]
      · intro other name
        rw [law other name]
        unfold LimitChanges.named?
        rw [List.reverse_cons, List.findSome?_append, Option.or_assoc]
        congr 1
        by_cases same : category = other
        · subst same
          have before : limits.ceiling? category name = group.ceiling? name := by
            unfold ceiling?
            rw [present]
          rw [ceiling_of_set_group_self, values name, before]
          simp [Except.toOption]
        · rw [ceiling_of_set_group_of_ne fun equal => same equal.symm]
          simp [same]

/-! ### Blocks -/

/-- Host code around the table.  The code after a change or a block is told how that ended, so it
may catch a failure or pass it on. -/
inductive Program where
  | done
  | fail (failure : Failure)
  | look (next : Limits → Program)
  | set (changes : LimitChanges) (next : Except Failure Unit → Program)
  | reset (next : Program)
  | override (changes : LimitChanges) (body : Program) (next : Except Failure Unit → Program)

namespace Program

/-- Host code on the one table that all of it writes. -/
def run : Program → Run Limits Unit
  | done => Run.pure ()
  | fail failure => Run.raise failure
  | look next => fun limits => (next limits).run limits
  | set changes next =>
    Run.bind (Run.attempt (Run.update (Limits.update changes))) fun outcome => (next outcome).run
  | reset next => Run.bind (Run.modify fun _ => standard) fun _ => next.run
  | override changes body next =>
    Run.bind (Run.attempt (overriding changes body.run)) fun outcome => (next outcome).run

/-- How host code ends, and the table it leaves, if every block works on a copy of its own, which is
dropped at its end. -/
def ending : Program → Limits → Except Failure Unit × Limits
  | done, limits => (.ok (), limits)
  | fail failure, limits => (.error failure, limits)
  | look next, limits => (next limits).ending limits
  | set changes next, limits =>
    match limits.update changes with
    | .error failure => (next (.error failure)).ending limits
    | .ok changed => (next (.ok ())).ending changed
  | reset next, _ => next.ending standard
  | override changes body next, limits =>
    match limits.update changes with
    | .error failure => (next (.error failure)).ending limits
    | .ok changed => (next (body.ending changed).1).ending limits

end Program

section

variable {changes : LimitChanges} {limits changed left : Limits} {failure : Failure}

theorem set_refused (refused : limits.update changes = .error failure) :
    Run.update (Limits.update changes) limits = .raised failure limits := by
  simp only [Run.update, refused]

theorem set_made (made : limits.update changes = .ok changed) :
    Run.update (Limits.update changes) limits = .done () changed := by
  simp only [Run.update, made]

/-- A block whose changes are refused is none of its body's business, whatever that is. -/
theorem overriding_refused {α : Type} (refused : limits.update changes = .error failure)
    (body : Run Limits α) :
    overriding changes body limits = .raised failure limits := by
  change Run.bind (Run.update (Limits.update changes))
    (fun _ => Run.ensuring (fun _ => limits) body) limits = _
  exact Run.bind_of_raised (set_refused refused)

theorem overriding_made {body : Run Limits Unit} {outcome : Except Failure Unit}
    (made : limits.update changes = .ok changed)
    (ended : body changed = Run.ofExcept outcome left) :
    overriding changes body limits = Run.ofExcept outcome limits := by
  have inside : Run.ensuring (fun _ => limits) body changed = Run.ofExcept outcome limits := by
    unfold Run.ensuring
    rw [ended]
    cases outcome with
    | ok value => rfl
    | error failure => rfl
  exact (Run.bind_of_done (set_made made)).trans inside

end

namespace Program

theorem run_eq_ending (program : Program) (limits : Limits) :
    program.run limits = Run.ofExcept (program.ending limits).1 (program.ending limits).2 := by
  induction program generalizing limits with
  | done => rfl
  | fail failure => rfl
  | look next ih => exact ih limits limits
  | reset next ih => exact ih standard
  | set changes next ih =>
      unfold ending
      cases outcome : limits.update changes with
      | error failure =>
          have attempted : Run.attempt (Run.update (Limits.update changes)) limits = .done
              (.error failure) limits :=
            Run.attempt_of_except (set_refused outcome)
          exact (Run.bind_of_done attempted).trans (ih _ limits)
      | ok changed =>
          have attempted : Run.attempt (Run.update (Limits.update changes)) limits =
              .done (.ok ()) changed :=
            Run.attempt_of_except (set_made outcome)
          exact (Run.bind_of_done attempted).trans (ih _ changed)
  | override changes body next bodyEnds nextEnds =>
      unfold ending
      cases outcome : limits.update changes with
      | error failure =>
          have attempted : Run.attempt (overriding changes body.run) limits = .done
              (.error failure) limits :=
            Run.attempt_of_except (overriding_refused outcome body.run)
          exact (Run.bind_of_done attempted).trans (nextEnds _ limits)
      | ok changed =>
          have attempted := Run.attempt_of_except (overriding_made outcome (bodyEnds changed))
          exact (Run.bind_of_done attempted).trans (nextEnds _ limits)

end Program

/-- All that host code does around the table, it does as if every block worked on a copy: however a
block ends, the table is the one from before it.  Changes to names that the table does not have are
refused as a whole, before anything is changed and before the body of a block; changes to names that
it has are made, and touch no other ceiling. -/
theorem changes_and_blocks_are_whole (limits : Limits) :
    (∀ program : Program, program.run limits = Run.ofExcept (program.ending limits).1
      (program.ending limits).2) ∧
    (∀ changes (body : Program), ∃ outcome, overriding changes body.run limits =
      Run.ofExcept outcome limits) ∧
    (∀ changes, ¬limits.Takes changes → ∃ failure,
      Run.update (update changes) limits = .raised failure limits ∧
        ∀ (α : Type) (body : Run Limits α), overriding changes body limits =
        .raised failure limits) ∧
    ∀ changes, limits.Takes changes →
      ∃ changed, Run.update (update changes) limits = .done () changed ∧
      ∀ category name,
        changed.ceiling? category name = (changes.named? category name).or
          (limits.ceiling? category name) := by
  refine ⟨fun program => program.run_eq_ending limits, ?_, ?_, ?_⟩
  · intro changes body
    cases outcome : limits.update changes with
    | error failure => exact ⟨.error failure, overriding_refused outcome body.run⟩
    | ok changed => exact ⟨_, overriding_made outcome (body.run_eq_ending changed)⟩
  · intro changes untaken
    obtain ⟨failure, refused⟩ := update_refused untaken
    exact ⟨failure, set_refused refused, fun _ body => overriding_refused refused body⟩
  · intro changes taken
    obtain ⟨changed, made, values⟩ := update_taken taken
    exact ⟨changed, set_made made, values⟩

/-- A change to the standard ceilings that is made, and one that names an unknown category after a
known one. -/
theorem standard_changes_are_whole :
    let deeper : String × Except Failure (Table Value) := ("formula", .ok [("max_depth", .int 32)])
    (standard.Takes [deeper] ∧ ∃ changed, Run.update (update [deeper]) standard = .done () changed ∧
      changed.ceiling? "formula" "max_depth" = some (.int 32)) ∧
    ¬standard.Takes [deeper, ("unknown", .ok [])] ∧ ∃ failure,
      Run.update (update [deeper, ("unknown", .ok [])]) standard = .raised failure standard := by
  intro deeper
  obtain ⟨_, _, refused, made⟩ := changes_and_blocks_are_whole standard
  have taken : standard.Takes [deeper] := by
    intro change member
    rw [List.mem_singleton.mp member]
    refine ⟨by decide, _, rfl, ?_⟩
    intro entry inside
    rw [List.mem_singleton.mp inside]
    decide
  have untaken : ¬standard.Takes [deeper, ("unknown", .ok [])] := by
    intro all
    have known := (all ("unknown", .ok []) (by simp)).1
    exact absurd known (by decide)
  obtain ⟨changed, done, values⟩ := made [deeper] taken
  obtain ⟨failure, raised, _⟩ := refused _ untaken
  have deep : LimitChanges.named? [deeper] "formula" "max_depth" = some (.int 32) := rfl
  refine ⟨⟨taken, changed, done, ?_⟩, untaken, failure, raised⟩
  rw [values, deep]
  rfl

end Limits
end Interplay
