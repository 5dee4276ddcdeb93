import Interplay.Cycle.Detector

/-!
Entering and leaving running workflows.

Every key that is counted as running is counted at least once.  Then leaving a key gives back the
very counts and the very path that it was entered with.
-/

namespace Interplay

namespace Keyed

variable {κ α : Type} [BEq κ]

theorem erase_insert_absent [LawfulBEq κ] {key : κ} {content : α} {table : Keyed κ α}
    (absent : find? key table = none) : erase key (insert key content table) = table := by
  induction table with
  | nil => simp [insert, erase]
  | cons entry rest ih =>
      obtain ⟨found, old⟩ := entry
      by_cases equal : found = key
      · simp [find?, equal] at absent
      · have inner : erase key (insert key content rest) = rest :=
          ih (by simpa [find?, equal] using absent)
        unfold erase at inner ⊢
        simp [insert, equal, inner]

theorem insert_insert_present [LawfulBEq κ] {key : κ} {content old : α} {table : Keyed κ α}
    (present : find? key table = some old) : insert key old (insert key content table) = table := by
  induction table with
  | nil => cases present
  | cons entry rest ih =>
      obtain ⟨found, held⟩ := entry
      by_cases equal : found = key
      · have same : held = old := by simpa [find?, equal] using present
        simp [insert, equal, same]
      · have inner : insert key old (insert key content rest) = rest :=
          ih (by simpa [find?, equal] using present)
        simp [insert, equal, inner]

end Keyed

namespace Cycle
namespace Workflow

variable {κ : Type} [BEq κ] [Key κ]

/-- No key is counted as running zero times. -/
def IsProper (running : Workflow κ) : Prop :=
  ∀ key, Keyed.find? key running.active ≠ some 0

omit [Key κ] in
theorem empty_is_proper (maxRecursion : Value) : (empty maxRecursion : Workflow κ).IsProper :=
  fun _ => nofun

omit [Key κ] in
theorem erase_last_append_self [LawfulBEq κ] (key : κ) (path : List κ) :
    eraseLast key (path ++ [key]) = path := by
  simp [eraseLast]

def entered (key : κ) (running : Workflow κ) : Workflow κ :=
  { running with
    active := Keyed.insert key (running.depthOf key + 1) running.active
    path := running.path ++ [key] }

theorem entered_of_enter {key : κ} {running after : Workflow κ}
    (entry : running.enter key = .ok after) :
    after = running.entered key := by
  unfold enter at entry
  split at entry
  · cases entry
  · cases entry
  · cases entry
    rfl

/-- A key that does not run is refused only by a detector that lets in none at all. -/
theorem refuses_all_of_enter {key : κ} {running : Workflow κ}
    (idle : running.depthOf key = 0) {failure : Failure}
    (refused : running.enter key = .error failure) : ((empty running.maxRecursion).enter key).isOk =
    false := by
  have fresh : (empty running.maxRecursion : Workflow κ).depthOf key = 0 := rfl
  have ceiling : (empty running.maxRecursion : Workflow κ).maxRecursion = running.maxRecursion :=
    rfl
  unfold enter at refused ⊢
  rw [fresh, ceiling]
  rw [idle] at refused
  cases compared : (Value.ofNat 0).compare .atLeast running.maxRecursion with
  | error unlike => rfl
  | ok reached =>
      cases reached with
      | true => rfl
      | false =>
          rw [compared] at refused
          cases refused

/-- A detector that lets in one at a time does let in. -/
example (key : κ) : ((empty (.int 1) : Workflow κ).enter key).isOk = true :=
  rfl

omit [Key κ]

variable [LawfulBEq κ] {running : Workflow κ}

theorem depth_of_entered_self (key : κ) : (running.entered key).depthOf key =
    running.depthOf key + 1 := by
  simp [depthOf, entered, Keyed.find?_insert_self]

theorem depth_of_entered_of_ne {key other : κ} (different : other ≠ key) :
    (running.entered key).depthOf other = running.depthOf other := by
  unfold depthOf entered
  rw [Keyed.find?_insert_of_ne _ _ different]

theorem entered_is_proper (proper : running.IsProper) (key : κ) :
    (running.entered key).IsProper := by
  intro other
  by_cases same : other = key
  · subst same
    simp [entered, Keyed.find?_insert_self]
  · rw [show (running.entered key).active = Keyed.insert key
      (running.depthOf key + 1) running.active from rfl, Keyed.find?_insert_of_ne _ _ same]
    exact proper other

theorem leave_entered (proper : running.IsProper) (key : κ) :
    (running.entered key).leave key = running := by
  unfold leave
  rw [depth_of_entered_self]
  cases counted : Keyed.find? key running.active with
  | none =>
      have fresh : running.depthOf key = 0 := by simp [depthOf, counted]
      simp only [fresh, entered, erase_last_append_self]
      simp [Keyed.erase_insert_absent counted]
  | some count =>
      have known : running.depthOf key = count := by simp [depthOf, counted]
      have positive : count ≠ 0 := fun zero => proper key (by rw [counted, zero])
      simp only [known, entered, erase_last_append_self]
      rw [if_neg (by omega), Nat.add_sub_cancel, Keyed.insert_insert_present counted]

end Workflow
end Cycle
end Interplay
