import Interplay.Evaluate.Routine

/-!
What a lookup can lead to.

A lookup only ever leads to something that was registered, so what holds of all registered entries
holds of whatever a lookup finds.
-/

namespace Interplay

theorem Keyed.entry_of_find? {κ α : Type} [BEq κ] {key : κ} {content : α} {table : Keyed κ α}
    (found : find? key table = some content) : ∃ spelled, (spelled == key) = true ∧
    (spelled, content) ∈ table := by
  induction table with
  | nil => cases found
  | cons entry rest ih =>
      obtain ⟨spelled, old⟩ := entry
      unfold find? at found
      split at found
      · rename_i equal
        cases found
        exact ⟨spelled, equal, List.mem_cons_self⟩
      · obtain ⟨other, equal, member⟩ := ih found
        exact ⟨other, equal, List.mem_cons_of_mem _ member⟩

theorem Keyed.mem_of_find? {κ α : Type} [BEq κ] {key : κ} {content : α} {table : Keyed κ α}
    (found : find? key table = some content) : ∃ spelled, (spelled, content) ∈ table := by
  obtain ⟨spelled, _, member⟩ := entry_of_find? found
  exact ⟨spelled, member⟩

namespace Catalog

variable {Entry Legacy : Type}

/-- An entry that stands under some name of some package. -/
def Holds (catalog : Catalog Entry Legacy) (entry : Entry) : Prop :=
  ∃ package table name, (package, table) ∈ catalog.packages ∧ (name, some entry) ∈ table

theorem holds_of_names {catalog : Catalog Entry Legacy} {key name : Scalar} {entry : Entry}
    (found : Keyed.find? name (catalog.names key) = some (some entry)) : catalog.Holds entry := by
  unfold names at found
  cases package : Keyed.find? key catalog.packages with
  | none =>
      rw [package] at found
      cases found
  | some table =>
      rw [package] at found
      obtain ⟨spelled, inside⟩ := Keyed.mem_of_find? package
      obtain ⟨named, member⟩ := Keyed.mem_of_find? found
      exact ⟨spelled, table, named, inside, member⟩

theorem mem_of_first_holder {name : Scalar} {entry : Entry} {package : Value}
    {packages : Keyed Scalar (Keyed Scalar (Option Entry))}
    (found : firstHolder name packages = some (some entry, package)) :
    ∃ key table named, (key, table) ∈ packages ∧ (named, some entry) ∈ table := by
  induction packages with
  | nil => cases found
  | cons head rest ih =>
      obtain ⟨key, table⟩ := head
      unfold firstHolder at found
      split at found
      · obtain ⟨other, names, named, inside, member⟩ := ih found
        exact ⟨other, names, named, List.mem_cons_of_mem _ inside, member⟩
      · split at found
        · rename_i content known
          cases found
          obtain ⟨named, member⟩ := Keyed.mem_of_find? known
          exact ⟨key, table, named, List.mem_cons_self, member⟩
        · obtain ⟨other, names, named, inside, member⟩ := ih found
          exact ⟨other, names, named, List.mem_cons_of_mem _ inside, member⟩

theorem holds_of_find_anywhere {catalog : Catalog Entry Legacy} {name : Scalar}
    {entry : Entry} {package : Value}
    (found : catalog.findAnywhere name = some (entry, package)) : catalog.Holds entry := by
  unfold findAnywhere at found
  split at found
  · rename_i content known
    cases found
    exact holds_of_names known
  · split at found
    · rename_i content holder known
      cases found
      exact mem_of_first_holder known
    · cases found

theorem holds_of_find? {catalog : Catalog Entry Legacy} {name package : Value}
    {entry : Entry} {holder : Value}
    (found : catalog.find? name package = .ok (some (entry, holder))) : catalog.Holds entry := by
  unfold find? at found
  simp only [bind, Except.bind, pure, Except.pure] at found
  split at found
  · split at found
    · cases found
    · split at found
      · cases found
      · split at found
        · rename_i known
          cases found
          exact holds_of_names known
        · cases found
  · split at found
    · cases found
    · rename_i key named
      exact holds_of_find_anywhere (Except.ok.inj found)

/-- A lookup leads to an entry of some package or to a fallback entry. -/
theorem resolve_cases {catalog : Catalog Entry Legacy} {name package : Value}
    {resolution : Resolution Entry Legacy}
    (resolved : catalog.resolve name package = .ok (some resolution)) :
    (∃ entry holder, resolution = .versioned entry holder ∧ catalog.Holds entry) ∨
      ∃ key entry, resolution = .legacy entry package ∧ (key, entry) ∈ catalog.legacy := by
  unfold resolve at resolved
  simp only [bind, Except.bind, pure, Except.pure] at resolved
  split at resolved
  · cases resolved
  · rename_i outcome known
    split at resolved
    · rename_i entry holder
      cases resolved
      exact .inl ⟨entry, holder, rfl, holds_of_find? known⟩
    · split at resolved
      · cases resolved
      · rename_i fallback asked
        unfold legacy? at asked
        simp only [bind, Except.bind, pure, Except.pure] at asked
        split at asked
        · cases asked
        · cases asked
          obtain ⟨entry, known, rfl⟩ := Option.map_eq_some_iff.mp (Except.ok.inj resolved)
          obtain ⟨spelled, member⟩ := Keyed.mem_of_find? known
          exact .inr ⟨spelled, entry, rfl, member⟩

end Catalog

end Interplay
