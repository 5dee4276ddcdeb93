/-!
Association lists in insertion order.

Writing to a present key keeps its place and its spelling; a new key goes to the end.  Which keys
are the same is up to `==` of the key type.  So of several writes to a key the last one counts for
what is found under it, and the first one for its place.
-/

namespace Interplay

abbrev Keyed (κ α : Type) := List (κ × α)

/-- Keyed by texts. -/
abbrev Table (α : Type) := Keyed String α

namespace Keyed

variable {κ α : Type} [BEq κ]

def find? (key : κ) : Keyed κ α → Option α
  | [] => none
  | (found, content) :: rest => if found == key then some content else find? key rest

def contains (key : κ) (table : Keyed κ α) : Bool :=
  (find? key table).isSome

def insert (key : κ) (content : α) : Keyed κ α → Keyed κ α
  | [] => [(key, content)]
  | (found, old) :: rest =>
    if found == key then (found, content) :: rest else (found, old) :: insert key content rest

def erase (key : κ) (table : Keyed κ α) : Keyed κ α :=
  table.filter fun entry => !(entry.1 == key)

theorem find?_insert_self [LawfulBEq κ] (key : κ) (content : α) (table : Keyed κ α) :
    find? key (insert key content table) = some content := by
  induction table with
  | nil => simp [insert, find?]
  | cons entry rest ih =>
    obtain ⟨found, old⟩ := entry
    by_cases equal : found = key <;> simp [insert, find?, equal, ih]

theorem find?_insert_of_ne [LawfulBEq κ] {key other : κ} (content : α) (table : Keyed κ α)
    (different : other ≠ key) : find? other (insert key content table) = find? other table := by
  induction table with
  | nil => simp [insert, find?, different.symm]
  | cons entry rest ih =>
    obtain ⟨found, old⟩ := entry
    by_cases equal : found = key
    · subst equal
      simp [insert, find?, different.symm]
    · by_cases same : found = other
      · subst same
        simp [insert, find?, equal]
      · simp [insert, find?, equal, same, ih]

theorem erase_of_absent {key : κ} {table : Keyed κ α} (absent : find? key table = none) :
    erase key table = table := by
  induction table with
  | nil => rfl
  | cons entry rest ih =>
      obtain ⟨found, content⟩ := entry
      unfold find? at absent
      split at absent
      · cases absent
      · rename_i apart
        have others : erase key rest = rest := ih absent
        unfold erase at others ⊢
        simp [apart, others]

theorem find?_append (key : κ) (first second : Keyed κ α) :
    find? key (first ++ second) = (find? key first).or (find? key second) := by
  induction first with
  | nil => rfl
  | cons entry rest ih =>
      obtain ⟨found, content⟩ := entry
      by_cases same : (found == key) = true
      · simp [find?, same]
      · simp [find?, same, ih]

variable [LawfulBEq κ]

theorem find?_singleton {key other : κ} (content : α) (different : key ≠ other) :
    find? other [(key, content)] = none := by
  simp [find?, different]

/-- A write to a key that was just written is the only one that counts. -/
theorem insert_insert (key : κ) (first second : α) (table : Keyed κ α) :
    insert key second (insert key first table) = insert key second table := by
  induction table with
  | nil => simp [insert]
  | cons entry rest ih =>
      obtain ⟨found, old⟩ := entry
      by_cases equal : found = key
      · simp [insert, equal]
      · simp [insert, equal, ih]

/-- Of several writes to a key, the last one counts. -/
theorem find?_foldl_insert (key : κ) (entries table : Keyed κ α) :
    find? key (entries.foldl (fun result entry => insert entry.1 entry.2 result) table) =
      (find? key entries.reverse).or (find? key table) := by
  induction entries generalizing table with
  | nil => rfl
  | cons entry rest ih =>
      obtain ⟨written, content⟩ := entry
      rw [List.foldl_cons, ih, List.reverse_cons, find?_append, Option.or_assoc]
      congr 1
      by_cases same : written = key
      · subst same
        simp [find?_insert_self, find?]
      · have missed : key ≠ written := fun equal => same equal.symm
        rw [find?_insert_of_ne _ _ missed, find?_singleton _ same, Option.none_or]

/-- The first of the keys that a test accepts stays the first: a written key stands where it stood,
or else last. -/
theorem find?_keys_insert (accepts : κ → Bool) (key : κ) (content : α) (table : Keyed κ α) :
    ((insert key content table).map Prod.fst).find? accepts =
      ((table.map Prod.fst).find? accepts).or ([key].find? accepts) := by
  induction table with
  | nil => rfl
  | cons entry rest ih =>
      obtain ⟨found, old⟩ := entry
      by_cases equal : found = key
      · cases accepted : accepts key <;> simp [insert, equal, accepted]
      · cases accepted : accepts found
        · simpa [insert, equal, accepted] using ih
        · simp [insert, equal, accepted]

end Keyed
end Interplay
