import Mathlib.Data.List.Nodup
import Mathlib.Data.List.Perm.Basic
import Mathlib.Order.Basic
import Interplay.Evaluate.Path
import Interplay.Proofs.Decimal.Numeral

/-!
What JSON values say, whatever the order of their keys.

The content of a value has the keys of its mappings sorted at every level, so values that differ in
the order of keys only have the same content.  Whole numbers, floating-point numbers and truth
values stay apart; all not-a-numbers are alike.  A value that is no JSON value has no content: a
closure, or a mapping with a key that is no text or stands twice.
-/

namespace Interplay

/-- A floating-point number that is a number. -/
inductive Decimal.Double where
  | finite (negative : Bool) (significand : Nat) (exponent : Int)
      (double : Decimal.IsDouble significand exponent)
  | infinite (negative : Bool)

def Decimal.double? (number : Float) : Option Decimal.Double :=
  match known : Decimal.readBits number.toBits.toNat with
  | .finite negative significand exponent =>
    some (.finite negative significand exponent (Decimal.is_double_of_read_bits known))
  | .infinite negative => some (.infinite negative)
  | .undefined => none

theorem Decimal.double_cases {number : Float} {double : Decimal.Double}
    (known : Decimal.double? number = some double) :
    (∃ negative significand exponent valid, Decimal.read number =
      .finite negative significand exponent ∧
        double = .finite negative significand exponent valid) ∨
      ∃ negative, Decimal.read number = .infinite negative ∧ double = .infinite negative := by
  unfold Decimal.double? at known
  split at known
  · rename_i negative significand exponent finite
    cases known
    exact .inl ⟨negative, significand, exponent, Decimal.is_double_of_read_bits finite, finite, rfl⟩
  · rename_i negative infinite
    cases known
    exact .inr ⟨negative, infinite, rfl⟩
  · cases known

inductive Atom where
  | null
  | bool (flag : Bool)
  | int (number : Int)
  | float (double : Decimal.Double)
  | nan

inductive Content where
  | atom (content : Atom)
  | text (content : String)
  | list (items : List Content)
  /-- The keys stand in order. -/
  | mapping (fields : List (String × Content))

namespace Content

def arrange (fields : Table Content) : Table Content :=
  fields.mergeSort fun left right => !decide (right.1 < left.1)

def ofFields? (fields : Table Content) : Option Content :=
  if (fields.map Prod.fst).Nodup then some (.mapping (arrange fields)) else none

end Content

def Scalar.content? : Scalar → Option Content
  | null => some (.atom .null)
  | bool flag => some (.atom (.bool flag))
  | int number => some (.atom (.int number))
  | float number => (Decimal.double? number).map fun double => .atom (.float double)
  | nan _ => some (.atom .nan)
  | text content => some (.text content)
  | closure .. => none

def Scalar.text? : Scalar → Option String
  | text content => some content
  | _ => none

namespace Value

mutual

def content? : Value → Option Content
  | scalar content => content.content?
  | list items => (contents? items).map .list
  | mapping entries => (fields? entries).bind Content.ofFields?

def contents? : List Value → Option (List Content)
  | [] => some []
  | item :: rest => do
    let first ← content? item
    let others ← contents? rest
    return first :: others

def fields? : List (Scalar × Value) → Option (Table Content)
  | [] => some []
  | (key, value) :: rest => do
    let name ← key.text?
    let first ← content? value
    let others ← fields? rest
    return (name, first) :: others

end

/-- JSON values with texts as keys. -/
def IsJson (value : Value) : Prop :=
  ∃ content, value.content? = some content

/-- JSON values that differ in the order of keys only. -/
def SameContent (left right : Value) : Prop :=
  ∃ content, left.content? = some content ∧ right.content? = some content

end Value

namespace Keyed

variable {α : Type}

theorem mem_iff_find? {κ : Type} [BEq κ] [LawfulBEq κ] {table : Keyed κ α}
    (distinct : (table.map Prod.fst).Nodup) (key : κ) (content : α) :
    (key, content) ∈ table ↔ find? key table = some content := by
  induction table with
  | nil => simp [find?]
  | cons entry rest ih =>
      obtain ⟨found, old⟩ := entry
      rw [List.map_cons, List.nodup_cons] at distinct
      by_cases equal : found = key
      · subst equal
        have absent : (found, content) ∉ rest := by
          intro member
          have listed : found ∈ rest.map Prod.fst := List.mem_map.mpr ⟨_, member, rfl⟩
          exact distinct.1 listed
        simp [find?, absent, eq_comm]
      · have different : key ≠ found := fun same => equal same.symm
        simp [find?, equal, different, ih distinct.2]

theorem map_fst_insert (key : String) (content : α) (table : Table α) :
    (insert key content table).map Prod.fst = table.map Prod.fst ∨
      (insert key content table).map Prod.fst = table.map Prod.fst ++ [key] ∧
      key ∉ table.map Prod.fst := by
  induction table with
  | nil => exact .inr ⟨rfl, by simp⟩
  | cons entry rest ih =>
      obtain ⟨found, old⟩ := entry
      by_cases equal : found = key
      · left
        simp [insert, equal]
      · have different : key ≠ found := fun same => equal same.symm
        rcases ih with kept | ⟨longer, absent⟩
        · left
          simp [insert, equal, kept]
        · right
          simp [insert, equal, longer, different]
          simpa using absent

theorem nodup_insert (key : String) (content : α) {table : Table α}
    (distinct : (table.map Prod.fst).Nodup) :
    ((insert key content table).map Prod.fst).Nodup := by
  rcases map_fst_insert key content table with kept | ⟨longer, absent⟩
  · rw [kept]
    exact distinct
  · rw [longer, List.nodup_append]
    refine ⟨distinct, by simp, ?_⟩
    intro present member other single
    rw [List.mem_singleton.mp single]
    rintro rfl
    exact absent member

theorem find?_erase_of_ne {key other : String} (different : other ≠ key) (table : Table α) :
    find? other (erase key table) = find? other table := by
  induction table with
  | nil => rfl
  | cons entry rest ih =>
      obtain ⟨found, old⟩ := entry
      by_cases erased : found = key
      · subst erased
        have skipped : erase found ((found, old) :: rest) = erase found rest := by simp [erase]
        rw [skipped, ih]
        simp [find?, different.symm]
      · have kept : erase key ((found, old) :: rest) = (found, old) :: erase key rest :=
          by simp [erase, erased]
        rw [kept]
        simp [find?, ih]

theorem find?_erase_self (key : String) (table : Table α) : find? key (erase key table) = none := by
  induction table with
  | nil => rfl
  | cons entry rest ih =>
      obtain ⟨found, old⟩ := entry
      by_cases erased : found = key
      · have skipped : erase key ((found, old) :: rest) = erase key rest := by simp [erase, erased]
        rw [skipped, ih]
      · have kept : erase key ((found, old) :: rest) = (found, old) :: erase key rest :=
          by simp [erase, erased]
        rw [kept]
        simp [find?, erased, ih]

theorem nodup_erase (key : String) {table : Table α} (distinct : (table.map Prod.fst).Nodup) :
    ((erase key table).map Prod.fst).Nodup :=
  distinct.sublist (List.filter_sublist.map Prod.fst)

end Keyed

namespace Content

theorem arrange_perm (fields : Table Content) : (arrange fields).Perm fields :=
  List.mergeSort_perm _ _

theorem nodup_arrange {fields : Table Content} (distinct : (fields.map Prod.fst).Nodup) :
    ((arrange fields).map Prod.fst).Nodup :=
  ((arrange_perm fields).map Prod.fst).nodup_iff.mpr distinct

theorem arrange_sorted (fields : Table Content) :
    (arrange fields).Pairwise fun left right => (!decide (right.1 < left.1)) = true := by
  apply List.pairwise_mergeSort
  · intro first second third left right
    simp only [Bool.not_eq_true', decide_eq_false_iff_not, String.not_lt] at left right ⊢
    exact String.le_trans left right
  · intro first second
    rw [Bool.or_eq_true]
    simp only [Bool.not_eq_true', decide_eq_false_iff_not, String.not_lt]
    exact String.le_total first.1 second.1

/-- Fields of which each lookup gives the same are the same once they are in order. -/
theorem arrange_eq_of_find? {fields others : Table Content} (distinct : (fields.map Prod.fst).Nodup)
    (otherDistinct : (others.map Prod.fst).Nodup)
    (same : ∀ key, Keyed.find? key fields = Keyed.find? key others) :
    arrange fields = arrange others := by
  have perm : fields.Perm others := by
    rw [List.perm_ext_iff_of_nodup distinct.of_map otherDistinct.of_map]
    rintro ⟨key, content⟩
    rw [Keyed.mem_iff_find? distinct, Keyed.mem_iff_find? otherDistinct, same]
  have sorted : (arrange fields).Perm (arrange others) :=
    ((arrange_perm fields).trans perm).trans (arrange_perm others).symm
  refine sorted.eq_of_pairwise ?_ (arrange_sorted fields) (arrange_sorted others)
  rintro ⟨key, content⟩ ⟨otherKey, otherContent⟩ member otherMember notAbove notBelow
  simp only [Bool.not_eq_true', decide_eq_false_iff_not, String.not_lt] at notAbove notBelow
  obtain rfl : key = otherKey := String.le_antisymm notAbove notBelow
  have inside := (Keyed.mem_iff_find? (nodup_arrange distinct) key content).mp member
  have otherInside := (Keyed.mem_iff_find? (nodup_arrange distinct) key otherContent).mp
    (sorted.symm.subset otherMember)
  rw [inside] at otherInside
  cases otherInside
  rfl

theorem find?_arrange {fields : Table Content}
    (distinct : (fields.map Prod.fst).Nodup) (key : String) :
    Keyed.find? key (arrange fields) = Keyed.find? key fields := by
  apply Option.ext
  intro content
  rw [← Keyed.mem_iff_find? distinct, ← Keyed.mem_iff_find? (nodup_arrange distinct)]
  exact (arrange_perm fields).mem_iff

end Content

namespace Value

theorem same_text_iff (left right : String) :
    (Scalar.text left == Scalar.text right) = (left == right) := rfl

theorem scalar_content_cases {scalar : Scalar} {content : Content}
    (known : scalar.content? = some content) :
    (∃ inside, content = .atom inside) ∨ ∃ inside, content = .text inside := by
  cases scalar with
  | float number =>
      obtain ⟨double, _, rfl⟩ := Option.map_eq_some_iff.mp known
      exact .inl ⟨_, rfl⟩
  | text inside => cases known; exact .inr ⟨_, rfl⟩
  | closure handle tag => cases known
  | null => cases known; exact .inl ⟨_, rfl⟩
  | bool flag => cases known; exact .inl ⟨_, rfl⟩
  | int number => cases known; exact .inl ⟨_, rfl⟩
  | nan occurrence => cases known; exact .inl ⟨_, rfl⟩

theorem content_cons {item : Value} {rest : List Value} {contents : List Content}
    (known : contents? (item :: rest) = some contents) :
    ∃ first others, item.content? = some first ∧ contents? rest = some others ∧
    contents = first :: others := by
  rw [contents?] at known
  obtain ⟨first, firstKnown, rest⟩ := Option.bind_eq_some_iff.mp known
  obtain ⟨others, othersKnown, made⟩ := Option.bind_eq_some_iff.mp rest
  cases made
  exact ⟨first, others, firstKnown, othersKnown, rfl⟩

theorem fields_cons {key : Scalar} {value : Value} {rest : List (Scalar × Value)}
    {fields : Table Content} (known : fields? ((key, value) :: rest) = some fields) :
    ∃ name first others, key = .text name ∧ value.content? = some first ∧
    fields? rest = some others ∧
      fields = (name, first) :: others := by
  rw [fields?] at known
  obtain ⟨name, named, rest⟩ := Option.bind_eq_some_iff.mp known
  obtain ⟨first, firstKnown, rest⟩ := Option.bind_eq_some_iff.mp rest
  obtain ⟨others, othersKnown, made⟩ := Option.bind_eq_some_iff.mp rest
  cases made
  cases key <;> cases named
  exact ⟨_, first, others, rfl, firstKnown, othersKnown, rfl⟩

theorem fields_of_mapping {entries : Entries} {content : Content}
    (known : (mapping entries).content? = some content) :
    ∃ fields, fields? entries = some fields ∧ (fields.map Prod.fst).Nodup ∧
      content = .mapping (Content.arrange fields) := by
  simp only [content?] at known
  obtain ⟨fields, found, made⟩ := Option.bind_eq_some_iff.mp known
  unfold Content.ofFields? at made
  split at made
  · rename_i distinct
    cases made
    exact ⟨fields, found, distinct, rfl⟩
  · cases made

theorem content_of_fields {entries : Entries} {fields : Table Content}
    (found : fields? entries = some fields) (distinct : (fields.map Prod.fst).Nodup) :
    (mapping entries).content? = some (.mapping (Content.arrange fields)) := by
  simp only [content?, found, Option.bind_some, Content.ofFields?, if_pos distinct]

theorem items_of_list {items : List Value} {content : Content}
    (known : (list items).content? = some content) :
    ∃ contents, contents? items = some contents ∧ content = .list contents := by
  simp only [content?] at known
  obtain ⟨contents, found, made⟩ := Option.map_eq_some_iff.mp known
  exact ⟨contents, found, made.symm⟩

theorem find_in_fields {entries : Entries} {fields : Table Content}
    (known : fields? entries = some fields) (name : String) :
    (Keyed.find? (.text name) entries = none ∧ Keyed.find? name fields = none) ∨
      ∃ value content, Keyed.find? (.text name) entries = some value ∧
      value.content? = some content ∧
        Keyed.find? name fields = some content := by
  induction entries generalizing fields with
  | nil =>
      cases known
      exact .inl ⟨rfl, rfl⟩
  | cons entry rest ih =>
      obtain ⟨key, value⟩ := entry
      obtain ⟨spelled, first, others, rfl, firstKnown, othersKnown, rfl⟩ := fields_cons known
      by_cases equal : spelled = name
      · subst equal
        right
        exact ⟨value, first,
          by simp [Keyed.find?, same_text_iff], firstKnown, by simp [Keyed.find?]⟩
      · have skipped : Keyed.find? (.text name) ((Scalar.text spelled, value) :: rest)
            = Keyed.find? (.text name) rest := by simp [Keyed.find?, same_text_iff, equal]
        have skippedField : Keyed.find? name ((spelled, first) :: others) =
            Keyed.find? name others := by
          simp [Keyed.find?, equal]
        rw [skipped, skippedField]
        exact ih othersKnown

theorem fields_insert {entries : Entries} {fields : Table Content} {name : String} {value : Value}
    {content : Content} (known : fields? entries = some fields)
    (valued : value.content? = some content) :
    fields? (Keyed.insert (.text name) value entries) =
    some (Keyed.insert name content fields) := by
  induction entries generalizing fields with
  | nil =>
      cases known
      simp [Keyed.insert, fields?, Scalar.text?, valued]
  | cons entry rest ih =>
      obtain ⟨key, old⟩ := entry
      obtain ⟨spelled, first, others, rfl, firstKnown, othersKnown, rfl⟩ := fields_cons known
      by_cases equal : spelled = name
      · simp [Keyed.insert, same_text_iff, equal, fields?, Scalar.text?, valued, othersKnown]
      · simp [Keyed.insert, same_text_iff, equal, fields?, Scalar.text?, firstKnown, ih othersKnown]

end Value
end Interplay
