import Interplay.Evaluate.Machine
import Interplay.Evaluate.Path
import Interplay.Proofs.Registry.Lookup
import Interplay.Proofs.Traversal.Document

/-!
The closures that a value mentions.

A closure can only be called by whoever has it, so it matters which values lead to it.  Taking
values apart and putting them together never makes a closure: whatever a result mentions, something
that it was made from mentions too.
-/

namespace Interplay

namespace Value

/-- The closure of this handle stands somewhere in the value, be it as a key. -/
inductive Mentions (handle : Nat) : Value → Prop
  | here (tag : String) : Mentions handle (closure handle tag)
  | item {items : List Value} {item : Value} (member : item ∈ items)
    (inside : Mentions handle item) :
    Mentions handle (list items)
  | key {entries : Entries} {tag : String} {content : Value}
    (member : (.closure handle tag, content) ∈ entries) :
    Mentions handle (mapping entries)
  | content {entries : Entries} {key : Scalar} {content : Value} (member : (key, content) ∈ entries)
    (inside : Mentions handle content) : Mentions handle (mapping entries)

/-- All closures in the value are known. -/
def Within (known : Nat → Prop) (value : Value) : Prop :=
  ∀ handle, value.Mentions handle → known handle

def HasNoClosures (value : Value) : Prop :=
  ∀ handle, ¬value.Mentions handle

end Value

/-- All closures in the entries are known. -/
def Entries.Within (known : Nat → Prop) (entries : Entries) : Prop :=
  ∀ entry ∈ entries, (Value.scalar entry.1).Within known ∧ entry.2.Within known

namespace Value

variable {known : Nat → Prop}

theorem HasNoClosures.within {value : Value} (none : value.HasNoClosures) (known : Nat → Prop) :
    value.Within known :=
  fun handle mentioned => absurd mentioned (none handle)

theorem within_scalar {content : Scalar} (other : ∀ handle tag, content ≠ .closure handle tag) :
    (scalar content).Within known := by
  intro handle mentioned
  cases mentioned with
  | here tag => exact absurd rfl (other handle tag)

theorem within_text (content : String) : (text content).Within known :=
  within_scalar nofun

theorem within_null : null.Within known :=
  within_scalar nofun

theorem within_of_optional {found : Option Value}
    (each : ∀ value, found = some value → value.Within known) :
    (found.getD null).Within known := by
  cases found with
  | none => exact within_null
  | some value => exact each value rfl

theorem within_list {items : List Value} (each : ∀ item ∈ items, item.Within known) :
    (list items).Within known := by
  intro handle mentioned
  cases mentioned with
  | item member inside => exact each _ member handle inside

theorem Within.item {items : List Value} (within : (list items).Within known) {item : Value}
    (member : item ∈ items) :
    item.Within known :=
  fun handle inside => within handle (.item member inside)

theorem within_mapping {entries : Entries} (each : entries.Within known) :
    (mapping entries).Within known := by
  intro handle mentioned
  cases mentioned with
  | key member => exact (each _ member).1 handle (.here _)
  | content member inside => exact (each _ member).2 handle inside

theorem Within.entries {entries : Entries} (within : (mapping entries).Within known) :
    entries.Within known := by
  rintro ⟨key, content⟩ member
  refine ⟨fun handle mentioned => ?_, fun handle inside => within handle (.content member inside)⟩
  cases mentioned with
  | here tag => exact within handle (.key member)

end Value

theorem Keyed.mem_of_insert {κ α : Type} [BEq κ] {key : κ} {content : α}
    {table : Keyed κ α} {entry : κ × α} (member : entry ∈ insert key content table) :
    entry ∈ table ∨ entry.2 = content ∧ (entry.1 = key ∨ ∃ old, (entry.1, old) ∈ table) := by
  induction table with
  | nil =>
      cases List.mem_singleton.mp member
      exact .inr ⟨rfl, .inl rfl⟩
  | cons first rest ih =>
      obtain ⟨found, old⟩ := first
      unfold insert at member
      split at member <;> rcases List.mem_cons.mp member with rfl | later
      · exact .inr ⟨rfl, .inr ⟨old, List.mem_cons_self⟩⟩
      · exact .inl (List.mem_cons_of_mem _ later)
      · exact .inl List.mem_cons_self
      · rcases ih later with present | ⟨same, new | ⟨replaced, present⟩⟩
        · exact .inl (List.mem_cons_of_mem _ present)
        · exact .inr ⟨same, .inl new⟩
        · exact .inr ⟨same, .inr ⟨replaced, List.mem_cons_of_mem _ present⟩⟩

namespace Entries

variable {known : Nat → Prop}

theorem within_nil : Entries.Within known [] :=
  nofun

theorem Within.insert {entries : Entries} (within : entries.Within known)
    {key : Scalar} {content : Value}
    (keyWithin : (Value.scalar key).Within known) (contentWithin : content.Within known) :
    Entries.Within known (Keyed.insert key content entries) := by
  intro entry member
  rcases Keyed.mem_of_insert member with old | ⟨same, new | ⟨replaced, present⟩⟩
  · exact within entry old
  · rw [same, new]
    exact ⟨keyWithin, contentWithin⟩
  · rw [same]
    exact ⟨(within _ present).1, contentWithin⟩

theorem Within.merge {base extra : Entries} (within : base.Within known)
    (extraWithin : extra.Within known) :
    (Entries.merge base extra).Within known := by
  unfold Entries.merge
  induction extra generalizing base with
  | nil => exact within
  | cons entry rest ih =>
      have first := extraWithin entry List.mem_cons_self
      exact ih (within.insert first.1 first.2) fun other member => extraWithin other
        (List.mem_cons_of_mem _ member)

theorem Within.found {entries : Entries} (within : entries.Within known)
    {key : Scalar} {content : Value}
    (found : Keyed.find? key entries = some content) : content.Within known := by
  obtain ⟨spelled, member⟩ := Keyed.mem_of_find? found
  exact (within _ member).2

end Entries

namespace Value

variable {known : Nat → Prop}

theorem within_of_to_key {value : Value} (within : value.Within known) {key : Scalar}
    (made : value.toKey = .ok key) :
    (scalar key).Within known := by
  cases value with
  | scalar content =>
      cases made
      exact within
  | list | mapping => cases made

theorem within_of_spread {value : Value} (within : value.Within known) {entries : Entries}
    (made : value.spread = .ok entries) : entries.Within known := by
  cases value with
  | mapping found =>
      cases made
      exact within.entries
  | scalar | list => cases made

/-- Iterating gives items, keys or characters. -/
theorem within_of_iterate {value : Value} (within : value.Within known) {items : List Value}
    (made : value.iterate = .ok items) : ∀ item ∈ items, item.Within known := by
  intro item member
  cases value with
  | list found =>
      cases made
      exact within.item member
  | mapping entries =>
      cases made
      obtain ⟨entry, listed, rfl⟩ := List.mem_map.mp member
      exact (within.entries entry listed).1
  | scalar content =>
      cases content with
      | text content =>
          cases made
          obtain ⟨character, _, rfl⟩ := List.mem_map.mp member
          exact within_text _
      | _ => cases made

theorem within_of_to_pair {index : Nat} {value first second : Value} (within : value.Within known)
    (made : toPair index value = .ok (first, second)) : first.Within known ∧
    second.Within known := by
  cases value with
  | list items =>
      match items with
      | [left, right] =>
          cases made
          exact ⟨within.item List.mem_cons_self,
            within.item (List.mem_cons_of_mem _ List.mem_cons_self)⟩
      | [] | [_] | _ :: _ :: _ :: _ => cases made
  | mapping entries =>
      match entries with
      | [left, right] =>
          cases made
          exact ⟨(within.entries _ List.mem_cons_self).1,
            (within.entries _ (List.mem_cons_of_mem _ List.mem_cons_self)).1⟩
      | [] | [_] | _ :: _ :: _ :: _ => cases made
  | scalar content =>
      cases content with
      | text content =>
          unfold toPair at made
          dsimp only at made
          split at made
          · cases made
            exact ⟨within_text _, within_text _⟩
          · cases made
      | _ => cases made

theorem within_of_pairs {index : Nat} {items : List Value}
    (each : ∀ item ∈ items, item.Within known)
    {entries made : Entries} (within : entries.Within known)
    (read : pairsFrom index items entries = .ok made) :
    made.Within known := by
  induction items generalizing index entries with
  | nil =>
      cases read
      exact within
  | cons item rest ih =>
      unfold pairsFrom at read
      split at read
      · cases read
      · rename_i first second paired
        have parts := within_of_to_pair (each item List.mem_cons_self) paired
        split at read
        · cases read
        · rename_i key keyed
          exact ih (fun other member => each other (List.mem_cons_of_mem _ member))
            (within.insert (within_of_to_key parts.1 keyed) parts.2) read

theorem within_of_to_arguments {value : Value} (within : value.Within known) {entries : Entries}
    (made : value.toArguments = .ok entries) : entries.Within known := by
  unfold toArguments at made
  split at made
  · cases made
    exact within.entries
  · split at made
    · cases made
    · rename_i items listed
      refine within_of_pairs (fun item member => ?_) Entries.within_nil made
      unfold elements at listed
      split at listed
      · exact within_of_iterate within listed item member
      · cases listed
        cases member

end Value

theorem Path.within_of_step {known : Nat → Prop} {segment : String} {current content : Value}
    (within : current.Within known) (made : Path.step segment current = .ok content) :
    content.Within known := by
  unfold step at made
  split at made
  · cases made
    exact Value.within_null
  · split at made
    · unfold item at made
      split at made
      · cases made
        exact Value.within_null
      · split at made
        · cases made
        · cases made
          exact Value.within_of_optional fun value found => within.item (List.mem_of_getElem? found)
    · cases made
      exact Value.within_of_optional fun value found => within.entries.found found
    · cases made
      exact Value.within_null

theorem Path.within_of_walk {known : Nat → Prop} {segments : List String} {current content : Value}
    (within : current.Within known) (made : Path.walk segments current = .ok content) :
    content.Within known := by
  induction segments generalizing current with
  | nil =>
      cases made
      exact within
  | cons segment rest ih =>
      unfold walk at made
      cases stepped : step segment current with
      | error failure =>
          rw [stepped] at made
          cases made
      | ok next =>
          rw [stepped] at made
          exact ih (within_of_step within stepped) made

namespace Value

theorem text_of_key {entries : Entries} (json : (mapping entries).IsJson)
    {key : Scalar} {content : Value}
    (member : (key, content) ∈ entries) : ∃ name, key = .text name := by
  obtain ⟨said, known⟩ := json
  obtain ⟨fields, found, -, -⟩ := fields_of_mapping known
  clear known
  induction entries generalizing fields with
  | nil => cases member
  | cons entry rest ih =>
      obtain ⟨other, first⟩ := entry
      obtain ⟨name, _, others, rfl, _, othersKnown, _⟩ := fields_cons found
      rcases List.mem_cons.mp member with same | later
      · cases same
        exact ⟨name, rfl⟩
      · exact ih later others othersKnown

theorem no_closures_of_json {value : Value} (json : value.IsJson) : value.HasNoClosures := by
  intro handle mentioned
  induction mentioned with
  | here tag =>
      obtain ⟨content, known⟩ := json
      cases known
  | item member _ ih => exact ih (json.item member)
  | key member =>
      obtain ⟨name, same⟩ := text_of_key json member
      cases same
  | content member _ ih => exact ih (json.entry member)

end Value
end Interplay
