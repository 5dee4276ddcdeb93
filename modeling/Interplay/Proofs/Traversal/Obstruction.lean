import Mathlib.Logic.Relation
import Interplay.Proofs.Registry.Lookup
import Interplay.Proofs.Traversal.Reading

/-!
Which persisted formulas cannot be read.

The reader of formulas descends to the formulas of arguments, to the conditions and results of cases
and to fallbacks.  It fails exactly if some formula that it can descend to is obstructed: the field
that should hold its list is a number other than zero or true, or a text that it takes over holds a
number too long to be written.
-/

namespace Interplay

/-- Whether there is a failure instead of a result. -/
def Failing {α : Type} (result : Except Failure α) : Prop :=
  ∃ failure, result = .error failure

section Failing

variable {α β : Type}

theorem not_failing_ok (content : α) : ¬Failing (.ok content : Except Failure α) := by
  rintro ⟨failure, equal⟩
  cases equal

theorem failing_error (failure : Failure) : Failing (.error failure : Except Failure α) :=
  ⟨failure, rfl⟩

/-- Two steps of which the second does not depend on the first fail if one of them does. -/
theorem failing_bind_iff {first : Except Failure α} {next : α → Except Failure β} {later : Prop}
    (continues : ∀ content, Failing (next content) ↔ later) : Failing (first >>= next) ↔
    Failing first ∨ later := by
  cases first with
  | error failure => exact ⟨fun _ => .inl (failing_error failure), fun _ => failing_error failure⟩
  | ok content =>
      have passes : ¬Failing (.ok content : Except Failure α) := not_failing_ok content
      rw [or_iff_right passes]
      exact continues content

theorem failing_bind_pure {first : Except Failure α} (next : α → β) :
    Failing (first >>= fun content => pure (next content)) ↔ Failing first := by
  have passes : ∀ content, Failing (pure (next content) : Except Failure β) ↔ False :=
    fun content => iff_of_false (not_failing_ok _) id
  rw [failing_bind_iff passes, or_false]

theorem failing_map_iff (step : α → Except Failure β) (items : List α) :
    Failing (items.mapM step) ↔ ∃ item ∈ items, Failing (step item) := by
  induction items with
  | nil => exact iff_of_false (not_failing_ok []) (by simp)
  | cons item rest ih =>
      rw [List.mapM_cons, failing_bind_iff fun _ => failing_bind_pure _, ih]
      simp

end Failing

namespace Value

/-- A filled value that nothing can be taken out of: true, or a number other than zero. -/
def isSolid : Value → Bool
  | text _ => false
  | scalar content => content.isFilled
  | _ => false

def objects : Value → List Value
  | list items => items.filter isObject
  | _ => []

def formulaTag (source : Value) : String :=
  match source.field "type" with
  | text content => content
  | _ => ""

theorem failing_elements_iff (source : Value) : Failing source.elements ↔
    source.isSolid = true := by
  cases source with
  | list items =>
      rw [elements]
      split <;> exact iff_of_false (not_failing_ok _) nofun
  | mapping entries =>
      rw [elements]
      split <;> exact iff_of_false (not_failing_ok _) nofun
  | scalar content =>
      rw [elements]
      cases content with
      | text inside =>
          split <;> exact iff_of_false (not_failing_ok _) nofun
      | null => exact iff_of_false (not_failing_ok _) nofun
      | closure => exact iff_of_true (failing_error _) rfl
      | nan => exact iff_of_true (failing_error _) rfl
      | bool | int | float =>
          split
          · rename_i filled
            exact iff_of_true (failing_error _) filled
          · rename_i unfilled
            exact iff_of_false (not_failing_ok _) unfilled

theorem failing_written_iff (source : Value) : Failing source.written ↔
    source.isWritable = false := by
  rw [written]
  split
  · rename_i writable
    exact iff_of_false (not_failing_ok _) (by simp [writable])
  · rename_i unwritable
    exact iff_of_true (failing_error _) (by simpa using unwritable)

end Value

namespace Formula

def listKey? : String → Option String
  | "path" => some "path"
  | "function" | "apply" | "object" | "record" | "array" | "or" | "and" => some "arguments"
  | "switch" => some "cases"
  | _ => none

/-- The formulas that the reader goes on to from a persisted formula. -/
inductive HasPart (source : Value) : Value → Prop
  | argument {entry : Value} (listed : listKey? source.formulaTag = some "arguments")
    (member : entry ∈ (source.field "arguments").objects) : HasPart source (entry.field "formula")
  | condition {entry : Value} (tagged : source.formulaTag = "switch")
    (member : entry ∈ (source.field "cases").objects) : HasPart source (entry.field "condition")
  | result {entry : Value} (tagged : source.formulaTag = "switch")
    (member : entry ∈ (source.field "cases").objects) : HasPart source (entry.field "formula")
  | fallback (tagged : source.formulaTag = "switch") : HasPart source (source.field "default")

/-- The formulas that the reader can descend to. -/
abbrev HasPosition : Value → Value → Prop :=
  Relation.ReflTransGen HasPart

/-- The list that the variant is read from is a number or true. -/
def IsListless (source : Value) : Prop :=
  ∃ key, listKey? source.formulaTag = some key ∧ (source.field key).isSolid = true

/-- A segment of a path or the name of a call has too many digits to be written. -/
inductive IsUnspeakable (source : Value) : Prop
  | segment {items : List Value} {item : Value} (tagged : source.formulaTag = "path")
    (segments : (source.field "path").elements = .ok items) (member : item ∈ items)
    (long : item.isWritable = false)
  | name (tagged : source.formulaTag = "function" ∨ source.formulaTag = "apply")
    (long : (source.field "name").isWritable = false)

/-- Nothing can be read from a formula itself, whatever its parts are. -/
def IsObstructed (source : Value) : Prop :=
  IsListless source ∨ IsUnspeakable source

theorem failing_no_items_iff {α : Type} (source : Value) :
    Failing (noItems source : Except Failure (List α)) ↔ source.isSolid = true := by
  rw [← Value.failing_elements_iff, noItems]
  cases source.elements with
  | error failure => exact iff_of_true (failing_error _) (failing_error _)
  | ok items => exact iff_of_false (not_failing_ok _) (not_failing_ok _)

theorem failing_segments_iff (source : Value) : Failing (readSegments source) ↔
    source.isSolid = true ∨ ∃ items, source.elements = .ok items ∧
    ∃ item ∈ items, item.isWritable = false := by
  rw [← Value.failing_elements_iff, readSegments]
  cases known : source.elements with
  | error failure => exact iff_of_true (failing_error _) (.inl (failing_error _))
  | ok items =>
      rw [or_iff_right (not_failing_ok items), failing_map_iff]
      simp only [Value.failing_written_iff, Except.ok.injEq, exists_eq_left']

theorem failing_name_iff (entries : Entries) :
    Failing (readName entries) ↔ (Value.field "name" (.mapping entries)).isWritable = false := by
  rw [readName, Value.field]
  cases Keyed.find? (.text "name") entries with
  | none => exact iff_of_false (not_failing_ok _) (Bool.noConfusion ·)
  | some found => exact Value.failing_written_iff found

theorem failing_objects_iff {α : Type} {reader : List Value → Except Failure (List α)}
    {fails : Value → Prop} (nothing : reader [] = .ok [])
    (scalar : ∀ content rest, reader (.scalar content :: rest) = reader rest)
    (list : ∀ items rest, reader (.list items :: rest) = reader rest)
    (object : ∀ entries rest, Failing (reader (.mapping entries :: rest)) ↔
      fails (.mapping entries) ∨ Failing (reader rest)) (items : List Value) :
    Failing (reader items) ↔ ∃ entry ∈ (Value.list items).objects, fails entry := by
  induction items with
  | nil =>
      rw [nothing]
      exact iff_of_false (not_failing_ok _) (by simp [Value.objects])
  | cons item rest ih =>
      cases item with
      | scalar content =>
          rw [scalar, ih]
          rfl
      | list inner =>
          rw [list, ih]
          rfl
      | mapping entries =>
          have kept : (Value.list (.mapping entries :: rest)).objects = .mapping entries ::
              (Value.list rest).objects :=
            rfl
          rw [object, ih, kept, List.exists_mem_cons_iff]

theorem failing_arguments_iff (source : Value) : Failing (readArguments source) ↔
    source.isSolid = true ∨ ∃ entry ∈ source.objects, Failing (read (entry.field "formula")) := by
  cases source with
  | scalar content =>
      rw [readArguments, failing_no_items_iff]
      · simp [Value.objects]
      · rintro items ⟨⟩
  | mapping entries =>
      rw [readArguments, failing_no_items_iff]
      · simp [Value.objects]
      · rintro items ⟨⟩
  | list items =>
      rw [readArguments,
        or_iff_right (show ¬(Value.list items).isSolid = true from Bool.false_ne_true)]
      refine failing_objects_iff (by rw [readArgumentItems]) ?_ ?_ ?_ items
      · intro content rest
        rw [readArgumentItems]
        rintro entries ⟨⟩
      · intro inner rest
        rw [readArgumentItems]
        rintro entries ⟨⟩
      · intro entries rest
        rw [readArgumentItems, read_field_eq, failing_bind_iff fun _ => failing_bind_pure _]

theorem failing_cases_iff (source : Value) : Failing (readCases source) ↔ source.isSolid = true ∨
    ∃ entry ∈ source.objects, Failing (read (entry.field "condition")) ∨
    Failing (read (entry.field "formula")) := by
  cases source with
  | scalar content =>
      rw [readCases, failing_no_items_iff]
      · simp [Value.objects]
      · rintro items ⟨⟩
  | mapping entries =>
      rw [readCases, failing_no_items_iff]
      · simp [Value.objects]
      · rintro items ⟨⟩
  | list items =>
      rw [readCases, or_iff_right (show ¬(Value.list items).isSolid = true from Bool.false_ne_true)]
      refine failing_objects_iff (by rw [readCaseItems]) ?_ ?_ ?_ items
      · intro content rest
        rw [readCaseItems]
        rintro entries ⟨⟩
      · intro inner rest
        rw [readCaseItems]
        rintro entries ⟨⟩
      · intro entries rest
        rw [readCaseItems, read_field_eq, read_field_eq,
          failing_bind_iff fun _ => failing_bind_iff fun _ => failing_bind_pure _, or_assoc]

theorem exists_part_iff (source : Value) (holds : Value → Prop) :
    (∃ part, HasPart source part ∧ holds part) ↔
    (listKey? source.formulaTag = some "arguments" ∧
        ∃ entry ∈ (source.field "arguments").objects, holds (entry.field "formula")) ∨
      source.formulaTag = "switch" ∧ ((∃ entry ∈ (source.field "cases").objects,
        holds (entry.field "condition") ∨ holds (entry.field "formula")) ∨
        holds (source.field "default")) := by
  constructor
  · rintro ⟨part, has, held⟩
    cases has with
    | argument listed member => exact .inl ⟨listed, _, member, held⟩
    | condition tagged member => exact .inr ⟨tagged, .inl ⟨_, member, .inl held⟩⟩
    | result tagged member => exact .inr ⟨tagged, .inl ⟨_, member, .inr held⟩⟩
    | fallback tagged => exact .inr ⟨tagged, .inr held⟩
  · rintro (⟨listed, entry, member, held⟩ | ⟨tagged, ⟨entry, member, held | held⟩ | held⟩)
    · exact ⟨_, .argument listed member, held⟩
    · exact ⟨_, .condition tagged member, held⟩
    · exact ⟨_, .result tagged member, held⟩
    · exact ⟨_, .fallback tagged, held⟩

theorem unspeakable_iff (source : Value) : IsUnspeakable source ↔
    (source.formulaTag = "path" ∧ ∃ items, (source.field "path").elements = .ok items ∧
        ∃ item ∈ items, item.isWritable = false) ∨
      (source.formulaTag = "function" ∨ source.formulaTag = "apply") ∧
        (source.field "name").isWritable = false := by
  constructor
  · rintro (⟨tagged, segments, member, long⟩ | ⟨tagged, long⟩)
    · exact .inl ⟨tagged, _, segments, _, member, long⟩
    · exact .inr ⟨tagged, long⟩
  · rintro (⟨tagged, items, segments, item, member, long⟩ | ⟨tagged, long⟩)
    · exact .segment tagged segments member long
    · exact .name tagged long

theorem failing_read_iff (source : Value) :
    Failing (read source) ↔ IsObstructed source ∨ ∃ part, HasPart source part ∧ Failing (read part) := by
  rw [exists_part_iff, IsObstructed, IsListless, unspeakable_iff]
  cases source with
  | scalar content =>
      rw [read_of_no_object rfl]
      exact iff_of_false (not_failing_ok _) (by simp [Value.formulaTag, Value.field, listKey?])
  | list items =>
      rw [read_of_no_object rfl]
      exact iff_of_false (not_failing_ok _) (by simp [Value.formulaTag, Value.field, listKey?])
  | mapping entries =>
      rw [read]
      simp only [read_arguments_field_eq, read_cases_field_eq, read_field_eq]
      have tag : (Value.mapping entries).formulaTag =
          match (Keyed.find? (.text "type") entries).getD .null with | .text content => content | _ => "" := rfl
      -- values, paths, calls with a name, collections of arguments and switches, in the order of
      -- the reader
      split
      case h_1 found =>
        rw [found] at tag
        exact iff_of_false (not_failing_ok _) (by simp [tag, listKey?])
      case h_2 found =>
        rw [found] at tag
        rw [failing_bind_pure, show (Keyed.find? (.text "path") entries).getD .null =
          Value.field "path" (.mapping entries) from rfl, failing_segments_iff]
        simp [tag, listKey?]
      case h_3 found | h_4 found =>
        rw [found] at tag
        rw [failing_bind_iff fun _ => failing_bind_pure _, failing_name_iff, failing_arguments_iff]
        simp [tag, listKey?, or_left_comm, or_assoc]
      case h_5 found | h_6 found | h_7 found | h_8 found | h_9 found =>
        rw [found] at tag
        rw [failing_bind_pure, failing_arguments_iff]
        simp [tag, listKey?]
      case h_10 found =>
        rw [found] at tag
        rw [failing_bind_iff fun _ => failing_bind_pure _, failing_cases_iff]
        simp [tag, listKey?, or_assoc]
      case h_11 value path function apply object record array or and switch =>
        refine iff_of_false (not_failing_ok _) ?_
        cases found : (Keyed.find? (.text "type") entries).getD .null with
        | list | mapping => simp [tag, found, listKey?]
        | scalar content =>
            cases content with
            | null | bool | int | float | nan | closure => simp [tag, found, listKey?]
            | text content =>
                rw [found] at tag
                simp only [found, Value.scalar.injEq, Scalar.text.injEq, imp_false] at *
                simp [tag, listKey?, path, function, apply, switch]

theorem size_field (name : String) (source : Value) :
    source.field name = .null ∨ sizeOf (source.field name) < sizeOf source := by
  cases source with
  | scalar | list => exact .inl rfl
  | mapping entries =>
      cases found : Keyed.find? (Scalar.text name) entries with
      | none =>
          left
          rw [Value.field, found]
          rfl
      | some value =>
          right
          obtain ⟨key, member⟩ := Keyed.mem_of_find? found
          have inside := List.sizeOf_lt_of_mem member
          rw [Value.field, found]
          simp only [Option.getD_some, Value.mapping.sizeOf_spec, Prod.mk.sizeOf_spec] at inside ⊢
          omega

theorem size_object {source entry : Value} (member : entry ∈ source.objects) :
    sizeOf entry < sizeOf source := by
  cases source with
  | scalar | mapping => cases member
  | list items =>
      have inside := List.sizeOf_lt_of_mem (List.mem_filter.mp member).1
      simp only [Value.list.sizeOf_spec]
      omega

theorem size_part {source part : Value} (has : HasPart source part) (fails : Failing (read part)) :
    sizeOf part < sizeOf source := by
  have present (holder : Value) (name : String) (fails : Failing (read (holder.field name))) :
      sizeOf (holder.field name) < sizeOf holder := by
    rcases size_field name holder with missing | smaller
    · rw [missing, read_null] at fails
      exact absurd fails (not_failing_ok _)
    · exact smaller
  have listed (label name : String) (entry : Value) (member : entry ∈ (source.field label).objects)
      (fails : Failing (read (entry.field name))) : sizeOf (entry.field name) < sizeOf source := by
    have inner := present entry name fails
    have middle := size_object member
    rcases size_field label source with missing | smaller
    · rw [missing] at member
      cases member
    · omega
  cases has with
  | argument _ member => exact listed _ _ _ member fails
  | condition _ member => exact listed _ _ _ member fails
  | result _ member => exact listed _ _ _ member fails
  | fallback _ => exact present source _ fails

theorem read_fails_iff_obstructed (source : Value) :
    Failing (read source) ↔ ∃ position, HasPosition source position ∧ IsObstructed position := by
  constructor
  · intro fails
    induction size : sizeOf source using Nat.strong_induction_on generalizing source with
    | _ bound ih =>
        rcases (failing_read_iff source).mp fails with obstructed | ⟨part, has, partFails⟩
        · exact ⟨source, .refl, obstructed⟩
        · obtain ⟨position, below, obstructed⟩ :=
            ih (sizeOf part) (size ▸ size_part has partFails) part partFails rfl
          exact ⟨position, .head has below, obstructed⟩
  · rintro ⟨position, below, obstructed⟩
    induction below using Relation.ReflTransGen.head_induction_on with
    | refl => exact (failing_read_iff position).mpr (.inl obstructed)
    | head has _ ih => exact (failing_read_iff _).mpr (.inr ⟨_, has, ih⟩)

end Formula
end Interplay
