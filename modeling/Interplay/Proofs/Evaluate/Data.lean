import Interplay.Evaluate.Evaluator
import Interplay.Proofs.Value.Content

/-!
What evaluation does with values, in terms of their contents.

Truth, paths into the data root and the slot for arguments do not look at the order of keys: from
values of the same content they lead to values of the same content.
-/

namespace Interplay

def Decimal.Double.isZero : Decimal.Double → Bool
  | finite _ significand _ _ => significand == 0
  | infinite _ => false

namespace Content

def null : Content := .atom .null

/-- Formula truth. -/
def isTrue : Content → Bool
  | atom .null => false
  | atom (.bool flag) => flag
  | atom (.int number) => number != 0
  | atom (.float double) => !double.isZero
  | atom .nan => false
  | text content => !content.isEmpty
  | list items => !items.isEmpty
  | mapping fields => !fields.isEmpty

def item (segment : String) (items : List Content) : Option Content :=
  match Path.index? segment with
  | none => some null
  | some index =>
    if Number.digitLimit < segment.length then none else some ((items[index]?).getD null)

def step (segment : String) (current : Content) : Option Content :=
  if Path.isReserved segment then some null
  else match current with
    | list items => item segment items
    | mapping fields => some ((Keyed.find? segment fields).getD null)
    | _ => some null

def walk : List String → Content → Option Content
  | [], current => some current
  | segment :: rest, current => (step segment current).bind (walk rest)

def withArguments (arguments : Table Content) : Content → Option Content
  | mapping fields =>
    some (.mapping (arrange (Keyed.insert "Args" (.mapping (arrange arguments)) fields)))
  | _ => none

def withoutArguments : Content → Content
  | mapping fields => .mapping (arrange (Keyed.erase "Args" fields))
  | other => other

/-- The keys of a mapping differ. -/
def IsProper : Content → Prop
  | mapping fields => (fields.map Prod.fst).Nodup
  | _ => True

/-- Which arguments a data root gets does not depend on those it has. -/
theorem with_arguments_without_arguments {data : Content} (proper : data.IsProper)
    (arguments : Table Content) :
    data.withoutArguments.withArguments arguments = data.withArguments arguments := by
  cases data with
  | mapping fields =>
      simp only [withoutArguments, withArguments, Option.some.injEq, mapping.injEq]
      have erased := Keyed.nodup_erase "Args" proper
      apply arrange_eq_of_find? (Keyed.nodup_insert _ _ (nodup_arrange erased))
        (Keyed.nodup_insert _ _ proper)
      intro key
      by_cases slot : key = "Args"
      · rw [slot, Keyed.find?_insert_self, Keyed.find?_insert_self]
      · rw [Keyed.find?_insert_of_ne _ _ slot,
          Keyed.find?_insert_of_ne _ _ slot, find?_arrange erased, Keyed.find?_erase_of_ne slot]
  | atom content => rfl
  | text content => rfl
  | list items => rfl

theorem without_arguments_with_arguments {data inner : Content} {arguments : Table Content}
    (proper : data.IsProper)
    (made : data.withArguments arguments = some inner) : inner.withoutArguments =
    data.withoutArguments := by
  cases data with
  | mapping fields =>
      cases made
      simp only [withoutArguments, mapping.injEq]
      have inserted := Keyed.nodup_insert "Args" (Content.mapping (arrange arguments)) proper
      apply arrange_eq_of_find? (Keyed.nodup_erase _ (nodup_arrange inserted))
        (Keyed.nodup_erase _ proper)
      intro key
      by_cases slot : key = "Args"
      · rw [slot, Keyed.find?_erase_self, Keyed.find?_erase_self]
      · rw [Keyed.find?_erase_of_ne slot, Keyed.find?_erase_of_ne slot, find?_arrange inserted,
          Keyed.find?_insert_of_ne _ _ slot]
  | atom content => cases made
  | text content => cases made
  | list items => cases made

end Content

namespace Value

theorem is_proper_of_content {value : Value} {content : Content}
    (known : value.content? = some content) :
    content.IsProper := by
  cases value with
  | scalar scalar =>
      rw [content?] at known
      rcases scalar_content_cases known with ⟨_, rfl⟩ | ⟨_, rfl⟩ <;> trivial
  | list items =>
      obtain ⟨contents, _, rfl⟩ := items_of_list known
      trivial
  | mapping entries =>
      obtain ⟨fields, _, distinct, rfl⟩ := fields_of_mapping known
      exact Content.nodup_arrange distinct

theorem is_zero_of_double {number : Float} {double : Decimal.Double}
    (known : Decimal.double? number = some double) :
    (Number.float number).isZero = double.isZero := by
  unfold Number.isZero Number.same
  rw [show (Number.float number).reading = Decimal.read number from rfl,
    show (Number.int 0).reading = .finite false 0 0 from rfl]
  rcases Decimal.double_cases known with ⟨negative, significand, exponent, valid, read, rfl⟩ |
    ⟨negative, read, rfl⟩
  · have power : Int.ofNat (Decimal.twoPower (exponent - min exponent 0).toNat) ≠ 0 := by
      have positive : 0 < Decimal.twoPower (exponent - min exponent 0).toNat :=
        Nat.pow_pos (by decide)
      simp only [Int.ofNat_eq_natCast]
      omega
    have signed : Decimal.Reading.signed negative significand = 0 ↔ significand = 0 := by
      cases negative <;> simp [Decimal.Reading.signed]
    simp only [read, Decimal.Reading.same, Decimal.Reading.aligned, Decimal.Double.isZero]
    rw [Bool.eq_iff_iff, beq_iff_eq, beq_iff_eq, ← signed,
      show Decimal.Reading.signed false 0 = 0 from rfl, zero_mul, mul_eq_zero, or_iff_left power]
  · rw [read]
    rfl

theorem is_true_of_content {value : Value} {content : Content}
    (known : value.content? = some content) :
    value.isTrue = content.isTrue := by
  cases value with
  | scalar scalar =>
      rw [content?] at known
      cases scalar with
      | float number =>
          obtain ⟨double, found, rfl⟩ := Option.map_eq_some_iff.mp known
          change (!(Number.float number).isZero) = !double.isZero
          rw [is_zero_of_double found]
      | closure handle tag => cases known
      | null => cases known; rfl
      | bool flag => cases known; rfl
      | int number => cases known; rfl
      | nan occurrence => cases known; rfl
      | text content => cases known; rfl
  | list items =>
      obtain ⟨contents, found, rfl⟩ := items_of_list known
      cases items with
      | nil => cases found; rfl
      | cons item rest =>
          obtain ⟨first, others, _, _, rfl⟩ := content_cons found
          rfl
  | mapping entries =>
      obtain ⟨fields, found, _, rfl⟩ := fields_of_mapping known
      have empty : (Content.arrange fields).isEmpty = fields.isEmpty :=
        (Content.arrange_perm fields).isEmpty_eq
      change (!entries.isEmpty) = !(Content.arrange fields).isEmpty
      rw [empty]
      cases entries with
      | nil => cases found; rfl
      | cons entry rest =>
          obtain ⟨key, value⟩ := entry
          obtain ⟨name, first, others, _, _, _, rfl⟩ := fields_cons found
          rfl

/-- An outcome is a value of the expected content, or a failure where none is expected. -/
def Agrees (outcome : Except Failure Value) (expected : Option Content) : Prop :=
  match outcome with
  | .ok value => ∃ content, value.content? = some content ∧ expected = some content
  | .error _ => expected = none

theorem content_of_null : Value.null.content? = some Content.null := by
  rw [content?]
  rfl

theorem content_at {items : List Value} {contents : List Content}
    (known : contents? items = some contents) (index : Nat) :
    ((items[index]?).getD .null).content? = some ((contents[index]?).getD Content.null) := by
  induction items generalizing contents index with
  | nil =>
      cases known
      simpa using content_of_null
  | cons item rest ih =>
      obtain ⟨first, others, firstKnown, othersKnown, rfl⟩ := content_cons known
      cases index with
      | zero => simpa using firstKnown
      | succ index => simpa using ih othersKnown index

theorem step_agrees (segment : String) {current : Value} {content : Content}
    (known : current.content? = some content) : Agrees (Path.step segment current)
    (content.step segment) := by
  unfold Path.step Content.step
  split
  · exact ⟨_, content_of_null, rfl⟩
  · cases current with
    | scalar scalar =>
        rw [content?] at known
        rcases scalar_content_cases known with ⟨_, rfl⟩ |
          ⟨_, rfl⟩ <;> exact ⟨_, content_of_null, rfl⟩
    | list items =>
        obtain ⟨contents, found, rfl⟩ := items_of_list known
        change Agrees (Path.item segment items) (Content.item segment contents)
        unfold Path.item Content.item
        cases Path.index? segment with
        | none => exact ⟨_, content_of_null, rfl⟩
        | some index =>
            dsimp only
            split
            · rfl
            · exact ⟨_, content_at found index, rfl⟩
    | mapping entries =>
        obtain ⟨fields, found, distinct, rfl⟩ := fields_of_mapping known
        change Agrees (.ok ((Keyed.find? (.text segment) entries).getD .null))
          (some ((Keyed.find? segment (Content.arrange fields)).getD Content.null))
        rw [Content.find?_arrange distinct]
        rcases find_in_fields found segment with ⟨absent, noField⟩ |
          ⟨value, content, present, valued, field⟩
        · rw [absent, noField]
          exact ⟨_, content_of_null, rfl⟩
        · rw [present, field]
          exact ⟨_, valued, rfl⟩

/-- A path leads from values to the content of what it leads to from their contents. -/
theorem walk_agrees (segments : List String) {current : Value} {content : Content}
    (known : current.content? = some content) : Agrees (Path.walk segments current)
    (content.walk segments) := by
  induction segments generalizing current content with
  | nil => exact ⟨content, known, rfl⟩
  | cons segment rest ih =>
      have first := step_agrees segment known
      unfold Path.walk Content.walk
      cases stepped : Path.step segment current with
      | error failure =>
          rw [stepped] at first
          rw [show content.step segment = none from first]
          rfl
      | ok next =>
          rw [stepped] at first
          obtain ⟨reached, reachedKnown, expected⟩ := first
          rw [expected]
          exact ih reachedKnown

end Value

namespace Evaluate

theorem package_with_arguments {arguments : Entries} {context inner : Context}
    (made : withArguments arguments context = .ok inner) : inner.package = context.package := by
  unfold withArguments Context.withSlots at made
  split at made
  · cases made
  · cases made
    rfl

/-- A context gets its arguments where its data root is a mapping. -/
theorem with_arguments_agrees {context : Context} {data : Content}
    (known : context.data.content? = some data)
    {entries : Entries} {arguments : Table Content} (found : Value.fields? entries = some arguments)
    (distinct : (arguments.map Prod.fst).Nodup) :
    (∃ inner content, withArguments entries context = .ok inner ∧
      inner.data.content? = some content ∧
        data.withArguments arguments = some content) ∨
      (∃ failure, withArguments entries context = .error failure) ∧
        data.withArguments arguments = none := by
  unfold withArguments Context.withSlots
  cases kind : context.data with
  | mapping base =>
      left
      rw [kind] at known
      obtain ⟨fields, baseFound, baseDistinct, rfl⟩ := Value.fields_of_mapping known
      have slot := Value.content_of_fields found distinct
      have inserted := Value.content_of_fields (Value.fields_insert baseFound slot)
        (Keyed.nodup_insert "Args" _ baseDistinct)
      refine ⟨_, _, rfl, inserted, ?_⟩
      simp only [Content.withArguments, Option.some.injEq, Content.mapping.injEq]
      apply Content.arrange_eq_of_find?
        (Keyed.nodup_insert _ _ (Content.nodup_arrange baseDistinct))
        (Keyed.nodup_insert _ _ baseDistinct)
      intro key
      by_cases equal : key = "Args"
      · rw [equal, Keyed.find?_insert_self, Keyed.find?_insert_self]
      · rw [Keyed.find?_insert_of_ne _ _ equal, Keyed.find?_insert_of_ne _ _ equal,
          Content.find?_arrange baseDistinct]
  | scalar scalar =>
      right
      rw [kind, Value.content?] at known
      refine ⟨⟨_, rfl⟩, ?_⟩
      rcases Value.scalar_content_cases known with ⟨_, rfl⟩ | ⟨_, rfl⟩ <;> rfl
  | list items =>
      right
      rw [kind] at known
      obtain ⟨contents, _, rfl⟩ := Value.items_of_list known
      exact ⟨⟨_, rfl⟩, rfl⟩

end Evaluate
end Interplay
