import Interplay.Proofs.Evaluate.Denotation
import Interplay.Value.Entries

/-!
Values that are alike.

Values are alike if they are JSON values that differ in the order of keys only and hold no
not-a-number, whose identity is no matter of content.  Alike values are equal to the same values, so
a signal that compares cannot tell them apart.
-/

namespace Interplay

def Decimal.Double.reading : Decimal.Double → Decimal.Reading
  | finite negative significand exponent _ => .finite negative significand exponent
  | infinite negative => .infinite negative

def Atom.reading? : Atom → Option Decimal.Reading
  | bool flag => some (Number.int (if flag then 1 else 0)).reading
  | int number => some (Number.int number).reading
  | float double => some double.reading
  | _ => none

def Atom.same : Atom → Atom → Bool
  | null, null => true
  | left, right =>
    match left.reading?, right.reading? with
    | some first, some second => first.same second
    | _, _ => false

namespace Content

inductive IsDefinite : Content → Prop
  | atom {content : Atom} (number : content ≠ .nan) : IsDefinite (.atom content)
  | text (content : String) : IsDefinite (.text content)
  | list {items : List Content} (inside : ∀ item ∈ items, item.IsDefinite) :
      IsDefinite (.list items)
  | mapping {fields : List (String × Content)} (inside : ∀ field ∈ fields, field.2.IsDefinite) :
    IsDefinite (.mapping fields)

mutual

/-- Equality of contents, as signals see it. -/
def same : Content → Content → Bool
  | atom left, atom right => left.same right
  | text left, text right => left == right
  | list left, list right => sameItems left right
  | mapping left, mapping right => left.length == right.length && sameFields left right
  | _, _ => false

def sameItems : List Content → List Content → Bool
  | [], [] => true
  | left :: leftRest, right :: rightRest => same left right && sameItems leftRest rightRest
  | _, _ => false

def sameFields : List (String × Content) → List (String × Content) → Bool
  | [], _ => true
  | (key, left) :: rest, fields =>
    (match Keyed.find? key fields with
    | some right => same left right
    | none => false) && sameFields rest fields

end

theorem same_fields_eq_all (left right : List (String × Content)) :
    sameFields left right = left.all fun field =>
      match Keyed.find? field.1 right with
      | some found => same field.2 found
      | none => false := by
  induction left with
  | nil => rfl
  | cons field rest ih =>
      obtain ⟨key, content⟩ := field
      rw [sameFields, List.all_cons, ih]

theorem same_fields_arrange {left right : Table Content} (distinct : (right.map Prod.fst).Nodup) :
    sameFields (arrange left) (arrange right) = sameFields left right := by
  rw [same_fields_eq_all, same_fields_eq_all]
  simp only [find?_arrange distinct]
  exact (arrange_perm left).all_eq

end Content

namespace Value

/-- What a scalar without a not-a-number says: nothing, a text or a number. -/
inductive Tells : Scalar → Content → Prop
  | null : Tells .null (.atom .null)
  | text (content : String) : Tells (.text content) (.text content)
  | number {scalar : Scalar} {number : Number} {atom : Atom} (known : scalar.number? = some number)
    (ordinary : ∀ occurrence, scalar ≠ .nan occurrence)
    (read : atom.reading? = some number.reading) :
    Tells scalar (.atom atom)

theorem tells_of_content {scalar : Scalar} {content : Content}
    (known : scalar.content? = some content)
    (definite : content.IsDefinite) : Tells scalar content := by
  cases scalar with
  | null => cases known; exact .null
  | bool flag => cases known; exact .number rfl nofun rfl
  | int number => cases known; exact .number rfl nofun rfl
  | float number =>
      obtain ⟨double, found, rfl⟩ := Option.map_eq_some_iff.mp known
      refine .number rfl nofun ?_
      rcases Decimal.double_cases found with ⟨_, _, _, _, read, rfl⟩ | ⟨_, read, rfl⟩
      · exact congrArg some read.symm
      · exact congrArg some read.symm
  | nan occurrence =>
      cases known
      cases definite with
      | atom number => exact absurd rfl number
  | text content => cases known; exact .text content
  | closure handle tag => cases known

theorem same_of_numbers {left right : Scalar} {first second : Number}
    (known : left.number? = some first)
    (otherKnown : right.number? = some second) (ordinary : ∀ occurrence, left ≠ .nan occurrence) :
    left.same right = first.same second := by
  cases left with
  | null => cases known
  | text content => cases known
  | closure handle tag => cases known
  | nan occurrence => exact absurd rfl (ordinary occurrence)
  | bool flag => cases known; cases right <;> cases otherKnown <;> rfl
  | int number => cases known; cases right <;> cases otherKnown <;> rfl
  | float number => cases known; cases right <;> cases otherKnown <;> rfl

theorem scalar_same {left right : Scalar} {content other : Content} (tells : Tells left content)
    (otherTells : Tells right other) : left.same right = content.same other := by
  have apart : ∀ {scalar : Scalar} {number : Number}, scalar.number? = some number →
      (Scalar.null.same scalar = false ∧ scalar.same .null = false) ∧
        ∀ content, (Scalar.text content).same scalar = false ∧
        scalar.same (.text content) = false := by
    intro scalar number known
    cases scalar <;> cases known <;> exact ⟨⟨rfl, rfl⟩, fun _ => ⟨rfl, rfl⟩⟩
  have atoms : ∀ {atom : Atom} {reading : Decimal.Reading}, atom.reading? = some reading →
      Atom.null.same atom = false ∧ atom.same .null = false := by
    intro atom reading known
    cases atom <;> cases known <;> exact ⟨rfl, rfl⟩
  cases tells with
  | null =>
      cases otherTells with
      | null => rfl
      | text content => rfl
      | number known ordinary read =>
          rw [(apart known).1.1]
          exact (atoms read).1.symm
  | text content =>
      cases otherTells with
      | null => rfl
      | text content => rfl
      | number known ordinary read =>
          rw [((apart known).2 content).1]
          rfl
  | @number _ first atom known ordinary read =>
      cases otherTells with
      | null =>
          rw [(apart known).1.2]
          exact (atoms read).2.symm
      | text content =>
          rw [((apart known).2 content).2]
          rfl
      | @number _ second otherAtom otherKnown _ otherRead =>
          rw [same_of_numbers known otherKnown ordinary]
          have compared : atom.same otherAtom = first.reading.same second.reading := by
            unfold Atom.same
            split
            · cases read
            · rw [read, otherRead]
          exact compared.symm

theorem length_of_fields {entries : Entries} {fields : Table Content}
    (known : fields? entries = some fields) :
    fields.length = entries.length := by
  induction entries generalizing fields with
  | nil => cases known; rfl
  | cons entry rest ih =>
      obtain ⟨_, _, others, _, _, othersKnown, rfl⟩ := fields_cons known
      exact congrArg (· + 1) (ih othersKnown)

mutual

theorem same_of_contents : (left right : Value) → {content other : Content} →
    left.content? = some content →
    right.content? = some other → content.IsDefinite → other.IsDefinite →
    left.same right = content.same other
  | .scalar left, .scalar right, content, other, known, otherKnown, definite, otherDefinite => by
    rw [content?] at known otherKnown
    rw [same]
    exact scalar_same (tells_of_content known definite) (tells_of_content otherKnown otherDefinite)
  | .list left, .list right, content, other, known, otherKnown, definite, otherDefinite => by
    obtain ⟨contents, found, rfl⟩ := items_of_list known
    obtain ⟨others, otherFound, rfl⟩ := items_of_list otherKnown
    cases definite with
    | list inside =>
        cases otherDefinite with
        | list otherInside =>
            exact same_items_of_contents left right found otherFound inside otherInside
  | .mapping left, .mapping right, content, other, known, otherKnown, definite, otherDefinite => by
    obtain ⟨fields, found, distinct, rfl⟩ := fields_of_mapping known
    obtain ⟨others, otherFound, otherDistinct, rfl⟩ := fields_of_mapping otherKnown
    cases definite with
    | mapping inside =>
        cases otherDefinite with
        | mapping otherInside =>
            have entries := same_entries_of_contents left right found otherFound
              (fun field member => inside field ((Content.arrange_perm fields).mem_iff.mpr member))
              (fun field member => otherInside field
                ((Content.arrange_perm others).mem_iff.mpr member))
            rw [same, Content.same, Content.same_fields_arrange otherDistinct, entries,
              (Content.arrange_perm fields).length_eq,
              (Content.arrange_perm others).length_eq, length_of_fields found,
              length_of_fields otherFound]
  | .scalar left, .list right, content, other, known, otherKnown, _, _ => by
    obtain ⟨others, _, rfl⟩ := items_of_list otherKnown
    rw [content?] at known
    rcases scalar_content_cases known with ⟨_, rfl⟩ | ⟨_, rfl⟩ <;> rfl
  | .scalar left, .mapping right, content, other, known, otherKnown, _, _ => by
    obtain ⟨others, _, _, rfl⟩ := fields_of_mapping otherKnown
    rw [content?] at known
    rcases scalar_content_cases known with ⟨_, rfl⟩ | ⟨_, rfl⟩ <;> rfl
  | .list left, .scalar right, content, other, known, otherKnown, _, _ => by
    obtain ⟨contents, _, rfl⟩ := items_of_list known
    rw [content?] at otherKnown
    rcases scalar_content_cases otherKnown with ⟨_, rfl⟩ | ⟨_, rfl⟩ <;> rfl
  | .list left, .mapping right, content, other, known, otherKnown, _, _ => by
    obtain ⟨contents, _, rfl⟩ := items_of_list known
    obtain ⟨others, _, _, rfl⟩ := fields_of_mapping otherKnown
    rfl
  | .mapping left, .scalar right, content, other, known, otherKnown, _, _ => by
    obtain ⟨fields, _, _, rfl⟩ := fields_of_mapping known
    rw [content?] at otherKnown
    rcases scalar_content_cases otherKnown with ⟨_, rfl⟩ | ⟨_, rfl⟩ <;> rfl
  | .mapping left, .list right, content, other, known, otherKnown, _, _ => by
    obtain ⟨fields, _, _, rfl⟩ := fields_of_mapping known
    obtain ⟨others, _, rfl⟩ := items_of_list otherKnown
    rfl

theorem same_items_of_contents : (left right : List Value) → {contents others : List Content} →
    contents? left = some contents → contents? right = some others →
    (∀ item ∈ contents, item.IsDefinite) →
    (∀ item ∈ others, item.IsDefinite) → sameItems left right = Content.sameItems contents others
  | [], [], _, _, known, otherKnown, _, _ => by
    cases known
    cases otherKnown
    rfl
  | [], right :: rest, _, _, known, otherKnown, _, _ => by
    cases known
    obtain ⟨_, _, _, _, rfl⟩ := content_cons otherKnown
    rfl
  | left :: rest, [], _, _, known, otherKnown, _, _ => by
    cases otherKnown
    obtain ⟨_, _, _, _, rfl⟩ := content_cons known
    rfl
  | left :: leftRest, right :: rightRest, _, _, known, otherKnown, definite, otherDefinite => by
    obtain ⟨first, rest, firstKnown, restKnown, rfl⟩ := content_cons known
    obtain ⟨otherFirst, otherRest, otherFirstKnown, otherRestKnown, rfl⟩ := content_cons otherKnown
    rw [List.forall_mem_cons] at definite otherDefinite
    rw [sameItems, Content.sameItems,
      same_of_contents left right firstKnown otherFirstKnown definite.1 otherDefinite.1,
      same_items_of_contents leftRest rightRest restKnown otherRestKnown definite.2 otherDefinite.2]

theorem same_entries_of_contents : (left right : Entries) → {fields others : Table Content} →
    fields? left = some fields → fields? right = some others →
    (∀ field ∈ fields, field.2.IsDefinite) →
    (∀ field ∈ others, field.2.IsDefinite) →
    sameEntries left right = Content.sameFields fields others
  | [], _, _, _, known, _, _, _ => by
    cases known
    rw [sameEntries, Content.sameFields]
  | (key, left) :: rest, right, _, others, known, otherKnown, definite, otherDefinite => by
    obtain ⟨name, first, fields, rfl, firstKnown, restKnown, rfl⟩ := fields_cons known
    rw [List.forall_mem_cons] at definite
    have rests := same_entries_of_contents rest right restKnown otherKnown definite.2 otherDefinite
    rw [sameEntries, Content.sameFields, rests]
    rcases find_in_fields otherKnown name with ⟨absent, noField⟩ |
      ⟨value, content, present, valued, field⟩
    · rw [absent, noField]
    · rw [present, field]
      have found : content.IsDefinite := by
        obtain ⟨spelled, member⟩ := Keyed.mem_of_find? field
        exact otherDefinite _ member
      dsimp only
      rw [same_of_contents left value firstKnown valued definite.1 found]

end

/-- JSON values without not-a-numbers that differ in the order of keys only. -/
def Alike (left right : Value) : Prop :=
  ∃ content, left.content? = some content ∧ right.content? = some content ∧ content.IsDefinite

theorem Alike.left {left right : Value} (alike : Alike left right) : Alike left left := by
  obtain ⟨content, known, _, definite⟩ := alike
  exact ⟨content, known, known, definite⟩

theorem Alike.right {left right : Value} (alike : Alike left right) : Alike right right := by
  obtain ⟨content, _, known, definite⟩ := alike
  exact ⟨content, known, known, definite⟩

theorem alike_null : Alike .null .null :=
  ⟨.null, content_of_null, content_of_null, .atom nofun⟩

/-- A signal cannot tell alike values apart. -/
theorem Alike.same {left right other another : Value} (alike : Alike left right)
    (others : Alike other another) :
    left.same other = right.same another := by
  obtain ⟨content, known, otherKnown, definite⟩ := alike
  obtain ⟨second, found, otherFound, otherDefinite⟩ := others
  rw [same_of_contents left other known found definite otherDefinite,
    same_of_contents right another otherKnown otherFound definite otherDefinite]

theorem Alike.is_true {left right : Value} (alike : Alike left right) :
    left.isTrue = right.isTrue := by
  obtain ⟨content, known, otherKnown, _⟩ := alike
  rw [is_true_of_content known, is_true_of_content otherKnown]

theorem Alike.is_filled {left right : Value} (alike : Alike left right) :
    left.isFilled = right.isFilled := by
  have ordinary : ∀ value : Value, Alike value value → value.isTrue = value.isFilled := by
    rintro value ⟨content, known, _, definite⟩
    unfold isTrue
    split
    · rw [content?] at known
      cases known
      cases definite with
      | atom number => exact absurd rfl number
    · rfl
  rw [← ordinary left alike.left, ← ordinary right alike.right, alike.is_true]

theorem Alike.text {content : String} {right : Value} (alike : Alike (.text content) right) :
    right = .text content := by
  obtain ⟨_, known, otherKnown, _⟩ := alike
  rw [content?] at known
  cases known
  cases right with
  | list items =>
      obtain ⟨_, _, impossible⟩ := items_of_list otherKnown
      cases impossible
  | mapping entries =>
      obtain ⟨_, _, _, impossible⟩ := fields_of_mapping otherKnown
      cases impossible
  | scalar scalar =>
      rw [content?] at otherKnown
      cases scalar with
      | text other => cases otherKnown; rfl
      | float number =>
          obtain ⟨_, _, impossible⟩ := Option.map_eq_some_iff.mp otherKnown
          cases impossible
      | null => cases otherKnown
      | bool flag => cases otherKnown
      | int number => cases otherKnown
      | nan occurrence => cases otherKnown
      | closure handle tag => cases otherKnown

theorem Alike.symm {left right : Value} (alike : Alike left right) : Alike right left := by
  obtain ⟨content, known, otherKnown, definite⟩ := alike
  exact ⟨content, otherKnown, known, definite⟩

theorem Alike.to_key {left right : Value} (alike : Alike left right) {key : Scalar}
    (made : left.toKey = .ok key) :
    ∃ other, right.toKey = .ok other ∧ other.text? = key.text? := by
  have spelled : ∀ {scalar another : Scalar} {name : String}, Alike
      (.scalar scalar) (.scalar another) →
      scalar.text? = some name → another.text? = some name := by
    intro scalar another name alike named
    cases scalar with
    | text content =>
        cases named
        cases alike.text
        rfl
    | _ => cases named
  cases left with
  | list items => cases made
  | mapping entries => cases made
  | scalar scalar =>
      cases made
      have atomic : ∀ {content}, (Value.scalar key).content? = some content →
          (∀ items, content ≠ .list items) ∧ ∀ fields, content ≠ .mapping fields := by
        intro content known
        rw [content?] at known
        cases key with
        | float number =>
            obtain ⟨_, _, rfl⟩ := Option.map_eq_some_iff.mp known
            exact ⟨nofun, nofun⟩
        | closure handle tag => cases known
        | _ =>
            cases known
            exact ⟨nofun, nofun⟩
      obtain ⟨content, known, otherKnown, _⟩ := id alike
      cases right with
      | list items =>
          obtain ⟨_, _, rfl⟩ := items_of_list otherKnown
          exact absurd rfl ((atomic known).1 _)
      | mapping entries =>
          obtain ⟨_, _, _, rfl⟩ := fields_of_mapping otherKnown
          exact absurd rfl ((atomic known).2 _)
      | scalar another =>
          refine ⟨another, rfl, Option.ext fun name => ⟨spelled alike.symm, spelled alike⟩⟩

end Value

/-- Entries that look up alike values under every key. -/
structure Entries.Alike (left right : Entries) : Prop where
  tables : ∃ fields others, Evaluate.tableOf left = some fields ∧
    Evaluate.tableOf right = some others ∧
    (∀ key, Keyed.find? key fields = Keyed.find? key others) ∧
    ∀ key content, Keyed.find? key fields = some content → content.IsDefinite

namespace Entries

open Evaluate

theorem alike_nil : Entries.Alike [] [] :=
  ⟨[], [], table_of_nil, table_of_nil, fun _ => rfl, nofun⟩

theorem Alike.insert {left right : Entries} {value other : Value}
    (alike : left.Alike right) (key : String) (values : value.Alike other) :
    Entries.Alike (Keyed.insert (.text key) value left) (Keyed.insert (.text key) other right) := by
  obtain ⟨fields, others, found, otherFound, same, definite⟩ := alike.tables
  obtain ⟨content, known, otherKnown, valued⟩ := values
  refine ⟨_, _, table_of_insert key found known, table_of_insert key otherFound otherKnown,
    fun name => ?_,
    fun name held present => ?_⟩
  · by_cases equal : name = key
    · rw [equal, Keyed.find?_insert_self, Keyed.find?_insert_self]
    · rw [Keyed.find?_insert_of_ne _ _ equal, Keyed.find?_insert_of_ne _ _ equal, same]
  · by_cases equal : name = key
    · rw [equal, Keyed.find?_insert_self] at present
      cases present
      exact valued
    · rw [Keyed.find?_insert_of_ne _ _ equal] at present
      exact definite name held present

theorem Alike.value {left right : Entries} (alike : left.Alike right) :
    Value.Alike (.mapping left) (.mapping right) := by
  obtain ⟨fields, others, found, otherFound, same, definite⟩ := alike.tables
  obtain ⟨_, distinct⟩ := table_of_eq_some.mp found
  obtain ⟨_, otherDistinct⟩ := table_of_eq_some.mp otherFound
  refine ⟨_, content_of_table found, ?_, .mapping fun field member => ?_⟩
  · rw [content_of_table otherFound, Content.arrange_eq_of_find? distinct otherDistinct same]
  · have listed := (Content.arrange_perm fields).mem_iff.mp member
    exact definite field.1 field.2 ((Keyed.mem_iff_find? distinct field.1 field.2).mp listed)

theorem alike_of_value {left : Entries} {right : Value}
    (alike : Value.Alike (.mapping left) right) :
    ∃ entries, right = .mapping entries ∧ left.Alike entries := by
  obtain ⟨content, known, otherKnown, definite⟩ := alike
  obtain ⟨fields, found, distinct, rfl⟩ := Value.fields_of_mapping known
  cases right with
  | scalar scalar =>
      rw [Value.content?] at otherKnown
      rcases Value.scalar_content_cases otherKnown with ⟨_, impossible⟩ |
        ⟨_, impossible⟩ <;> cases impossible
  | list items =>
      obtain ⟨_, _, impossible⟩ := Value.items_of_list otherKnown
      cases impossible
  | mapping entries =>
      obtain ⟨others, otherFound, otherDistinct, arranged⟩ := Value.fields_of_mapping otherKnown
      injection arranged with arranged
      refine ⟨entries, rfl, fields, others, table_of_eq_some.mpr ⟨found, distinct⟩,
        table_of_eq_some.mpr ⟨otherFound, otherDistinct⟩, fun key => ?_,
        fun key content present => ?_⟩
      · rw [← Content.find?_arrange distinct, ← Content.find?_arrange otherDistinct, arranged]
      · cases definite with
        | mapping inside =>
            have member := (Keyed.mem_iff_find? distinct key content).mpr present
            exact inside (key, content) ((Content.arrange_perm fields).mem_iff.mpr member)

theorem Alike.find {left right : Entries} (alike : left.Alike right) (key : String) :
    (Keyed.find? (.text key) left = none ∧ Keyed.find? (.text key) right = none) ∨
      ∃ value other, Keyed.find? (.text key) left = some value ∧
      Keyed.find? (.text key) right = some other ∧
        value.Alike other := by
  obtain ⟨fields, others, found, otherFound, same, definite⟩ := alike.tables
  have known := (table_of_eq_some.mp found).1
  have otherKnown := (table_of_eq_some.mp otherFound).1
  rcases Value.find_in_fields known key with ⟨absent, noField⟩ |
    ⟨value, content, present, valued, field⟩
  · rcases Value.find_in_fields otherKnown key with ⟨otherAbsent, _⟩ | ⟨_, _, _, _, otherField⟩
    · exact .inl ⟨absent, otherAbsent⟩
    · rw [← same, noField] at otherField
      cases otherField
  · rcases Value.find_in_fields otherKnown key with
      ⟨_, otherNone⟩ | ⟨other, another, otherPresent, otherValued, otherField⟩
    · rw [← same, field] at otherNone
      cases otherNone
    · rw [← same, field] at otherField
      cases otherField
      exact .inr ⟨value, other, present, otherPresent, content, valued, otherValued,
        definite key content field⟩

theorem Alike.field {left right : Entries} (alike : left.Alike right) (name : String) :
    (Value.field name (.mapping left)).Alike (Value.field name (.mapping right)) := by
  change ((Keyed.find? (.text name) left).getD .null).Alike
    ((Keyed.find? (.text name) right).getD .null)
  rcases alike.find name with ⟨absent, otherAbsent⟩ | ⟨value, found, present, otherPresent, values⟩
  · rw [absent, otherAbsent]
    exact Value.alike_null
  · rw [present, otherPresent]
    exact values

end Entries

namespace Keyed

variable {α : Type}

def overlaid (extra base : Table α) : Table α :=
  extra.foldl (fun table entry => insert entry.1 entry.2 table) base

theorem find?_overlaid {extra : Table α} (distinct : (extra.map Prod.fst).Nodup)
    (base : Table α) (key : String) :
    find? key (overlaid extra base) = (find? key extra).or (find? key base) := by
  induction extra generalizing base with
  | nil => rfl
  | cons entry rest ih =>
      obtain ⟨found, content⟩ := entry
      rw [List.map_cons, List.nodup_cons] at distinct
      change find? key (overlaid rest (insert found content base)) = _
      rw [ih distinct.2]
      by_cases equal : key = found
      · subst equal
        have absent : find? key rest = none := by
          apply Option.eq_none_iff_forall_not_mem.mpr
          intro other present
          obtain member := (mem_iff_find? distinct.2 key other).mpr present
          exact distinct.1 (List.mem_map.mpr ⟨_, member, rfl⟩)
        rw [absent, Option.none_or, find?_insert_self]
        simp [find?]
      · have skipped : find? key ((found, content) :: rest) = find? key rest := by
          simp [find?, Ne.symm equal]
        rw [skipped, find?_insert_of_ne _ _ equal]

end Keyed

namespace Entries

open Evaluate

theorem table_of_merge {base extra : Entries} {fields others : Table Content}
    (found : tableOf base = some fields) (otherFound : tableOf extra = some others) :
    tableOf (Entries.merge base extra) = some (Keyed.overlaid others fields) := by
  have known := (table_of_eq_some.mp otherFound).1
  clear otherFound
  induction extra generalizing base fields others with
  | nil =>
      cases known
      exact found
  | cons entry rest ih =>
      obtain ⟨key, value⟩ := entry
      obtain ⟨name, content, remaining, rfl, valued, restKnown, rfl⟩ := Value.fields_cons known
      have whole := ih (table_of_insert name found valued) restKnown
      exact whole

theorem Alike.merge {base other extra another : Entries} (bases : base.Alike other)
    (extras : extra.Alike another) :
    (Entries.merge base extra).Alike (Entries.merge other another) := by
  obtain ⟨fields, others, found, otherFound, same, definite⟩ := bases.tables
  obtain ⟨extraFields, extraOthers, extraFound, extraOtherFound, extraSame, extraDefinite⟩ :=
    extras.tables
  have distinct := (table_of_eq_some.mp extraFound).2
  have otherDistinct := (table_of_eq_some.mp extraOtherFound).2
  refine ⟨_, _, table_of_merge found extraFound, table_of_merge otherFound extraOtherFound,
    fun key => ?_,
    fun key content present => ?_⟩
  · rw [Keyed.find?_overlaid distinct, Keyed.find?_overlaid otherDistinct, same, extraSame]
  · rw [Keyed.find?_overlaid distinct] at present
    rcases Option.or_eq_some_iff.mp present with above | ⟨_, under⟩
    · exact extraDefinite key content above
    · exact definite key content under

end Entries

namespace Value

theorem Alike.spread {left right : Value} (alike : left.Alike right) {entries : Entries}
    (made : left.spread = .ok entries) : ∃ others, right.spread = .ok others ∧
    entries.Alike others := by
  cases left with
  | scalar scalar => cases made
  | list items => cases made
  | mapping base =>
      cases made
      obtain ⟨others, rfl, same⟩ := Entries.alike_of_value alike
      exact ⟨others, rfl, same⟩

theorem Alike.spread_filled {left right : Value} (alike : left.Alike right) {entries : Entries}
    (made : left.spreadFilled = .ok entries) : ∃ others, right.spreadFilled = .ok others ∧
    entries.Alike others := by
  unfold Value.spreadFilled at made ⊢
  rw [← alike.is_filled]
  split at made
  · rw [if_pos (by assumption)]
    exact alike.spread made
  · rw [if_neg (by assumption)]
    cases made
    exact ⟨[], rfl, Entries.alike_nil⟩

end Value
end Interplay
