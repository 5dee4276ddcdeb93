import Interplay.Proofs.Value.Fingerprint
import Interplay.Proofs.Value.Whole

/-!
Fingerprints tell argument mappings apart exactly up to the order of keys.

Two values are reordered if they agree in all but the order in which their mappings list the keys:
numbers of one kind and the same truth values and texts, lists item by item, mappings key by key.
An argument mapping has a fingerprint unless it holds a whole number with too many digits, and two
mappings have the same one if and only if they are reordered.
-/

namespace Interplay

/-- A word of 64 bits that stands for a number is given by its sign, significand and exponent. -/
theorem Decimal.read_bits_injective {bits other : Nat} (word : bits < 2 ^ 64)
    (otherWord : other < 2 ^ 64)
    (defined : Decimal.readBits bits ≠ .undefined)
    (same : Decimal.readBits bits = Decimal.readBits other) :
    bits = other := by
  have signPower : twoPower 63 = 2 ^ 63 := rfl
  have power : twoPower 52 = 2 ^ 52 := rfl
  have fieldPower : twoPower 11 = 2 ^ 11 := rfl
  have start : binadeStart = 2 ^ 52 := rfl
  have sign (first second : Nat) (alike : (first == 1) = (second == 1)) (small : first < 2)
      (otherSmall : second < 2) : first = second := by
    rw [Bool.eq_iff_iff, beq_iff_eq, beq_iff_eq] at alike
    omega
  unfold Decimal.readBits at same defined
  simp only [signPower, power, fieldPower, start] at same defined
  -- infinite numbers, the lowest binade and the others
  split at same
  · split at same
    · split at same
      · split at same
        · have alike := sign _ _ (Decimal.Reading.infinite.inj same) (Nat.mod_lt _ (by decide))
            (Nat.mod_lt _ (by decide))
          omega
        · cases same
      · split at same <;> cases same
    · rename_i infinite fractional
      exact absurd (by rw [if_pos infinite, if_neg fractional]) defined
  · split at same
    · split at same
      · split at same <;> cases same
      · split at same
        · obtain ⟨signs, fractions, _⟩ := Decimal.Reading.finite.inj same
          have alike := sign _ _ signs (Nat.mod_lt _ (by decide)) (Nat.mod_lt _ (by decide))
          omega
        · obtain ⟨_, fractions, _⟩ := Decimal.Reading.finite.inj same
          omega
    · split at same
      · split at same <;> cases same
      · split at same
        · obtain ⟨_, fractions, _⟩ := Decimal.Reading.finite.inj same
          omega
        · obtain ⟨signs, fractions, exponents⟩ := Decimal.Reading.finite.inj same
          have alike := sign _ _ signs (Nat.mod_lt _ (by decide)) (Nat.mod_lt _ (by decide))
          simp only [Int.ofNat_eq_natCast] at exponents
          omega

theorem Decimal.double_agrees_iff {number other : Float} {double otherDouble : Decimal.Double}
    (known : Decimal.double? number = some double)
    (otherKnown : Decimal.double? other = some otherDouble) :
    double = otherDouble ↔ number.toBits = other.toBits := by
  constructor
  · rintro rfl
    apply UInt64.toNat_inj.mp
    have word := number.toBits.toNat_lt
    have otherWord := other.toBits.toNat_lt
    rcases Decimal.double_cases known with ⟨_, _, _, _, read, made⟩ | ⟨_, read, made⟩ <;>
      rcases Decimal.double_cases otherKnown with ⟨_, _, _, _, otherRead, otherMade⟩ |
      ⟨_, otherRead, otherMade⟩ <;>
      rw [made] at otherMade <;> cases otherMade <;> unfold Decimal.read at read otherRead <;>
      exact Decimal.read_bits_injective word otherWord (by rw [read]; exact nofun)
        (read.trans otherRead.symm)
  · intro bits
    have same : Decimal.read number = Decimal.read other := by
      unfold Decimal.read
      rw [bits]
    rcases Decimal.double_cases known with ⟨_, _, _, _, read, rfl⟩ | ⟨_, read, rfl⟩ <;>
      rcases Decimal.double_cases otherKnown with ⟨_, _, _, _, otherRead, rfl⟩ |
      ⟨_, otherRead, rfl⟩ <;> rw [read, otherRead] at same <;> cases same <;> rfl

/-- Scalars of one kind that say the same.  Not-a-numbers all do, and a closure says nothing. -/
inductive Scalar.Agrees : Scalar → Scalar → Prop
  | null : Agrees .null .null
  | bool (flag : Bool) : Agrees (.bool flag) (.bool flag)
  | int (number : Int) : Agrees (.int number) (.int number)
  | float {number other : Float} (bits : number.toBits = other.toBits) : Agrees
      (.float number) (.float other)
  | nan (occurrence other : Nat) : Agrees (.nan occurrence) (.nan other)
  | text (content : String) : Agrees (.text content) (.text content)

namespace Value

mutual

def Reordered : Value → Value → Prop
  | scalar left, scalar right => left.Agrees right
  | list left, list right => ItemsReordered left right
  | mapping left, mapping right => left.length = right.length ∧ EntriesReordered left right
  | _, _ => False

def ItemsReordered : List Value → List Value → Prop
  | [], [] => True
  | left :: leftRest, right :: rightRest => Reordered left right ∧ ItemsReordered leftRest rightRest
  | _, _ => False

def EntriesReordered : List (Scalar × Value) → Entries → Prop
  | [], _ => True
  | (key, left) :: rest, entries =>
    (∃ right, Keyed.find? key entries = some right ∧ Reordered left right) ∧
      EntriesReordered rest entries

end

theorem scalar_content_eq_iff {left right : Scalar} {content other : Content}
    (known : left.content? = some content)
    (otherKnown : right.content? = some other) : content = other ↔ left.Agrees right := by
  cases left with
  | float number =>
      obtain ⟨double, found, rfl⟩ := Option.map_eq_some_iff.mp known
      cases right with
      | float otherNumber =>
          obtain ⟨otherDouble, otherFound, rfl⟩ := Option.map_eq_some_iff.mp otherKnown
          rw [Content.atom.injEq, Atom.float.injEq, Decimal.double_agrees_iff found otherFound]
          exact ⟨.float, fun | .float bits => bits⟩
      | closure => cases otherKnown
      | null | bool | int | nan | text => cases otherKnown; exact ⟨nofun, nofun⟩
  | closure => cases known
  | null | bool | int | nan | text =>
      cases known
      cases right with
      | float otherNumber =>
          obtain ⟨otherDouble, _, rfl⟩ := Option.map_eq_some_iff.mp otherKnown
          exact ⟨nofun, nofun⟩
      | closure => cases otherKnown
      | null | bool | int | nan | text =>
          cases otherKnown
          constructor
          · intro same
            cases same <;> constructor
          · intro agrees
            cases agrees <;> rfl

theorem length_fields {entries : Entries} {fields : Table Content}
    (known : fields? entries = some fields) :
    fields.length = entries.length := by
  induction entries generalizing fields with
  | nil =>
      cases known
      rfl
  | cons entry rest ih =>
      obtain ⟨key, value⟩ := entry
      obtain ⟨name, first, others, rfl, _, othersKnown, rfl⟩ := fields_cons known
      rw [List.length_cons, List.length_cons, ih othersKnown]

/-- Fields in order are the same if there are as many and each is found among the others. -/
theorem arrange_eq_iff {fields others : Table Content} (distinct : (fields.map Prod.fst).Nodup)
    (otherDistinct : (others.map Prod.fst).Nodup) : Content.arrange fields =
    Content.arrange others ↔
      fields.length = others.length ∧
      ∀ field ∈ fields, Keyed.find? field.1 others = some field.2 := by
  have found (field : String × Content) : field ∈ others ↔
      Keyed.find? field.1 others = some field.2 :=
    Keyed.mem_iff_find? otherDistinct field.1 field.2
  constructor
  · intro same
    have perm : fields.Perm others :=
      (Content.arrange_perm fields).symm.trans (same ▸ Content.arrange_perm others)
    exact ⟨perm.length_eq, fun field member => (found field).mp (perm.subset member)⟩
  · rintro ⟨lengths, inside⟩
    have within : fields.Subperm others :=
      List.subperm_of_subset distinct.of_map fun field member =>
        (found field).mpr (inside field member)
    have perm : fields.Perm others := within.perm_of_length_le (Nat.le_of_eq lengths.symm)
    apply Content.arrange_eq_of_find? distinct otherDistinct
    intro key
    apply Option.ext
    intro content
    rw [← Keyed.mem_iff_find? distinct, ← Keyed.mem_iff_find? otherDistinct]
    exact perm.mem_iff

mutual

theorem content_eq_iff : ∀ (left right : Value) {content other : Content},
    left.content? = some content →
    right.content? = some other → (content = other ↔ left.Reordered right)
  | scalar left, right, content, other, known, otherKnown => by
      cases right with
      | scalar right => exact scalar_content_eq_iff known otherKnown
      | list items =>
          obtain ⟨_, _, rfl⟩ := items_of_list otherKnown
          rcases scalar_content_cases known with ⟨_, rfl⟩ | ⟨_, rfl⟩ <;> exact ⟨nofun, nofun⟩
      | mapping entries =>
          obtain ⟨_, _, _, rfl⟩ := fields_of_mapping otherKnown
          rcases scalar_content_cases known with ⟨_, rfl⟩ | ⟨_, rfl⟩ <;> exact ⟨nofun, nofun⟩
  | list items, right, content, other, known, otherKnown => by
      obtain ⟨contents, itemsKnown, rfl⟩ := items_of_list known
      cases right with
      | scalar right =>
          rcases scalar_content_cases otherKnown with ⟨_, rfl⟩ | ⟨_, rfl⟩ <;> exact ⟨nofun, nofun⟩
      | list others =>
          obtain ⟨otherContents, othersKnown, rfl⟩ := items_of_list otherKnown
          rw [Content.list.injEq, Reordered]
          exact contents_eq_iff items others itemsKnown othersKnown
      | mapping entries =>
          obtain ⟨_, _, _, rfl⟩ := fields_of_mapping otherKnown
          exact ⟨nofun, nofun⟩
  | mapping entries, right, content, other, known, otherKnown => by
      obtain ⟨fields, fieldsKnown, distinct, rfl⟩ := fields_of_mapping known
      cases right with
      | scalar right =>
          rcases scalar_content_cases otherKnown with ⟨_, rfl⟩ | ⟨_, rfl⟩ <;> exact ⟨nofun, nofun⟩
      | list items =>
          obtain ⟨_, _, rfl⟩ := items_of_list otherKnown
          exact ⟨nofun, nofun⟩
      | mapping others =>
          obtain ⟨otherFields, othersKnown, otherDistinct, rfl⟩ := fields_of_mapping otherKnown
          rw [Content.mapping.injEq, arrange_eq_iff distinct otherDistinct,
            length_fields fieldsKnown,
            length_fields othersKnown, Reordered, fields_found_iff entries fieldsKnown othersKnown]

theorem contents_eq_iff : ∀ (items others : List Value) {contents otherContents : List Content},
    contents? items = some contents → contents? others = some otherContents →
      (contents = otherContents ↔ ItemsReordered items others)
  | [], [], _, _, known, otherKnown => by
      cases known
      cases otherKnown
      simp [ItemsReordered]
  | [], item :: rest, _, _, known, otherKnown => by
      cases known
      obtain ⟨_, _, _, _, rfl⟩ := content_cons otherKnown
      simp [ItemsReordered]
  | item :: rest, [], _, _, known, otherKnown => by
      cases otherKnown
      obtain ⟨_, _, _, _, rfl⟩ := content_cons known
      simp [ItemsReordered]
  | item :: rest, other :: others, _, _, known, otherKnown => by
      obtain ⟨first, later, firstKnown, laterKnown, rfl⟩ := content_cons known
      obtain ⟨otherFirst, otherLater, otherFirstKnown, otherLaterKnown, rfl⟩ :=
        content_cons otherKnown
      rw [List.cons.injEq, ItemsReordered, content_eq_iff item other firstKnown otherFirstKnown,
        contents_eq_iff rest others laterKnown otherLaterKnown]

theorem fields_found_iff : ∀ (entries : List (Scalar × Value)) {others : Entries}
    {fields otherFields : Table Content},
    fields? entries = some fields → fields? others = some otherFields →
      ((∀ field ∈ fields, Keyed.find? field.1 otherFields = some field.2) ↔
        EntriesReordered entries others)
  | [], _, _, _, known, _ => by
      cases known
      simp [EntriesReordered]
  | (key, value) :: rest, others, _, otherFields, known, otherKnown => by
      obtain ⟨name, first, later, rfl, firstKnown, laterKnown, rfl⟩ := fields_cons known
      rw [List.forall_mem_cons, EntriesReordered, fields_found_iff rest laterKnown otherKnown]
      apply and_congr_left
      intro _
      rcases find_in_fields otherKnown name with ⟨absent, noField⟩ |
        ⟨right, content, present, valued, field⟩
      · simp [absent, noField]
      · have alike := content_eq_iff value right firstKnown valued
        simp only [present, field, Option.some.injEq, exists_eq_left']
        rw [← alike, eq_comm]

end

mutual

def integers : Value → List Int
  | scalar (.int number) => [number]
  | scalar _ => []
  | list items => itemIntegers items
  | mapping entries => entryIntegers entries

def itemIntegers : List Value → List Int
  | [] => []
  | item :: rest => integers item ++ itemIntegers rest

def entryIntegers : List (Scalar × Value) → List Int
  | [] => []
  | (_, value) :: rest => integers value ++ entryIntegers rest

end

/-- Whether each of these whole numbers has few enough digits. -/
def AllShort (numbers : List Int) : Prop :=
  ∀ number ∈ numbers, number.natAbs < 10 ^ Number.digitLimit

theorem all_short_append (numbers others : List Int) :
    AllShort (numbers ++ others) ↔ AllShort numbers ∧ AllShort others :=
  List.forall_mem_append

mutual

theorem is_writable_iff : ∀ (value : Value) {content : Content}, value.content? = some content →
    (value.isWritable = true ↔ AllShort value.integers)
  | scalar inside, content, known => by
      cases inside with
      | int number => simpa [AllShort, integers] using is_writable_int_iff number
      | closure => cases known
      | null | bool | float | nan | text => simp [AllShort, integers, isWritable, Scalar.isWritable]
  | list items, content, known => by
      obtain ⟨_, found, _⟩ := items_of_list known
      rw [isWritable, integers]
      exact all_writable_iff items found
  | mapping entries, content, known => by
      obtain ⟨_, found, _, _⟩ := fields_of_mapping known
      rw [isWritable, integers]
      exact entries_writable_iff entries found

theorem all_writable_iff : ∀ (items : List Value) {contents : List Content},
    contents? items = some contents →
    (allWritable items = true ↔ AllShort (itemIntegers items))
  | [], _, _ => by simp [AllShort, itemIntegers, allWritable]
  | item :: rest, _, known => by
      obtain ⟨_, _, firstKnown, laterKnown, _⟩ := content_cons known
      rw [allWritable, itemIntegers, all_short_append, Bool.and_eq_true,
        is_writable_iff item firstKnown, all_writable_iff rest laterKnown]

theorem entries_writable_iff : ∀ (entries : List (Scalar × Value)) {fields : Table Content},
    fields? entries = some fields →
    (entriesWritable entries = true ↔ AllShort (entryIntegers entries))
  | [], _, _ => by simp [AllShort, entryIntegers, entriesWritable]
  | (key, value) :: rest, _, known => by
      obtain ⟨_, _, _, rfl, firstKnown, laterKnown, _⟩ := fields_cons known
      have named (name : String) : (Scalar.text name).isWritable = true := rfl
      rw [entriesWritable, entryIntegers, all_short_append, Bool.and_eq_true, Bool.and_eq_true,
        is_writable_iff value firstKnown, entries_writable_iff rest laterKnown]
      simp [named]

end

end Value

namespace Entries

/-- Argument mappings have no fingerprint exactly if they hold a whole number that is too long, and
the same one exactly if they are equal up to the order of keys. -/
theorem fingerprints_tell_contents {entries others : Entries}
    (json : (Value.mapping entries).IsJson) (otherJson : (Value.mapping others).IsJson) :
    (fingerprint entries = none ↔
        ∃ number ∈ (Value.mapping entries).integers, 10 ^ Number.digitLimit ≤ number.natAbs) ∧
      (fingerprint entries ≠ none →
        (fingerprint entries = fingerprint others ↔
          (Value.mapping entries).Reordered (.mapping others))) := by
  obtain ⟨content, known⟩ := json
  obtain ⟨other, otherKnown⟩ := otherJson
  have short := Value.is_writable_iff _ known
  rw [Fingerprint.is_writable_content _ known] at short
  have unprinted : content.fingerprint? = none ↔ content.isWritable ≠ true := by
    unfold Content.fingerprint?
    split <;> simp_all
  rw [fingerprint_of_content known, fingerprint_of_content otherKnown,
    ← Value.content_eq_iff _ _ known otherKnown]
  constructor
  · rw [unprinted, Ne, short, Value.AllShort]
    push Not
    rfl
  · intro printed
    constructor
    · intro same
      obtain ⟨text, written⟩ := Option.ne_none_iff_exists.mp printed
      exact Content.fingerprint_injective written.symm (same ▸ written.symm)
    · rintro rfl
      rfl

/-- Another order of keys, also inside a list, gives the same fingerprint; a truth value for a
number does not. -/
theorem shuffled_arguments_share_fingerprint :
    let arguments : Entries := [(.text "page", .int 1), (.text "sort", .list [.mapping
      [(.text "by", .text "name"), (.text "up", .bool true)]])]
    let shuffled : Entries := [(.text "sort", .list [.mapping
      [(.text "up", .bool true), (.text "by", .text "name")]]), (.text "page", .int 1)]
    let mistaken : Entries := [(.text "page", .bool true), (.text "sort", .list [.mapping
      [(.text "by", .text "name"), (.text "up", .bool true)]])]
    (Value.mapping arguments).IsJson ∧ (Value.mapping shuffled).IsJson ∧
      (Value.mapping mistaken).IsJson ∧
      fingerprint arguments ≠ none ∧ fingerprint arguments = fingerprint shuffled ∧
      fingerprint arguments ≠ fingerprint mistaken := by
  intro arguments shuffled mistaken
  have json : (Value.mapping arguments).IsJson := ⟨_, rfl⟩
  have shuffledJson : (Value.mapping shuffled).IsJson := ⟨_, rfl⟩
  have mistakenJson : (Value.mapping mistaken).IsJson := ⟨_, rfl⟩
  have tells := fingerprints_tell_contents json shuffledJson
  have tellsMistaken := fingerprints_tell_contents json mistakenJson
  have short : 1 < 10 ^ Number.digitLimit := Nat.one_lt_pow (by decide) (by decide)
  have printed : fingerprint arguments ≠ none := by
    rw [Ne, tells.1]
    rintro ⟨number, member, long⟩
    obtain rfl : number = 1 := List.mem_singleton.mp member
    exact absurd short (Nat.not_lt.mpr long)
  have reordered : (Value.mapping arguments).Reordered (.mapping shuffled) := by
    refine ⟨rfl, ⟨_, rfl, .int 1⟩,
      ⟨_, rfl, ⟨⟨rfl, ⟨_, rfl, .text "name"⟩, ⟨_, rfl, .bool true⟩, trivial⟩, trivial⟩⟩, trivial⟩
  have apart : ¬(Value.mapping arguments).Reordered (.mapping mistaken) := by
    rintro ⟨_, ⟨value, found, agrees⟩, _⟩
    cases found
    cases agrees
  exact ⟨json, shuffledJson, mistakenJson, printed, (tells.2 printed).mpr reordered,
    fun same => apart ((tellsMistaken.2 printed).mp same)⟩

theorem no_fingerprint_of_long {name : String} {number : Nat}
    (long : 10 ^ Number.digitLimit ≤ number) :
    fingerprint [(.text name, .ofNat number)] = none := by
  rw [fingerprint, Value.entriesWritable, Value.not_writable_of_long long]
  simp

/-- A whole number of one digit too many leaves an argument mapping without a fingerprint. -/
theorem overlong_argument_has_no_fingerprint :
    (Value.mapping [(.text "x", .ofNat (10 ^ Number.digitLimit))]).IsJson ∧
      fingerprint [(.text "x", .ofNat (10 ^ Number.digitLimit))] = none :=
  ⟨⟨_, rfl⟩, no_fingerprint_of_long le_rfl⟩

end Entries

end Interplay
