import Interplay.Proofs.Sorting.Permutation
import Interplay.Proofs.Value.Fingerprint

/-!
A label and a fingerprint, joined by a hash, can be told apart again.

Every quote of a fingerprint that is not escaped opens or closes a text, and a hash stands inside a
text only.  If one of two equal keys had the longer label, the fingerprint of the other one would
have a hash, and behind it the shorter fingerprint, read from inside a text instead of from outside.
That reading ends the other way round.
-/

namespace Interplay
namespace Text

/-- Where reading a text has got to: within quotes or not, and right behind a backslash or not. -/
structure Reading where
  inside : Bool
  escaped : Bool
  deriving DecidableEq

namespace Reading

def outside : Reading :=
  { inside := false, escaped := false }

def turned (reading : Reading) : Reading :=
  { reading with inside := !reading.inside }

/-- Reads one character; outside of quotes there must be no hash. -/
def next (reading : Reading) (character : Char) : Option Reading :=
  if character = '#' then
    if reading.inside then some outside.turned else none
  else if reading.escaped then some { reading with escaped := false }
  else if character = backslash then some { reading with escaped := true }
  else if character = doubleQuote then some reading.turned
  else some reading

def through (text : List Char) (reading : Reading) : Option Reading :=
  text.foldlM next reading

theorem through_append (front rest : List Char) (reading : Reading) :
    through (front ++ rest) reading = (through front reading).bind (through rest) :=
  List.foldlM_append

theorem through_cons (character : Char) (rest : List Char) (reading : Reading) :
    through (character :: rest) reading = (reading.next character).bind (through rest) :=
  List.foldlM_cons

theorem next_turned {reading after other : Reading} {character : Char}
    (step : reading.next character = some after)
    (otherStep : reading.turned.next character = some other) : other = after.turned := by
  by_cases hash : character = '#'
  · -- a hash is read on one side only
    cases within : reading.inside <;> simp [next, turned, hash, within] at step otherStep
  · have moved : reading.turned.next character = (reading.next character).map turned := by
      unfold next
      rw [if_neg hash, if_neg hash, show reading.turned.escaped = reading.escaped from rfl]
      split_ifs <;> rfl
    rw [moved, step] at otherStep
    exact (Option.some.inj otherStep).symm

/-- Reading one text from inside and from outside ends on different sides. -/
theorem through_turned {text : List Char} {reading last other : Reading}
    (read : through text reading = some last)
    (otherRead : through text reading.turned = some other) : other = last.turned := by
  induction text generalizing reading with
  | nil =>
      cases read
      cases otherRead
      rfl
  | cons character rest ih =>
      rw [through_cons] at read otherRead
      obtain ⟨after, step, behind⟩ := Option.bind_eq_some_iff.mp read
      obtain ⟨otherAfter, otherStep, otherBehind⟩ := Option.bind_eq_some_iff.mp otherRead
      rw [next_turned step otherStep] at otherBehind
      exact ih behind otherBehind

/-- Characters that mean nothing to a reading leave it where it is. -/
theorem through_plain {text : List Char} {reading : Reading} (ready : reading.escaped = false)
    (plain : ∀ character ∈ text, ['#', backslash, doubleQuote].contains character = false) :
    through text reading = some reading := by
  induction text with
  | nil => rfl
  | cons character rest ih =>
      have marks := plain character List.mem_cons_self
      simp only [List.contains_cons, List.contains_nil, Bool.or_false, Bool.or_eq_false_iff,
        beq_eq_false_iff_ne] at marks
      obtain ⟨hash, slash, quote⟩ := marks
      have step : reading.next character = some reading := by
        simp [next, ready, hash, slash, quote]
      rw [through_cons, step]
      exact ih fun other member => plain other (List.mem_cons_of_mem _ member)

theorem digit_char_is_plain {value : Nat} (small : value < 16) :
    ['#', backslash, doubleQuote].contains value.digitChar = false := by
  interval_cases value <;> decide

/-- Inside quotes, a backslash takes the character behind it with it. -/
theorem through_short_escape (mark : Char) (rest : List Char) :
    through (backslash :: mark :: rest) outside.turned = through rest outside.turned := by
  have opened : outside.turned.next backslash = some ⟨true, true⟩ := by decide
  have closed : next ⟨true, true⟩ mark = some outside.turned := by
    unfold next
    split
    · rfl
    · rfl
  rw [through_cons, opened, Option.bind_some, through_cons, closed, Option.bind_some]

theorem through_escape_unit (unit : Nat) : through (escapeUnit unit) outside.turned =
    some outside.turned := by
  unfold escapeUnit
  rw [through_short_escape]
  refine through_plain rfl fun digit member => ?_
  obtain ⟨value, small, rfl⟩ := mem_hex member
  exact digit_char_is_plain small

theorem through_escape_units (code : Nat) : through (escapeUnits code) outside.turned =
    some outside.turned := by
  unfold escapeUnits
  split
  · exact through_escape_unit code
  · rw [through_append, through_escape_unit, Option.bind_some, through_escape_unit]

theorem through_escape (character : Char) :
    through (escapeAscii character) outside.turned = some outside.turned := by
  rcases escape_ascii_cases character with ⟨mark, form, _, _⟩ | ⟨form, unquoted, plain⟩ | form
  · rw [form, through_short_escape]
    rfl
  · have step : outside.turned.next character = some outside.turned := by
      by_cases hash : character = '#'
      · simp [next, hash, outside, turned]
      · simp [next, hash, unquoted, plain, outside, turned]
    rw [form, through_cons, step]
    rfl
  · rw [form, through_escape_units]

theorem through_escapes (content : List Char) :
    through (content.flatMap escapeAscii) outside.turned = some outside.turned := by
  induction content with
  | nil => rfl
  | cons character rest ih =>
      rw [List.flatMap_cons, through_append, through_escape]
      exact ih

end Reading

/-- A text whose quotes all come in pairs and whose hashes all stand inside. -/
def IsBalanced (text : String) : Prop :=
  Reading.through text.toList Reading.outside = some Reading.outside

instance (text : String) : Decidable (IsBalanced text) :=
  inferInstanceAs (Decidable (_ = _))

theorem balanced_append {front rest : String} (balanced : IsBalanced front)
    (others : IsBalanced rest) :
    IsBalanced (front ++ rest) := by
  unfold IsBalanced at *
  rw [String.toList_append, Reading.through_append, balanced]
  exact others

theorem balanced_of_plain {text : String}
    (plain : ∀ character ∈ text.toList, ['#', backslash, doubleQuote].contains character = false) :
    IsBalanced text :=
  Reading.through_plain rfl plain

theorem balanced_quoted (content : String) : IsBalanced (asciiQuoted content) := by
  unfold IsBalanced asciiQuoted
  rw [String.toList_ofList, Reading.through_append, Reading.through_cons]
  have opened : Reading.outside.next doubleQuote = some Reading.outside.turned := by decide
  rw [opened, Option.bind_some, Reading.through_escapes]
  rfl

theorem balanced_intercalate {separator : String}
    (balanced : IsBalanced separator) {texts : List String}
    (others : ∀ text ∈ texts, IsBalanced text) : IsBalanced
    (String.intercalate separator texts) := by
  induction texts with
  | nil => rfl
  | cons text rest ih =>
      have first := others text List.mem_cons_self
      cases rest with
      | nil => simpa using first
      | cons next more =>
          rw [String.intercalate_cons_cons]
          exact balanced_append (balanced_append first balanced)
            (ih fun other member => others other (List.mem_cons_of_mem _ member))

/-- A balanced text cannot end in a hash and another balanced text. -/
theorem unbalanced_of_hash {front : List Char} {text last : String}
    (parts : text.toList = front ++ '#' :: last.toList)
    (balanced : IsBalanced last) : ¬ IsBalanced text := by
  intro whole
  unfold IsBalanced at whole balanced
  rw [parts, Reading.through_append] at whole
  obtain ⟨reached, _, behind⟩ := Option.bind_eq_some_iff.mp whole
  rw [Reading.through_cons] at behind
  obtain ⟨entered, hash, read⟩ := Option.bind_eq_some_iff.mp behind
  have inside : entered = Reading.outside.turned := by
    cases within : reached.inside <;> simp [Reading.next, within] at hash
    exact hash.symm
  -- the same characters are read from outside to outside, so from inside they end inside
  rw [inside] at read
  cases Reading.through_turned balanced read

theorem no_longer_label {label other text last : String} {more : List Char}
    (balanced : IsBalanced text)
    (others : IsBalanced last) (longer : other.toList = label.toList ++ more)
    (rest : '#' :: text.toList = more ++ '#' :: last.toList) : label = other ∧ text = last := by
  cases more with
  | nil =>
      rw [List.append_nil] at longer
      exact ⟨String.toList_inj.mp longer.symm, String.toList_inj.mp (List.cons.inj rest).2⟩
  | cons mark front => exact absurd balanced (unbalanced_of_hash (List.cons.inj rest).2 others)

/-- A label and a balanced text, joined by a hash, can be told apart again. -/
theorem hash_append_inj {label other text last : String} (balanced : IsBalanced text)
    (others : IsBalanced last)
    (equal : label ++ "#" ++ text = other ++ "#" ++ last) : label = other ∧ text = last := by
  have characters : label.toList ++ '#' :: text.toList = other.toList ++ '#' :: last.toList := by
    simpa using congrArg String.toList equal
  rcases List.append_eq_append_iff.mp characters with ⟨more, longer, rest⟩ | ⟨more, longer, rest⟩
  · exact no_longer_label balanced others longer rest
  · obtain ⟨labels, texts⟩ := no_longer_label others balanced longer rest
    exact ⟨labels.symm, texts.symm⟩

end Text

namespace Scalar

theorem key_text_of_plain {scalar : Scalar} (noText : scalar.isText = false)
    (noClosure : scalar.isClosure = false) :
    ∃ atom : Atom, scalar.keyText = atom.text := by
  cases scalar with
  | null => exact ⟨.null, rfl⟩
  | bool flag => exact ⟨.bool flag, rfl⟩
  | int number => exact ⟨.int number, rfl⟩
  | float number =>
      cases known : Decimal.double? number with
      | some double => exact ⟨.float double, Fingerprint.key_text_of_double known⟩
      | none =>
          refine ⟨.nan, ?_⟩
          unfold Decimal.double? at known
          split at known
          · cases known
          · cases known
          · rename_i undefined
            rw [show Decimal.readBits number.toBits.toNat =
              Decimal.read number from rfl] at undefined
            simp only [keyText, undefined, Atom.text]
  | nan occurrence => exact ⟨.nan, rfl⟩
  | text content => cases noText
  | closure handle tag => cases noClosure

theorem balanced_fingerprint (scalar : Scalar) : Text.IsBalanced scalar.fingerprint := by
  have plain : scalar.isText = false → scalar.isClosure = false →
      Text.IsBalanced scalar.keyText := by
    intro noText noClosure
    obtain ⟨atom, same⟩ := key_text_of_plain noText noClosure
    rw [same]
    exact Text.balanced_of_plain (Atom.text_without_marks (by decide) atom)
  cases scalar with
  | text content => exact Text.balanced_quoted content
  | closure handle tag => exact Text.balanced_quoted _
  | null => exact plain rfl rfl
  | bool flag => exact plain rfl rfl
  | int number => exact plain rfl rfl
  | float number => exact plain rfl rfl
  | nan occurrence => exact plain rfl rfl

end Scalar

namespace Fingerprint

open Text

theorem sort_fields_perm (fields : List (Scalar × String)) : (sortFields fields).Perm fields := by
  unfold sortFields
  split
  · exact List.mergeSort_perm _ _
  · exact Sorting.ascending_perm _ _

theorem balanced_join_fields {fields : List (Scalar × String)} {joined : String}
    (balanced : ∀ field ∈ fields, IsBalanced field.2) (known : joinFields fields = some joined) :
    IsBalanced joined := by
  unfold joinFields at known
  split at known
  · cases known
    have comma : IsBalanced "," := by decide
    have texts : ∀ text ∈ (sortFields fields).map
        (fun field => asciiQuoted field.1.keyText ++ ":" ++ field.2), IsBalanced text := by
      intro text member
      obtain ⟨field, sorted, rfl⟩ := List.mem_map.mp member
      exact balanced_append (balanced_append (balanced_quoted _) (by decide))
        (balanced field ((sort_fields_perm fields).mem_iff.mp sorted))
    exact balanced_append (balanced_append (by decide) (balanced_intercalate comma texts))
      (by decide)
  · cases known

mutual

theorem balanced_of_value : ∀ (value : Value) {text : String}, ofValue value = some text →
    IsBalanced text
  | .scalar content, text, known => by
      cases known
      exact content.balanced_fingerprint
  | .list items, text, known => by
      rw [ofValue] at known
      obtain ⟨texts, found, written⟩ := Option.bind_eq_some_iff.mp known
      cases written
      exact balanced_append (balanced_append (by decide)
        (balanced_intercalate (by decide) (balanced_of_items items found))) (by decide)
  | .mapping entries, text, known => by
      rw [ofValue] at known
      obtain ⟨fields, found, joined⟩ := Option.bind_eq_some_iff.mp known
      exact balanced_join_fields (balanced_of_fields entries found) joined

theorem balanced_of_items : ∀ (items : List Value) {texts : List String},
    ofItems items = some texts →
    ∀ text ∈ texts, IsBalanced text
  | [], texts, known => by
      cases known
      exact nofun
  | item :: rest, texts, known => by
      rw [ofItems] at known
      obtain ⟨first, firstKnown, behind⟩ := Option.bind_eq_some_iff.mp known
      obtain ⟨others, othersKnown, written⟩ := Option.bind_eq_some_iff.mp behind
      cases written
      exact List.forall_mem_cons.mpr
        ⟨balanced_of_value item firstKnown, balanced_of_items rest othersKnown⟩

theorem balanced_of_fields : ∀ (entries : List (Scalar × Value)) {fields : List (Scalar × String)},
    ofFields entries = some fields → ∀ field ∈ fields, IsBalanced field.2
  | [], fields, known => by
      cases known
      exact nofun
  | (key, value) :: rest, fields, known => by
      rw [ofFields] at known
      obtain ⟨first, firstKnown, behind⟩ := Option.bind_eq_some_iff.mp known
      obtain ⟨others, othersKnown, written⟩ := Option.bind_eq_some_iff.mp behind
      cases written
      exact List.forall_mem_cons.mpr
        ⟨balanced_of_value value firstKnown, balanced_of_fields rest othersKnown⟩

end

end Fingerprint

theorem Entries.balanced_fingerprint {entries : Entries} {fingerprint : String}
    (known : Entries.fingerprint entries = some fingerprint) : Text.IsBalanced fingerprint := by
  unfold Entries.fingerprint at known
  split at known
  · exact Fingerprint.balanced_of_value _ known
  · cases known

end Interplay
