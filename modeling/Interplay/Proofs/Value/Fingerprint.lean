import Interplay.Proofs.Text.Quoted
import Interplay.Proofs.Value.Content
import Interplay.Value.Fingerprint

/-!
Fingerprints tell contents apart.

The fingerprint of an argument mapping is its content in print, so mappings of the same content have
the same fingerprint.  Print can be read back: every piece tells by its first character what it is,
and the pieces that do not end by themselves are followed by a comma, by a bracket or by nothing.
So equal fingerprints belong to equal contents.
-/

namespace Interplay

def Decimal.Double.text : Decimal.Double → String
  | finite negative significand exponent _ => Decimal.finiteText negative significand exponent
  | infinite negative => if negative then "-Infinity" else "Infinity"

namespace Atom

def text : Atom → String
  | null => "null"
  | bool flag => if flag then "true" else "false"
  | int number => toString number
  | float double => double.text
  | nan => "NaN"

def isNumeral (character : Char) : Bool :=
  character.isDigit || ['.', 'e', '+', '-'].contains character

def isWhole (character : Char) : Bool :=
  character.isDigit || character == '-'

def hasNumeral : Atom → Bool
  | int _ => true
  | float (.finite ..) => true
  | _ => false

def hasWhole : Atom → Bool
  | int _ => true
  | _ => false

theorem all_numeral (atom : Atom) : atom.text.toList.all isNumeral = atom.hasNumeral := by
  cases atom with
  | null => decide
  | bool flag => cases flag <;> decide
  | int number =>
      rw [hasNumeral, List.all_eq_true]
      intro character member
      rcases Decimal.whole_text_characters number character member with digit | rfl
      · simp [isNumeral, digit]
      · rfl
  | float double =>
      cases double with
      | finite negative significand exponent double =>
          rw [hasNumeral, List.all_eq_true]
          intro character member
          rcases Decimal.finite_text_characters double character member with digit | mark
          · simp [isNumeral, digit]
          · simp only [isNumeral, Bool.or_eq_true]
            exact .inr (List.contains_iff_mem.mpr mark)
      | infinite negative => cases negative <;> decide
  | nan => decide

theorem all_whole (atom : Atom) : atom.text.toList.all isWhole = atom.hasWhole := by
  cases atom with
  | null => decide
  | bool flag => cases flag <;> decide
  | int number =>
      rw [hasWhole, List.all_eq_true]
      intro character member
      rcases Decimal.whole_text_characters number character member with digit | rfl
      · simp [isWhole, digit]
      · rfl
  | float double =>
      cases double with
      | finite negative significand exponent double =>
          rw [show hasWhole (float (.finite negative significand exponent double)) =
            false from rfl, List.all_eq_false]
          rcases Decimal.finite_text_marked double with point | mark
          · exact ⟨'.', point, by decide⟩
          · exact ⟨'e', mark, by decide⟩
      | infinite negative => cases negative <;> decide
  | nan => decide

theorem has_numeral_cases {atom : Atom} (numeral : atom.hasNumeral = true) :
    (∃ number, atom = int number) ∨
      ∃ negative significand exponent double, atom = float
        (.finite negative significand exponent double) := by
  cases atom with
  | int number => exact .inl ⟨number, rfl⟩
  | float double =>
      cases double with
      | finite negative significand exponent double =>
          exact .inr ⟨negative, significand, exponent, double, rfl⟩
      | infinite negative => cases numeral
  | null => cases numeral
  | bool flag => cases numeral
  | nan => cases numeral

def ofWord (word : String) : Option Atom :=
  Keyed.find? word
    [("null", null), ("true", bool true), ("false", bool false), ("NaN", nan),
      ("Infinity", float (.infinite false)),
     ("-Infinity", float (.infinite true))]

theorem of_word_text {atom : Atom} (noNumeral : atom.hasNumeral = false) :
    ofWord atom.text = some atom := by
  cases atom with
  | null => rfl
  | bool flag => cases flag <;> rfl
  | int number => cases noNumeral
  | float double =>
      cases double with
      | finite negative significand exponent double => cases noNumeral
      | infinite negative => cases negative <;> rfl
  | nan => rfl

theorem text_injective {atom other : Atom} (equal : atom.text = other.text) : atom = other := by
  have numerals : atom.hasNumeral = other.hasNumeral := by rw [← all_numeral, ← all_numeral, equal]
  have wholes : atom.hasWhole = other.hasWhole := by rw [← all_whole, ← all_whole, equal]
  cases numeral : atom.hasNumeral with
  | false =>
      have word := of_word_text numeral
      rw [equal, of_word_text (numerals.symm.trans numeral)] at word
      exact (Option.some.inj word).symm
  | true =>
      rcases has_numeral_cases numeral with ⟨number, rfl⟩ |
        ⟨negative, significand, exponent, double, rfl⟩
      · rcases has_numeral_cases (numerals.symm.trans numeral) with ⟨_, rfl⟩ | ⟨_, _, _, _, rfl⟩
        · exact congrArg int (Decimal.whole_text_injective equal)
        · cases wholes
      · rcases has_numeral_cases (numerals.symm.trans numeral) with ⟨_, rfl⟩ |
          ⟨_, _, _, otherDouble, rfl⟩
        · cases wholes
        · obtain ⟨rfl, rfl, rfl⟩ := Decimal.finite_text_injective double otherDouble equal
          rfl

def isWordly (character : Char) : Bool :=
  isNumeral character || character.isAlpha

theorem all_wordly (atom : Atom) : atom.text.toList.all isWordly = true := by
  have numeral := all_numeral atom
  have widened : atom.text.toList.all isNumeral = true → atom.text.toList.all isWordly = true := by
    intro all
    rw [List.all_eq_true] at all ⊢
    intro character member
    simp [isWordly, all character member]
  cases atom with
  | null => rfl
  | bool flag => cases flag <;> rfl
  | int number => exact widened numeral
  | float double =>
      cases double with
      | finite negative significand exponent double => exact widened numeral
      | infinite negative => cases negative <;> rfl
  | nan => rfl

/-- The text of an atom is free of all marks that are no part of numerals and words. -/
theorem text_without_marks {marks : List Char}
    (strange : marks.all (fun mark => !isWordly mark) = true) (atom : Atom) :
    ∀ character ∈ atom.text.toList, marks.contains character = false := by
  intro character member
  rw [Bool.eq_false_iff]
  intro contained
  have wordly := List.all_eq_true.mp (all_wordly atom) character member
  have other := List.all_eq_true.mp strange character (List.contains_iff_mem.mp contained)
  simp [wordly] at other

def isStructural (character : Char) : Bool :=
  [',', ']', '\x7d', '"', '[', '\x7b'].contains character

/-- The text of an atom neither opens nor ends anything. -/
theorem text_not_structural (atom : Atom) :
    ∀ character ∈ atom.text.toList, isStructural character = false :=
  text_without_marks (by decide) atom

theorem text_ne_nil (atom : Atom) : atom.text.toList ≠ [] := by
  intro empty
  have whole := all_whole atom
  have numeral := all_numeral atom
  rw [empty] at whole numeral
  rcases has_numeral_cases numeral.symm with ⟨number, rfl⟩ |
    ⟨negative, significand, exponent, double, rfl⟩
  · cases number with
    | ofNat natural => exact Nat.toDigits_ne_nil ((Decimal.to_list_of_nat natural).symm.trans empty)
    | negSucc natural => cases (Decimal.to_list_neg_succ natural).symm.trans empty
  · cases whole

end Atom

namespace Content

mutual

def print : Content → List Char
  | atom content => content.text.toList
  | text content => (Text.asciiQuoted content).toList
  | list [] => ['[', ']']
  | list (item :: rest) => '[' :: (print item ++ printItems rest)
  | mapping [] => ['\x7b', '\x7d']
  | mapping ((key, content) :: rest) =>
    '\x7b' :: ((Text.asciiQuoted key).toList ++ ':' :: (print content ++ printFields rest))

/-- The items behind the first one, with the bracket that ends the list. -/
def printItems : List Content → List Char
  | [] => [']']
  | item :: rest => ',' :: (print item ++ printItems rest)

@[inherit_doc printItems]
def printFields : List (String × Content) → List Char
  | [] => ['\x7d']
  | (key, content) :: rest =>
    ',' :: ((Text.asciiQuoted key).toList ++ ':' :: (print content ++ printFields rest))

end

def Follows (rest : List Char) : Prop :=
  rest = [] ∨ ∃ mark more, rest = mark :: more ∧ Atom.isStructural mark = true

theorem print_items_follows (items : List Content) (rest : List Char) :
    Follows (printItems items ++ rest) := by
  cases items with
  | nil => exact .inr ⟨']', rest, by simp [printItems], rfl⟩
  | cons item others => exact .inr ⟨',', _, by rw [printItems, List.cons_append], rfl⟩

theorem print_fields_follows (fields : List (String × Content)) (rest : List Char) :
    Follows (printFields fields ++ rest) := by
  cases fields with
  | nil => exact .inr ⟨'\x7d', rest, by simp [printFields], rfl⟩
  | cons field others => exact .inr ⟨',', _, by rw [printFields, List.cons_append], rfl⟩

def opening : Content → Option Char
  | atom _ => none
  | text _ => some '"'
  | list _ => some '['
  | mapping _ => some '\x7b'

theorem print_opening (content : Content) :
    ∃ head rest, content.print = head :: rest ∧
      content.opening = if Atom.isStructural head then some head else none := by
  cases content with
  | atom content =>
      cases written : content.text.toList with
      | nil => exact absurd written (Atom.text_ne_nil content)
      | cons head rest =>
          have plain :=
            Atom.text_not_structural content head (by rw [written]; exact List.mem_cons_self)
          exact ⟨head, rest, written, by rw [plain]; rfl⟩
  | text content =>
      exact ⟨'"', _, by simp only [print, Text.asciiQuoted, String.toList_ofList]; rfl, rfl⟩
  | list items =>
      cases items with
      | nil => exact ⟨'[', _, by rw [print], rfl⟩
      | cons item rest => exact ⟨'[', _, by rw [print], rfl⟩
  | mapping fields =>
      cases fields with
      | nil => exact ⟨'\x7b', _, by rw [print], rfl⟩
      | cons field rest => exact ⟨'\x7b', _, by rw [print], rfl⟩

theorem same_opening {content other : Content} {rest remainder : List Char}
    (equal : content.print ++ rest = other.print ++ remainder) :
    content.opening = other.opening := by
  obtain ⟨head, more, written, opened⟩ := print_opening content
  obtain ⟨otherHead, otherMore, otherWritten, otherOpened⟩ := print_opening other
  rw [written, otherWritten, List.cons_append, List.cons_append] at equal
  rw [opened, otherOpened, (List.cons.inj equal).1]

theorem print_ne_bracket (content : Content) (rest remainder : List Char) :
    content.print ++ rest ≠ ']' :: remainder := by
  obtain ⟨head, more, written, opened⟩ := print_opening content
  intro equal
  rw [written, List.cons_append] at equal
  obtain rfl := (List.cons.inj equal).1
  cases content <;> cases opened

theorem quoted_ne_bracket (key : String) (rest remainder : List Char) :
    (Text.asciiQuoted key).toList ++ rest ≠ '\x7d' :: remainder := by
  intro equal
  simp only [Text.asciiQuoted, String.toList_ofList, List.cons_append] at equal
  cases (List.cons.inj equal).1

/-- A text without structural characters ends where the first one stands. -/
theorem plain_append_inj {front other rest remainder : List Char}
    (plain : ∀ character ∈ front, Atom.isStructural character = false)
    (otherPlain : ∀ character ∈ other, Atom.isStructural character = false) (follows : Follows rest)
    (otherFollows : Follows remainder) (equal : front ++ rest = other ++ remainder) :
    front = other ∧ rest = remainder := by
  have ends : ∀ {text behind : List Char},
      (∀ character ∈ text, Atom.isStructural character = false) →
      Follows behind →
      (text ++ behind).takeWhile (fun character => !Atom.isStructural character) = text := by
    intro text behind clear ended
    rw [List.takeWhile_append_of_pos (fun character member => by simp [clear character member])]
    rcases ended with rfl | ⟨mark, more, rfl, structural⟩
    · simp
    · simp [structural]
  have fronts : front = other := by
    rw [← ends plain follows, ← ends otherPlain otherFollows, equal]
  subst fronts
  exact ⟨rfl, List.append_cancel_left equal⟩

mutual

theorem print_append_inj : ∀ (content other : Content) {rest remainder : List Char}, Follows rest →
    Follows remainder → content.print ++ rest = other.print ++ remainder →
    content = other ∧ rest = remainder
  | atom content, other, rest, remainder, follows, otherFollows, equal => by
      have opened := same_opening equal
      cases other <;> cases opened
      rename_i otherContent
      simp only [print] at equal
      obtain ⟨texts, ends⟩ := plain_append_inj (Atom.text_not_structural content)
        (Atom.text_not_structural otherContent) follows otherFollows equal
      exact ⟨congrArg atom (Atom.text_injective (String.toList_inj.mp texts)), ends⟩
  | text content, other, rest, remainder, _, _, equal => by
      have opened := same_opening equal
      cases other <;> cases opened
      simp only [print] at equal
      obtain ⟨rfl, ends⟩ := Text.ascii_quoted_append_inj equal
      exact ⟨rfl, ends⟩
  | list [], other, rest, remainder, _, _, equal => by
      have opened := same_opening equal
      cases other <;> cases opened
      rename_i others
      cases others with
      | nil => exact ⟨rfl, by simpa [print] using equal⟩
      | cons other more =>
          simp only [print, List.cons_append, List.append_assoc, List.cons.injEq, true_and,
            List.nil_append] at equal
          exact absurd equal.symm (print_ne_bracket other _ _)
  | list (item :: items), other, rest, remainder, _, _, equal => by
      have opened := same_opening equal
      cases other <;> cases opened
      rename_i others
      cases others with
      | nil =>
          simp only [print, List.cons_append, List.append_assoc, List.cons.injEq, true_and,
            List.nil_append] at equal
          exact absurd equal (print_ne_bracket item _ _)
      | cons other more =>
          simp only [print, List.cons_append, List.append_assoc, List.cons.injEq, true_and] at equal
          obtain ⟨rfl, behind⟩ :=
            print_append_inj item other (print_items_follows _ _) (print_items_follows _ _) equal
          obtain ⟨rfl, ends⟩ := print_items_append_inj items more behind
          exact ⟨rfl, ends⟩
  | mapping [], other, rest, remainder, _, _, equal => by
      have opened := same_opening equal
      cases other <;> cases opened
      rename_i others
      cases others with
      | nil => exact ⟨rfl, by simpa [print] using equal⟩
      | cons other more =>
          simp only [print, List.cons_append, List.append_assoc, List.cons.injEq, true_and,
            List.nil_append] at equal
          exact absurd equal.symm (quoted_ne_bracket other.1 _ _)
  | mapping ((key, content) :: fields), other, rest, remainder, _, _, equal => by
      have opened := same_opening equal
      cases other <;> cases opened
      rename_i others
      cases others with
      | nil =>
          simp only [print, List.cons_append, List.append_assoc, List.cons.injEq, true_and,
            List.nil_append] at equal
          exact absurd equal (quoted_ne_bracket key _ _)
      | cons other more =>
          obtain ⟨otherKey, otherContent⟩ := other
          simp only [print, List.cons_append, List.append_assoc, List.cons.injEq, true_and] at equal
          obtain ⟨rfl, marked⟩ := Text.ascii_quoted_append_inj equal
          obtain ⟨rfl, behind⟩ := print_append_inj content otherContent (print_fields_follows _ _)
            (print_fields_follows _ _) (List.cons.inj marked).2
          obtain ⟨rfl, ends⟩ := print_fields_append_inj fields more behind
          exact ⟨rfl, ends⟩

theorem print_items_append_inj : ∀ (items others : List Content) {rest remainder : List Char},
    printItems items ++ rest = printItems others ++ remainder → items = others ∧ rest = remainder
  | [], [], rest, remainder, equal => ⟨rfl, by simpa [printItems] using equal⟩
  | [], other :: others, rest, remainder, equal => by simp [printItems] at equal
  | item :: items, [], rest, remainder, equal => by simp [printItems] at equal
  | item :: items, other :: others, rest, remainder, equal => by
      simp only [printItems, List.cons_append, List.append_assoc,
        List.cons.injEq, true_and] at equal
      obtain ⟨rfl, behind⟩ :=
        print_append_inj item other (print_items_follows _ _) (print_items_follows _ _) equal
      obtain ⟨rfl, ends⟩ := print_items_append_inj items others behind
      exact ⟨rfl, ends⟩

theorem print_fields_append_inj :
    ∀ (fields others : List (String × Content)) {rest remainder : List Char},
    printFields fields ++ rest = printFields others ++ remainder →
    fields = others ∧ rest = remainder
  | [], [], rest, remainder, equal => ⟨rfl, by simpa [printFields] using equal⟩
  | [], other :: others, rest, remainder, equal => by simp [printFields] at equal
  | field :: fields, [], rest, remainder, equal => by simp [printFields] at equal
  | (key, content) :: fields, (otherKey, otherContent) :: others, rest, remainder, equal => by
      simp only [printFields, List.cons_append, List.append_assoc,
        List.cons.injEq, true_and] at equal
      obtain ⟨rfl, marked⟩ := Text.ascii_quoted_append_inj equal
      obtain ⟨rfl, behind⟩ := print_append_inj content otherContent (print_fields_follows _ _)
        (print_fields_follows _ _) (List.cons.inj marked).2
      obtain ⟨rfl, ends⟩ := print_fields_append_inj fields others behind
      exact ⟨rfl, ends⟩

end

theorem print_injective {content other : Content} (equal : content.print = other.print) :
    content = other :=
  (print_append_inj content other (.inl rfl) (.inl rfl) (by rw [equal])).1

def printed (content : Content) : String :=
  String.ofList content.print

@[simp] theorem to_list_printed (content : Content) : content.printed.toList = content.print := by
  simp [printed]

def printedField (field : String × Content) : String :=
  Text.asciiQuoted field.1 ++ ":" ++ field.2.printed

theorem intercalate_printed (item : Content) (rest : List Content) :
    (String.intercalate "," ((item :: rest).map printed)).toList ++ [']'] =
    item.print ++ printItems rest := by
  induction rest generalizing item with
  | nil => simp [printItems]
  | cons next rest ih =>
      rw [List.map_cons, List.map_cons, String.intercalate_cons_cons,
        ← List.map_cons, String.toList_append,
        String.toList_append, List.append_assoc, ih next, printItems,
        to_list_printed, List.append_assoc]
      rfl

theorem intercalate_printed_fields (field : String × Content) (rest : List (String × Content)) :
    (String.intercalate "," ((field :: rest).map printedField)).toList ++ ['\x7d'] =
      (Text.asciiQuoted field.1).toList ++ ':' :: (field.2.print ++ printFields rest) := by
  induction rest generalizing field with
  | nil => simp [printFields, printedField]
  | cons next rest ih =>
      rw [List.map_cons, List.map_cons, String.intercalate_cons_cons,
        ← List.map_cons, String.toList_append,
        String.toList_append, List.append_assoc, ih next, printFields]
      simp [printedField]

theorem printed_list (items : List Content) :
    (list items).printed = "[" ++ String.intercalate "," (items.map printed) ++ "]" := by
  apply String.toList_inj.mp
  cases items with
  | nil => simp [print]
  | cons item rest =>
      have joined := intercalate_printed item rest
      simp only [to_list_printed, print, String.toList_append, List.append_assoc]
      rw [← joined]
      rfl

theorem printed_mapping (fields : List (String × Content)) :
    (mapping fields).printed = "\x7b" ++ String.intercalate ","
    (fields.map printedField) ++ "\x7d" := by
  apply String.toList_inj.mp
  cases fields with
  | nil => simp [print]
  | cons field rest =>
      have joined := intercalate_printed_fields field rest
      simp only [to_list_printed, print, String.toList_append, List.append_assoc]
      rw [← joined]
      rfl

mutual

/-- Whether every whole number in a content has few enough digits. -/
def isWritable : Content → Bool
  | atom (.int number) => (Scalar.int number).isWritable
  | atom _ => true
  | text _ => true
  | list items => itemsWritable items
  | mapping fields => fieldsWritable fields

def itemsWritable : List Content → Bool
  | [] => true
  | item :: rest => isWritable item && itemsWritable rest

def fieldsWritable : List (String × Content) → Bool
  | [] => true
  | (_, content) :: rest => isWritable content && fieldsWritable rest

end

theorem fields_writable_eq (fields : List (String × Content)) :
    fieldsWritable fields = fields.all fun field => field.2.isWritable := by
  induction fields with
  | nil => rfl
  | cons field rest ih =>
      obtain ⟨key, content⟩ := field
      rw [fieldsWritable, ih, List.all_cons]

def fingerprint? (content : Content) : Option String :=
  if content.isWritable then some content.printed else none

theorem fingerprint_injective {content other : Content} {fingerprint : String}
    (known : content.fingerprint? = some fingerprint)
    (otherKnown : other.fingerprint? = some fingerprint) :
    content = other := by
  unfold fingerprint? at known otherKnown
  split at known
  · split at otherKnown
    · have printed : content.printed = other.printed := by
        rw [Option.some.inj known, Option.some.inj otherKnown]
      apply print_injective
      rw [← to_list_printed, ← to_list_printed, printed]
    · cases otherKnown
  · cases known

end Content

namespace Fingerprint

theorem key_text_of_double {number : Float} {double : Decimal.Double}
    (known : Decimal.double? number = some double) :
    (Scalar.float number).keyText = double.text := by
  rcases Decimal.double_cases known with ⟨negative, significand, exponent, valid, read, rfl⟩ |
    ⟨negative, read, rfl⟩
  · simp only [Scalar.keyText, read, Decimal.text_of_finite read, Decimal.Double.text]
  · simp only [Scalar.keyText, read, Decimal.Double.text]

theorem fingerprint_of_scalar {scalar : Scalar} {content : Content}
    (known : scalar.content? = some content) :
    scalar.fingerprint = content.printed := by
  apply String.toList_inj.mp
  rw [Content.to_list_printed]
  cases scalar with
  | null => cases known; rfl
  | bool flag => cases known; rfl
  | int number => cases known; rfl
  | float number =>
      obtain ⟨double, found, rfl⟩ := Option.map_eq_some_iff.mp known
      rw [show (Scalar.float number).fingerprint = (Scalar.float number).keyText from rfl,
        key_text_of_double found]
      rfl
  | nan occurrence => cases known; rfl
  | text content => cases known; rfl
  | closure handle tag => cases known

theorem join_fields_of_texts (fields : Table Content) :
    joinFields (fields.map fun field => (.text field.1, field.2.printed)) =
      some (Content.mapping (Content.arrange fields)).printed := by
  have orderable : areOrderable (fields.map fun field => (Scalar.text field.1, field.2.printed)) =
      true := by
    cases fields with
    | nil => rfl
    | cons first rest =>
        cases rest with
        | nil => rfl
        | cons second rest =>
            simp only [List.map_cons, areOrderable, List.all_eq_true]
            intro field member
            rcases List.mem_cons.mp member with rfl | inside
            · rfl
            · obtain ⟨source, _, rfl⟩ := List.mem_map.mp inside
              rfl
  have texts : ((fields.map fun field => (Scalar.text field.1, field.2.printed)).all fun field =>
      field.1.isText) = true := by
    rw [List.all_eq_true]
    intro field member
    obtain ⟨source, _, rfl⟩ := List.mem_map.mp member
    rfl
  unfold joinFields
  rw [if_pos orderable]
  unfold sortFields
  rw [if_pos texts, Content.printed_mapping]
  have sorted :=
    List.map_mergeSort (r := fun left right : String × Content => !decide (right.1 < left.1))
    (s := fun left right : Scalar × String => !right.1.keyBelow left.1)
    (f := fun field : String × Content => (Scalar.text field.1, field.2.printed)) (l := fields)
    (fun _ _ _ _ => rfl)
  dsimp only
  rw [← sorted, List.map_map]
  rfl

mutual

theorem of_value_content : ∀ (value : Value) {content : Content}, value.content? = some content →
    ofValue value = some content.printed
  | .scalar scalar, content, known => by
      rw [Value.content?] at known
      rw [ofValue, fingerprint_of_scalar known]
  | .list items, content, known => by
      obtain ⟨contents, found, rfl⟩ := Value.items_of_list known
      rw [ofValue, of_items_contents items found, Content.printed_list]
      rfl
  | .mapping entries, content, known => by
      obtain ⟨fields, found, _, rfl⟩ := Value.fields_of_mapping known
      rw [ofValue, of_fields_contents entries found]
      exact join_fields_of_texts fields

theorem of_items_contents : ∀ (items : List Value) {contents : List Content},
    Value.contents? items = some contents → ofItems items = some (contents.map Content.printed)
  | [], contents, known => by
      cases known
      rfl
  | item :: rest, contents, known => by
      obtain ⟨first, others, firstKnown, othersKnown, rfl⟩ := Value.content_cons known
      rw [ofItems, of_value_content item firstKnown, of_items_contents rest othersKnown]
      rfl

theorem of_fields_contents : ∀ (entries : List (Scalar × Value)) {fields : Table Content},
    Value.fields? entries = some fields →
      ofFields entries = some (fields.map fun field => (.text field.1, field.2.printed))
  | [], fields, known => by
      cases known
      rfl
  | (key, value) :: rest, fields, known => by
      obtain ⟨name, first, others, rfl, firstKnown, othersKnown, rfl⟩ := Value.fields_cons known
      rw [ofFields, of_value_content value firstKnown, of_fields_contents rest othersKnown]
      rfl

end

mutual

theorem is_writable_content : ∀ (value : Value) {content : Content}, value.content? = some content →
    value.isWritable = content.isWritable
  | .scalar scalar, content, known => by
      rw [Value.content?] at known
      rw [Value.isWritable]
      cases scalar with
      | float number =>
          obtain ⟨double, _, rfl⟩ := Option.map_eq_some_iff.mp known
          rfl
      | closure handle tag => cases known
      | null => cases known; rfl
      | bool flag => cases known; rfl
      | int number => cases known; rfl
      | nan occurrence => cases known; rfl
      | text content => cases known; rfl
  | .list items, content, known => by
      obtain ⟨contents, found, rfl⟩ := Value.items_of_list known
      rw [Value.isWritable, Content.isWritable, all_writable_contents items found]
  | .mapping entries, content, known => by
      obtain ⟨fields, found, _, rfl⟩ := Value.fields_of_mapping known
      rw [Value.isWritable, Content.isWritable, entries_writable_contents entries found,
        Content.fields_writable_eq, Content.fields_writable_eq]
      exact (Content.arrange_perm fields).symm.all_eq

theorem all_writable_contents : ∀ (items : List Value) {contents : List Content},
    Value.contents? items = some contents → Value.allWritable items = Content.itemsWritable contents
  | [], contents, known => by
      cases known
      rfl
  | item :: rest, contents, known => by
      obtain ⟨first, others, firstKnown, othersKnown, rfl⟩ := Value.content_cons known
      rw [Value.allWritable, Content.itemsWritable, is_writable_content item firstKnown,
        all_writable_contents rest othersKnown]

theorem entries_writable_contents : ∀ (entries : List (Scalar × Value)) {fields : Table Content},
    Value.fields? entries = some fields →
    Value.entriesWritable entries = Content.fieldsWritable fields
  | [], fields, known => by
      cases known
      rfl
  | (key, value) :: rest, fields, known => by
      obtain ⟨name, first, others, rfl, firstKnown, othersKnown, rfl⟩ := Value.fields_cons known
      rw [Value.entriesWritable, Content.fieldsWritable, is_writable_content value firstKnown,
        entries_writable_contents rest othersKnown]
      rfl

end

end Fingerprint

theorem Entries.fingerprint_of_content {entries : Entries} {content : Content}
    (known : (Value.mapping entries).content? = some content) :
    Entries.fingerprint entries = content.fingerprint? := by
  have writable := Fingerprint.is_writable_content _ known
  rw [Value.isWritable] at writable
  unfold Entries.fingerprint Content.fingerprint?
  rw [writable, Fingerprint.of_value_content _ known]

end Interplay
