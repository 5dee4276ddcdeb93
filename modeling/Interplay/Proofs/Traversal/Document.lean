import Interplay.Component.Reader
import Interplay.Proofs.Value.Content
import Interplay.Traversal.Formulas

/-!
Locations in persisted documents.

A location is followed in a document key by key and position by position.  Readers number the
entries that they keep: the objects of a list, the values of an object, and of a list of actions the
entries that are actions.  On a straight location nothing was left out before a position, so both
ways to count come to the same part.
-/

namespace Interplay

def Segment.label (label : String) : Segment → String
  | key name => name
  | index _ => label

namespace Value

def part? : Segment → Value → Option Value
  | .key name, source => source.field? name
  | .index position, list items => items[position]?
  | .index _, _ => none

/-- What a document has at a location. -/
def descend? : Location → Value → Option Value
  | [], source => some source
  | segment :: rest, source => (source.part? segment).bind (descend? rest)

def isObject : Value → Bool
  | mapping _ => true
  | _ => false

/-- Whether a reader keeps an entry of the list under a key. -/
def isKept (label : String) (entry : Value) : Bool :=
  if label = "actions" then
    match Action.read entry with
    | .ok (some _) => true
    | _ => false
  else entry.isObject

/-- The entries that a reader keeps, in order. -/
def kept (label : String) : Value → List Value
  | list items => items.filter (isKept label)
  | mapping entries => entries.map Prod.snd
  | _ => []

def keptPart? (label : String) : Segment → Value → Option Value
  | .key name, source => source.field? name
  | .index position, source => (source.kept label)[position]?

/-- What a reader finds at a location. -/
def reach? (label : String) : Location → Value → Option Value
  | [], source => some source
  | segment :: rest, source =>
    (source.keptPart? label segment).bind (reach? (segment.label label) rest)

/-- All entries are kept up to the ones that a location goes through. -/
def IsStraight (label : String) : Location → Value → Prop
  | [], _ => True
  | .key name :: rest, source => ∀ inner ∈ source.field? name, inner.IsStraight name rest
  | .index position :: rest, source =>
    ∃ items, source = list items ∧ (∀ item ∈ items.take (position + 1), isKept label item) ∧
      ∀ inner ∈ items[position]?, inner.IsStraight label rest

/-! ### Following locations -/

theorem kept_unless_before {items : List Value} {keeps : Value → Bool} {position : Nat}
    (all : ∀ item ∈ items.take (position + 1), keeps item) :
    (items.filter keeps)[position]? = items[position]? := by
  induction items generalizing position with
  | nil => rfl
  | cons item rest ih =>
      rw [List.take_succ_cons, List.forall_mem_cons] at all
      rw [List.filter_cons_of_pos all.1]
      cases position with
      | zero => rfl
      | succ position => exact ih all.2

/-- Where nothing is left out, positions count all entries. -/
theorem descend_of_straight {label : String} {location : Location} {source : Value}
    (straight : source.IsStraight label location) : source.descend? location =
    source.reach? label location := by
  induction location generalizing label source with
  | nil => rfl
  | cons segment rest ih =>
      cases segment with
      | key name => exact Option.bind_congr fun inner found => ih (straight inner found)
      | index position =>
          obtain ⟨items, rfl, all, inside⟩ := straight
          unfold descend? reach?
          simp only [part?, keptPart?, kept, kept_unless_before all]
          exact Option.bind_congr fun inner found => ih (inside inner found)

theorem reach_null (label : String) (location : Location) :
    (null.reach? label location).getD null = null := by
  cases location with
  | nil => rfl
  | cons segment rest => cases segment <;> rfl

/-! ### Parts of JSON values -/

theorem is_json_null : IsJson null :=
  ⟨_, rfl⟩

theorem json_of_contents {items : List Value} {contents : List Content}
    (known : contents? items = some contents)
    {item : Value} (member : item ∈ items) : item.IsJson := by
  induction items generalizing contents with
  | nil => cases member
  | cons first rest ih =>
      obtain ⟨content, others, firstKnown, othersKnown, rfl⟩ := content_cons known
      rcases List.mem_cons.mp member with rfl | later
      · exact ⟨content, firstKnown⟩
      · exact ih othersKnown later

theorem json_of_fields {entries : Entries} {fields : Table Content}
    (known : fields? entries = some fields)
    {entry : Scalar × Value} (member : entry ∈ entries) : entry.2.IsJson := by
  induction entries generalizing fields with
  | nil => cases member
  | cons first rest ih =>
      obtain ⟨key, value⟩ := first
      obtain ⟨name, content, others, rfl, firstKnown, othersKnown, rfl⟩ := fields_cons known
      rcases List.mem_cons.mp member with rfl | later
      · exact ⟨content, firstKnown⟩
      · exact ih othersKnown later

theorem IsJson.item {items : List Value} (json : (list items).IsJson) {item : Value}
    (member : item ∈ items) :
    item.IsJson := by
  obtain ⟨content, known⟩ := json
  obtain ⟨contents, found, rfl⟩ := items_of_list known
  exact json_of_contents found member

theorem IsJson.entry {entries : Entries} (json : (mapping entries).IsJson) {entry : Scalar × Value}
    (member : entry ∈ entries) : entry.2.IsJson := by
  obtain ⟨content, known⟩ := json
  obtain ⟨fields, found, _, rfl⟩ := fields_of_mapping known
  exact json_of_fields found member

theorem IsJson.field {source : Value} (json : source.IsJson) (name : String) :
    (source.field name).IsJson := by
  cases source with
  | scalar content => exact is_json_null
  | list items => exact is_json_null
  | mapping entries =>
      obtain ⟨content, known⟩ := json
      obtain ⟨fields, found, _, rfl⟩ := fields_of_mapping known
      rcases find_in_fields found name with ⟨absent, _⟩ | ⟨value, inner, present, valued, _⟩
      · simp only [Value.field, absent]
        exact is_json_null
      · simp only [Value.field, present]
        exact ⟨inner, valued⟩

theorem IsJson.kept {source : Value} (json : source.IsJson) {label : String} {entry : Value}
    (member : entry ∈ source.kept label) : entry.IsJson := by
  cases source with
  | scalar content => cases member
  | list items => exact json.item (List.mem_filter.mp member).1
  | mapping entries =>
      obtain ⟨found, listed, rfl⟩ := List.mem_map.mp member
      exact json.entry listed

theorem field_of_field? (source : Value) (name : String) :
    (source.field? name).getD null = source.field name := by
  cases source <;> rfl

theorem IsJson.keptPart {source : Value} (json : source.IsJson)
    (label : String) (segment : Segment) :
    ((source.keptPart? label segment).getD null).IsJson := by
  cases segment with
  | key name =>
      rw [keptPart?, field_of_field?]
      exact json.field name
  | index position =>
      simp only [keptPart?]
      cases found : (source.kept label)[position]? with
      | none => exact is_json_null
      | some entry => exact json.kept (List.mem_of_getElem? found)

theorem names_of_fields {entries : Entries} {fields : Table Content}
    (known : fields? entries = some fields) :
    entries.map (fun entry => entry.1.display) = fields.map Prod.fst := by
  induction entries generalizing fields with
  | nil =>
      cases known
      rfl
  | cons entry rest ih =>
      obtain ⟨key, value⟩ := entry
      obtain ⟨name, content, others, rfl, _, othersKnown, rfl⟩ := fields_cons known
      rw [List.map_cons, List.map_cons, ih othersKnown]
      rfl

theorem field_of_entry {entries : Entries} (json : (mapping entries).IsJson)
    {key : Scalar} {value : Value}
    (member : (key, value) ∈ entries) : (mapping entries).field? key.display = some value := by
  obtain ⟨content, known⟩ := json
  obtain ⟨fields, found, distinct, rfl⟩ := fields_of_mapping known
  -- the induction is on the entries, which the content of the whole mapping no longer is about
  simp only [field?]
  clear known
  induction entries generalizing fields with
  | nil => cases member
  | cons entry rest ih =>
      obtain ⟨other, first⟩ := entry
      obtain ⟨name, content, others, rfl, _, othersKnown, rfl⟩ := fields_cons found
      rw [List.map_cons, List.nodup_cons] at distinct
      rcases List.mem_cons.mp member with same | later
      · cases same
        simp [Keyed.find?, same_text_iff, Scalar.display]
      · have listed : key.display ∈ others.map Prod.fst := by
          rw [← names_of_fields othersKnown]
          exact List.mem_map.mpr ⟨_, later, rfl⟩
        have different : name ≠ key.display := by
          rintro rfl
          exact distinct.1 listed
        simp only [Keyed.find?, same_text_iff, beq_eq_false_iff_ne.mpr different]
        exact ih later others othersKnown distinct.2

theorem nodup_names {entries : Entries} (json : (mapping entries).IsJson) :
    (entries.map fun entry => entry.1.display).Nodup := by
  obtain ⟨content, known⟩ := json
  obtain ⟨fields, found, distinct, rfl⟩ := fields_of_mapping known
  rw [names_of_fields found]
  exact distinct

end Value
end Interplay
