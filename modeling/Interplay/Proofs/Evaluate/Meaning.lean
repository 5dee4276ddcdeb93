import Interplay.Proofs.Evaluate.Data
import Interplay.Proofs.Registry.Lookup

/-!
The meaning of formulas.

Where handlers are functions of their arguments, a formula has a meaning: a content for each content
of the data root, which does not depend on depth, on cycles or on what a memo holds.  A formula that
fails somewhere, or goes on for ever, has none.
-/

namespace Interplay

def Arguments.content? : Arguments → Option Content
  | named entries => (Value.mapping entries).content?
  | positional items => (Value.list items).content?

/-- A routine that answers with a value of the expected content, or fails where none is expected.
It may leave records and number the not-a-numbers it computes, but it asks for nothing. -/
def Routine.Replies (expected : Option Content) : Routine → Prop
  | answer value => ∃ content, value.content? = some content ∧ expected = some content
  | fail _ => expected = none
  | record _ next => next.Replies expected
  | occurrence next => ∀ number, (next number).Replies expected
  | _ => False

def Routine.IsQuiet : Routine → Prop
  | answer _ => True
  | fail _ => True
  | occurrence next => ∀ number, (next number).IsQuiet
  | _ => False

namespace Evaluate

/-- A handler that is a function of its arguments alone, whatever the order of their keys: for
arguments of one content it always answers with one content, or it always fails. -/
def IsPure (handler : FormulaHandler) : Prop :=
  ∀ content, ∃ expected, ∀ arguments view, arguments.content? = some content →
    (handler arguments view).Replies expected

open Classical in
noncomputable def answerTo (handler : FormulaHandler) (content : Content) : Option Content :=
  if determined : ∃ expected, ∀ arguments view, arguments.content? = some content →
      (handler arguments view).Replies expected then
    determined.choose
  else
    none

theorem replies_answer {handler : FormulaHandler} (pure : IsPure handler)
    {arguments : Arguments} {content : Content}
    (known : arguments.content? = some content) (view : View) :
    (handler arguments view).Replies (answerTo handler content) := by
  unfold answerTo
  rw [dif_pos (pure content)]
  exact (pure content).choose_spec arguments view known

/-- What formulas refer to besides their arguments. -/
structure Setting where
  formulas : FormulaCatalog
  component : Option Component
  package : Value
  /-- The data root but for its arguments. -/
  root : Content

structure Setting.IsQuiet (setting : Setting) : Prop where
  handlers : ∀ handler, setting.formulas.Holds (.handler handler) →
    ∀ arguments view, (handler arguments view).IsQuiet
  fallbacks : ∀ entry ∈ setting.formulas.legacy, ∀ arguments view, (entry.2 arguments view).IsQuiet

namespace Meaning

def operand (smaller : Formula → Option Content) : Option Formula → Option Content
  | none => some .null
  | some formula => smaller formula

def collect (step : Argument → Option Content) : List Argument → Option (List Content)
  | [] => some []
  | argument :: rest => do
    let first ← step argument
    let others ← collect step rest
    return first :: others

def key? : Value → Option String
  | .scalar name => name.text?
  | _ => none

def named (step : Argument → Option Content) : List Argument →
    Table Content → Option (Table Content)
  | [], fields => some fields
  | argument :: rest, fields =>
    if argument.name.isFilled then do
      let content ← step argument
      let key ← key? argument.name
      named step rest (Keyed.insert key content fields)
    else
      named step rest fields

def anyOperand (truth : Bool) (step : Argument → Option Content) : List Argument → Option Bool
  | [] => some false
  | argument :: rest => do
    let content ← step argument
    if content.isTrue = truth then some true else anyOperand truth step rest

def firstCase (condition result : FormulaCase → Option Content) (fallback : Option Content) :
    List FormulaCase → Option Content
  | [] => fallback
  | branch :: rest => do
    let content ← condition branch
    if content.isTrue then result branch else firstCase condition result fallback rest

noncomputable def call (setting : Setting) (step : Argument → Option Content) (name : String)
    (arguments : List Argument) (declared : Value) : Option Content :=
  match setting.formulas.resolve (.text name) (declared.orElse setting.package) with
  | .ok (some (.legacy handler _)) => do
    let items ← collect step arguments
    answerTo handler (.list items)
  | .ok (some (.versioned (.handler handler) _)) => do
    let fields ← named step arguments []
    answerTo handler (.mapping (Content.arrange fields))
  | _ => none

def definition? (setting : Setting) (name : String) : Option ComponentFormula :=
  setting.component.bind fun component => Keyed.find? name component.formulas

noncomputable def node (setting : Setting) (smaller : Content → Formula → Option Content)
    (data : Content) (formula : Formula) : Option Content :=
  let step := fun argument : Argument => operand (smaller data) argument.formula
  match formula with
  | .value content => content.content?
  | .path segments => data.walk segments
  | .function name arguments declared => call setting step name arguments declared
  | .apply name arguments => do
    let definition ← definition? setting name
    let fields ← named step arguments []
    let inner ← data.withArguments fields
    operand (smaller inner) definition.formula
  | .object arguments =>
    (named step arguments []).map fun fields => .mapping (Content.arrange fields)
  | .record arguments =>
    (named step arguments []).map fun fields => .mapping (Content.arrange fields)
  | .array arguments => (collect step arguments).map .list
  | .or arguments => (anyOperand true step arguments).map fun found => .atom (.bool found)
  | .and arguments => (anyOperand false step arguments).map fun found => .atom (.bool (!found))
  | .switch cases fallback =>
    firstCase (fun branch => operand (smaller data) branch.condition)
      (fun branch => operand (smaller data) branch.result) (operand (smaller data) fallback) cases

def Extends {α β : Type} (smaller larger : α → Option β) : Prop :=
  ∀ input output, smaller input = some output → larger input = some output

def ExtendsOn {α β : Type} (items : List α) (smaller larger : α → Option β) : Prop :=
  ∀ item ∈ items, ∀ output, smaller item = some output → larger item = some output

section Extending

variable {first second : Argument → Option Content}

theorem operand_extends {smaller larger : Formula → Option Content}
    (extended : Extends smaller larger) :
    Extends (operand smaller) (operand larger) := by
  intro formula content known
  cases formula with
  | none => exact known
  | some formula => exact extended formula content known

theorem collect_extends {arguments : List Argument} (extended : ExtendsOn arguments first second)
    {contents : List Content} (known : collect first arguments = some contents) :
    collect second arguments = some contents := by
  induction arguments generalizing contents with
  | nil => exact known
  | cons argument rest ih =>
      have whole := List.forall_mem_cons.mp extended
      obtain ⟨content, present, known⟩ := Option.bind_eq_some_iff.mp known
      obtain ⟨others, collected, made⟩ := Option.bind_eq_some_iff.mp known
      cases made
      simp [collect, whole.1 content present, ih whole.2 collected]

theorem named_extends {arguments : List Argument} (extended : ExtendsOn arguments first second)
    {fields result : Table Content} (known : named first arguments fields = some result) :
    named second arguments fields = some result := by
  induction arguments generalizing fields with
  | nil => exact known
  | cons argument rest ih =>
      have whole := List.forall_mem_cons.mp extended
      unfold named at known ⊢
      by_cases filled : argument.name.isFilled
      · rw [if_pos filled] at known ⊢
        obtain ⟨content, present, known⟩ := Option.bind_eq_some_iff.mp known
        obtain ⟨key, keyed, known⟩ := Option.bind_eq_some_iff.mp known
        simp [whole.1 content present, keyed, ih whole.2 known]
      · rw [if_neg filled] at known ⊢
        exact ih whole.2 known

theorem any_operand_extends {arguments : List Argument}
    (extended : ExtendsOn arguments first second) (truth : Bool)
    {found : Bool} (known : anyOperand truth first arguments = some found) :
    anyOperand truth second arguments = some found := by
  induction arguments with
  | nil => exact known
  | cons argument rest ih =>
      have whole := List.forall_mem_cons.mp extended
      obtain ⟨content, present, known⟩ := Option.bind_eq_some_iff.mp known
      unfold anyOperand
      rw [whole.1 content present, Option.bind_eq_bind, Option.bind_some]
      split at known
      · rw [if_pos (by assumption)]
        exact known
      · rw [if_neg (by assumption)]
        exact ih whole.2 known

theorem first_case_extends
    {condition result largerCondition largerResult : FormulaCase → Option Content}
    {fallback largerFallback : Option Content} {cases : List FormulaCase}
    (conditions : ExtendsOn cases condition largerCondition)
    (results : ExtendsOn cases result largerResult)
    (last : ∀ content, fallback = some content → largerFallback = some content) {outcome : Content}
    (known : firstCase condition result fallback cases = some outcome) :
    firstCase largerCondition largerResult largerFallback cases = some outcome := by
  induction cases with
  | nil => exact last outcome known
  | cons branch rest ih =>
      have tests := List.forall_mem_cons.mp conditions
      have answers := List.forall_mem_cons.mp results
      obtain ⟨content, present, known⟩ := Option.bind_eq_some_iff.mp known
      unfold firstCase
      rw [tests.1 content present, Option.bind_eq_bind, Option.bind_some]
      split at known
      · rw [if_pos (by assumption)]
        exact answers.1 outcome known
      · rw [if_neg (by assumption)]
        exact ih tests.2 answers.2 known

theorem call_extends (setting : Setting) {arguments : List Argument}
    (extended : ExtendsOn arguments first second)
    (name : String) (declared : Value) {outcome : Content}
    (known : call setting first name arguments declared = some outcome) :
    call setting second name arguments declared = some outcome := by
  unfold call at known ⊢
  split at known
  · obtain ⟨items, collected, answered⟩ := Option.bind_eq_some_iff.mp known
    simp [collect_extends extended collected, answered]
  · obtain ⟨fields, collected, answered⟩ := Option.bind_eq_some_iff.mp known
    simp [named_extends extended collected, answered]
  · cases known

end Extending

theorem node_extends_to (setting : Setting) {smaller larger : Content → Formula → Option Content}
    {data other : Content} {formula : Formula}
    (paths : ∀ segments, formula = .path segments →
      ∀ outcome, data.walk segments = some outcome → other.walk segments = some outcome)
    (arguments : ExtendsOn formula.arguments
      (fun argument : Argument => operand (smaller data) argument.formula)
      fun argument => operand (larger other) argument.formula)
    (branches : ∀ cases fallback, formula = .switch cases fallback →
      ExtendsOn cases (fun branch => operand (smaller data) branch.condition)
        (fun branch => operand (larger other) branch.condition) ∧
      ExtendsOn cases (fun branch => operand (smaller data) branch.result)
        (fun branch => operand (larger other) branch.result) ∧
      ∀ content, operand (smaller data) fallback = some content →
        operand (larger other) fallback = some content)
    (bodies : ∀ name definition, definition? setting name = some definition → ∀ fields inner,
      data.withArguments fields = some inner →
      ∃ reached, other.withArguments fields = some reached ∧
        ∀ content, operand (smaller inner) definition.formula = some content →
          operand (larger reached) definition.formula = some content)
    {outcome : Content} (known : node setting smaller data formula = some outcome) :
    node setting larger other formula = some outcome := by
  cases formula with
  | value content => exact known
  | path segments => exact paths segments rfl outcome known
  | function name items declared => exact call_extends setting arguments name declared known
  | apply name items =>
      obtain ⟨definition, found, known⟩ := Option.bind_eq_some_iff.mp known
      obtain ⟨fields, collected, known⟩ := Option.bind_eq_some_iff.mp known
      obtain ⟨inner, made, known⟩ := Option.bind_eq_some_iff.mp known
      obtain ⟨reached, otherMade, same⟩ := bodies name definition found fields inner made
      have named : named (fun argument => operand (larger other) argument.formula) items [] =
          some fields :=
        named_extends arguments collected
      simp [node, found, named, otherMade, same outcome known]
  | object items =>
      obtain ⟨fields, collected, made⟩ := Option.map_eq_some_iff.mp known
      exact Option.map_eq_some_iff.mpr ⟨fields, named_extends arguments collected, made⟩
  | record items =>
      obtain ⟨fields, collected, made⟩ := Option.map_eq_some_iff.mp known
      exact Option.map_eq_some_iff.mpr ⟨fields, named_extends arguments collected, made⟩
  | array items =>
      obtain ⟨contents, collected, made⟩ := Option.map_eq_some_iff.mp known
      exact Option.map_eq_some_iff.mpr ⟨contents, collect_extends arguments collected, made⟩
  | or items =>
      obtain ⟨found, looked, made⟩ := Option.map_eq_some_iff.mp known
      exact Option.map_eq_some_iff.mpr ⟨found, any_operand_extends arguments true looked, made⟩
  | and items =>
      obtain ⟨found, looked, made⟩ := Option.map_eq_some_iff.mp known
      exact Option.map_eq_some_iff.mpr ⟨found, any_operand_extends arguments false looked, made⟩
  | switch cases fallback =>
      obtain ⟨conditions, results, last⟩ := branches cases fallback rfl
      exact first_case_extends conditions results last known

theorem node_extends (setting : Setting) {smaller larger : Content → Formula → Option Content}
    (extended : ∀ data, Extends (smaller data) (larger data)) (data : Content) :
    Extends (node setting smaller data) (node setting larger data) := by
  intro formula outcome known
  have parts : ∀ inner, Extends (operand (smaller inner)) (operand (larger inner)) :=
    fun inner => operand_extends (extended inner)
  refine node_extends_to setting (fun _ _ _ walked => walked)
    (fun argument _ => parts data argument.formula) ?_ ?_ known
  · exact fun _ fallback _ =>
      ⟨fun branch _ => parts data branch.condition, fun branch _ => parts data branch.result,
      parts data fallback⟩
  · exact fun _ definition _ _ inner made => ⟨inner, made, parts inner definition.formula⟩

end Meaning

/-- A formula means what its node does in terms of meanings of smaller ones, and nothing else. -/
inductive Means (setting : Setting) : Content → Formula → Content → Prop
  | node {smaller : Content → Formula → Option Content} {data outcome : Content} {formula : Formula}
    (grounded : ∀ inner part content, smaller inner part = some content →
      Means setting inner part content)
    (known : Meaning.node setting smaller data formula = some outcome) :
      Means setting data formula outcome

theorem means_unique {setting : Setting} {data outcome other : Content} {formula : Formula}
    (means : Means setting data formula outcome) (otherMeans : Means setting data formula other) :
    outcome = other := by
  induction means generalizing other with
  | @node smaller data outcome formula _ known ih =>
      obtain ⟨grounded, otherKnown⟩ := otherMeans
      rename_i others
      -- where both know a smaller formula they agree, so they have a common extension
      let joined : Content → Formula →
          Option Content := fun inner part => (smaller inner part).or (others inner part)
      have first : ∀ inner, Meaning.Extends (smaller inner) (joined inner) := by
        intro inner part content present
        simp [joined, present]
      have second : ∀ inner, Meaning.Extends (others inner) (joined inner) := by
        intro inner part content present
        cases found : smaller inner part with
        | none => simp [joined, found, present]
        | some known =>
            have same := ih inner part known found (grounded inner part content present)
            simp [joined, found, same]
      have whole := Meaning.node_extends setting first data formula outcome known
      rw [Meaning.node_extends setting second data formula other otherKnown] at whole
      cases whole
      rfl

open Classical in
noncomputable def meaning (setting : Setting) (data : Content) (formula : Formula) :
    Option Content :=
  if determined : ∃ outcome, Means setting data formula outcome then
    some determined.choose else none

theorem meaning_eq_some {setting : Setting} {data outcome : Content} {formula : Formula} :
    meaning setting data formula = some outcome ↔ Means setting data formula outcome := by
  unfold meaning
  constructor
  · intro found
    split at found
    · rename_i determined
      cases found
      exact determined.choose_spec
    · cases found
  · intro means
    have determined : ∃ outcome, Means setting data formula outcome := ⟨outcome, means⟩
    rw [dif_pos determined, means_unique determined.choose_spec means]

theorem meaning_eq_node (setting : Setting) (data : Content) (formula : Formula) :
    meaning setting data formula = Meaning.node setting (meaning setting) data formula := by
  apply Option.ext
  intro outcome
  constructor
  · intro found
    obtain ⟨grounded, known⟩ := meaning_eq_some.mp found
    refine Meaning.node_extends setting ?_ data formula outcome known
    intro inner part content present
    exact meaning_eq_some.mpr (grounded inner part content present)
  · intro known
    exact meaning_eq_some.mpr (.node (fun _ _ _ => meaning_eq_some.mp) known)

end Evaluate
end Interplay
