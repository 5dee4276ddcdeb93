import Interplay.Proofs.Evaluate.Faithful
import Interplay.Proofs.Evaluate.Tracking
import Interplay.Proofs.Registry.Lookup

/-!
Evaluation is faithful to the meaning of formulas, node by node.

Each part of a node is followed in two contexts over the same home whose data say the same.  If the
evaluator of smaller nodes is faithful to their meaning, then so are operands, arguments, calls of
handlers and guarded bodies.
-/

namespace Interplay

namespace Formula

def parts : Formula → List Formula
  | switch cases fallback =>
    cases.filterMap FormulaCase.condition ++ cases.filterMap FormulaCase.result ++ fallback.toList
  | formula => formula.arguments.filterMap Argument.formula

theorem part_of_argument {formula part : Formula} {argument : Argument}
    (member : argument ∈ formula.arguments)
    (present : argument.formula = some part) : part ∈ formula.parts := by
  cases formula with
  | switch cases fallback => cases member
  | _ => exact List.mem_filterMap.mpr ⟨argument, member, present⟩

theorem parts_of_switch {cases : List FormulaCase} {fallback : Option Formula} {part : Formula}
    (listed : (∃ branch ∈ cases, branch.condition = some part ∨ branch.result = some part) ∨
      fallback = some part) :
    part ∈ (Formula.switch cases fallback).parts := by
  rcases listed with ⟨branch, member, condition | result⟩ | last
  · have found : part ∈ cases.filterMap FormulaCase.condition :=
      List.mem_filterMap.mpr ⟨branch, member, condition⟩
    simp only [parts, List.mem_append, found, true_or]
  · have found : part ∈ cases.filterMap FormulaCase.result :=
      List.mem_filterMap.mpr ⟨branch, member, result⟩
    simp only [parts, List.mem_append, found, true_or, or_true]
  · simp [parts, last]

end Formula

/-- An argument that is passed by value, and under a text if under any name. -/
structure Argument.IsPlain (argument : Argument) : Prop where
  valued : argument.isFunction = false
  named : argument.name.isFilled = true → ∃ key, argument.name = .text key

/-- A formula of which all literals are JSON values and all arguments are plain. -/
inductive Formula.IsPlain : Formula → Prop
  | intro {formula : Formula} (literal : ∀ content, formula = .value content → content.IsJson)
    (arguments : ∀ argument ∈ formula.arguments, argument.IsPlain)
    (inside : ∀ part ∈ formula.parts, part.IsPlain) : formula.IsPlain

namespace Evaluate

/-- An absent formula, or a plain one. -/
def PlainOperand (formula : Option Formula) : Prop :=
  ∀ present, formula = some present → present.IsPlain

/-- A setting whose registry holds pure handlers only, and whose component has plain formulas
only. -/
structure Setting.IsPlain (setting : Setting) : Prop where
  handlers : ∀ entry, setting.formulas.Holds entry →
    ∃ handler, entry = .handler handler ∧ IsPure handler
  fallbacks : ∀ entry ∈ setting.formulas.legacy, IsPure entry.2
  bodies : ∀ component, setting.component = some component →
    ∀ entry ∈ component.formulas, PlainOperand entry.2.formula

/-- A context of a setting, whose data root replies something. -/
structure Within (setting : Setting) (environment : Environment) (data : Content)
    (context : Context) : Prop where
  formulas : (environment context.host).formulas = setting.formulas
  component : (environment context.host).component = setting.component
  package : context.package = setting.package
  known : context.data.content? = some data
  root : data.withoutArguments = setting.root

/-- Contexts over the same home whose data say the same. -/
structure Abreast (setting : Setting) (environment : Environment) (host : Nat) (data : Content)
    (context counterpart : Context) : Prop where
  home : context.host = host
  same : SameHome context counterpart
  within : Within setting environment data context
  otherWithin : Within setting environment data counterpart

def Interprets (setting : Setting) (environment : Environment) (host : Nat)
    (evaluator : Evaluator) : Prop :=
  ∀ data context counterpart, Abreast setting environment host data context counterpart →
    ∀ formula, formula.IsPlain → ∀ depth,
      Faithful setting host Value.content? (meaning setting data formula)
        (evaluator formula context depth) (evaluator formula counterpart depth)

section Plain

theorem plain_literal {content : Value} (json : content.IsJson) :
    (Formula.value content).IsPlain := by
  refine ⟨?_, nofun, nofun⟩
  intro other literal
  cases literal
  exact json

theorem plain_of_arguments {formula : Formula}
    (listed : formula.parts = formula.arguments.filterMap Argument.formula)
    (compound : ∀ content, formula ≠ .value content)
    (arguments : ∀ argument ∈ formula.arguments, argument.IsPlain ∧ PlainOperand argument.formula) :
    formula.IsPlain := by
  refine ⟨fun content literal => absurd literal (compound content),
    fun argument member => (arguments argument member).1,
    ?_⟩
  intro part member
  rw [listed] at member
  obtain ⟨argument, inside, present⟩ := List.mem_filterMap.mp member
  exact (arguments argument inside).2 part present

theorem plain_operand {formula : Formula} (plain : formula.IsPlain) {argument : Argument}
    (member : argument ∈ formula.arguments) : PlainOperand argument.formula := by
  obtain ⟨_, _, inside⟩ := plain
  exact fun part present => inside part (Formula.part_of_argument member present)

theorem plain_branch {cases : List FormulaCase} {fallback : Option Formula}
    (plain : (Formula.switch cases fallback).IsPlain) {branch : FormulaCase}
    (member : branch ∈ cases) :
    PlainOperand branch.condition ∧ PlainOperand branch.result := by
  obtain ⟨_, _, inside⟩ := plain
  exact ⟨fun part present => inside part
    (Formula.parts_of_switch (.inl ⟨branch, member, .inl present⟩)),
    fun part present => inside part (Formula.parts_of_switch (.inl ⟨branch, member, .inr present⟩))⟩

theorem plain_fallback {cases : List FormulaCase} {fallback : Option Formula}
    (plain : (Formula.switch cases fallback).IsPlain) : PlainOperand fallback := by
  obtain ⟨_, _, inside⟩ := plain
  exact fun part present => inside part (Formula.parts_of_switch (.inr present))

end Plain

section Lists

variable {setting : Setting} {host : Nat} {step : Argument → Option Content}
  {run other : Argument → Run Machine Value} {arguments : List Argument}

theorem faithful_collect
    (faithful : ∀ argument ∈ arguments,
      Faithful setting host Value.content? (step argument) (run argument) (other argument)) :
    Faithful setting host Value.contents? (Meaning.collect step arguments)
      (Run.collect run arguments) (Run.collect other arguments) := by
  induction arguments with
  | nil => exact faithful_pure rfl rfl
  | cons argument rest ih =>
      apply faithful_bind (faithful argument List.mem_cons_self)
      intro value answer content known otherKnown
      apply faithful_bind
        (ih fun argument member => faithful argument (List.mem_cons_of_mem _ member))
      intro values answers contents collected otherCollected
      apply faithful_pure
      · simp [Value.contents?, known, collected]
      · simp [Value.contents?, otherKnown, otherCollected]

def tableOf (entries : Entries) : Option (Table Content) :=
  (Value.fields? entries).bind fun fields => if (fields.map Prod.fst).Nodup
    then some fields else none

theorem table_of_eq_some {entries : Entries} {fields : Table Content} :
    tableOf entries = some fields ↔
    Value.fields? entries = some fields ∧ (fields.map Prod.fst).Nodup := by
  unfold tableOf
  constructor
  · intro found
    obtain ⟨present, known, made⟩ := Option.bind_eq_some_iff.mp found
    split at made
    · rename_i distinct
      cases made
      exact ⟨known, distinct⟩
    · cases made
  · rintro ⟨known, distinct⟩
    rw [known, Option.bind_some, if_pos distinct]

theorem table_of_nil : tableOf [] = some [] :=
  table_of_eq_some.mpr ⟨rfl, List.nodup_nil⟩

theorem table_of_insert {entries : Entries} {fields : Table Content}
    {value : Value} {content : Content}
    (key : String) (found : tableOf entries = some fields) (known : value.content? = some content) :
    tableOf (Keyed.insert (.text key) value entries) = some (Keyed.insert key content fields) := by
  obtain ⟨fieldsKnown, distinct⟩ := table_of_eq_some.mp found
  exact table_of_eq_some.mpr
    ⟨Value.fields_insert fieldsKnown known, Keyed.nodup_insert key content distinct⟩

theorem content_of_table {entries : Entries} {fields : Table Content}
    (found : tableOf entries = some fields) :
    (Value.mapping entries).content? = some (.mapping (Content.arrange fields)) := by
  obtain ⟨fieldsKnown, distinct⟩ := table_of_eq_some.mp found
  exact Value.content_of_fields fieldsKnown distinct

/-- Arguments are collected under the same names in both runs, so that their tables are the same, in
order too. -/
theorem faithful_collect_named {entries otherEntries : Entries} {fields : Table Content}
    (plain : ∀ argument ∈ arguments, argument.IsPlain)
    (faithful : ∀ argument ∈ arguments,
      Faithful setting host Value.content? (step argument) (run argument) (other argument))
    (found : tableOf entries = some fields) (otherFound : tableOf otherEntries = some fields) :
    Faithful setting host tableOf (Meaning.named step arguments fields)
      (collectNamed run arguments entries) (collectNamed other arguments otherEntries) := by
  induction arguments generalizing entries otherEntries fields with
  | nil => exact faithful_pure found otherFound
  | cons argument rest ih =>
      have restPlain := fun argument member => plain argument (List.mem_cons_of_mem _ member)
      have restFaithful := fun argument member => faithful argument (List.mem_cons_of_mem _ member)
      unfold collectNamed Meaning.named
      by_cases filled : argument.name.isFilled
      · obtain ⟨key, named⟩ := (plain argument List.mem_cons_self).named filled
        rw [if_pos filled, if_pos filled, if_pos filled, named]
        apply faithful_bind (faithful argument List.mem_cons_self)
        intro value answer content known otherKnown
        exact ih restPlain restFaithful (table_of_insert key found known)
          (table_of_insert key otherFound otherKnown)
      · rw [if_neg filled, if_neg filled, if_neg filled]
        exact ih restPlain restFaithful found otherFound

theorem faithful_any_operand (truth : Bool)
    (faithful : ∀ argument ∈ arguments,
      Faithful setting host Value.content? (step argument) (run argument) (other argument)) :
    Faithful setting host some (Meaning.anyOperand truth step arguments)
      (anyOperand truth run arguments) (anyOperand truth other arguments) := by
  induction arguments with
  | nil => exact faithful_pure rfl rfl
  | cons argument rest ih =>
      apply faithful_bind (faithful argument List.mem_cons_self)
      intro value answer content known otherKnown
      rw [Value.is_true_of_content known, Value.is_true_of_content otherKnown]
      split
      · exact faithful_pure rfl rfl
      · exact ih fun argument member => faithful argument (List.mem_cons_of_mem _ member)

theorem faithful_first_case
    {condition result otherCondition otherResult : FormulaCase → Run Machine Value}
    {conditions results : FormulaCase → Option Content} {fallback otherFallback : Run Machine Value}
    {last : Option Content} {cases : List FormulaCase}
    (faithful : ∀ branch ∈ cases,
      Faithful setting host Value.content? (conditions branch) (condition branch)
        (otherCondition branch) ∧
        Faithful setting host Value.content? (results branch) (result branch) (otherResult branch))
    (lastFaithful : Faithful setting host Value.content? last fallback otherFallback) :
    Faithful setting host Value.content? (Meaning.firstCase conditions results last cases)
      (firstCase condition result fallback cases)
      (firstCase otherCondition otherResult otherFallback cases) := by
  induction cases with
  | nil => exact lastFaithful
  | cons branch rest ih =>
      apply faithful_bind (faithful branch List.mem_cons_self).1
      intro value answer content known otherKnown
      rw [Value.is_true_of_content known, Value.is_true_of_content otherKnown]
      split
      · exact (faithful branch List.mem_cons_self).2
      · exact ih fun branch member => faithful branch (List.mem_cons_of_mem _ member)

end Lists

section Nodes

variable {setting : Setting} {environment : Environment} {host : Nat}
  {evaluator : Evaluator} {data : Content} {context counterpart : Context}

theorem faithful_below (interprets : Interprets setting environment host evaluator)
    (abreast : Abreast setting environment host data context counterpart) (depth : Value)
    {formula : Option Formula} (plain : PlainOperand formula) :
    Faithful setting host Value.content? (Meaning.operand (meaning setting data) formula)
      (evaluateBelow evaluator context depth formula)
      (evaluateBelow evaluator counterpart depth formula) := by
  apply faithful_of_except_bind
  intro below _
  cases formula with
  | none => exact faithful_pure Value.content_of_null Value.content_of_null
  | some formula =>
      exact interprets data context counterpart abreast formula (plain formula rfl) below

theorem faithful_argument (interprets : Interprets setting environment host evaluator)
    (abreast : Abreast setting environment host data context counterpart)
    (depth : Value) {argument : Argument}
    (slot : argument.IsPlain) (plain : PlainOperand argument.formula) :
    Faithful setting host Value.content? (Meaning.operand (meaning setting data) argument.formula)
      (evaluateArgument evaluator context depth argument)
      (evaluateArgument evaluator counterpart depth argument) := by
  have valued : ¬argument.isFunction = true := by
    rw [slot.valued]
    decide
  have below : ∀ place : Context, evaluateArgument evaluator place depth argument =
      evaluateBelow evaluator place depth argument.formula := fun _ => if_neg valued
  rw [below, below]
  exact faithful_below interprets abreast depth plain

theorem faithful_named_arguments (interprets : Interprets setting environment host evaluator)
    (abreast : Abreast setting environment host data context counterpart) (depth : Value)
    {arguments : List Argument} (slots : ∀ argument ∈ arguments, argument.IsPlain)
    (plain : ∀ argument ∈ arguments, PlainOperand argument.formula) :
    Faithful setting host tableOf
      (Meaning.named
        (fun argument => Meaning.operand (meaning setting data) argument.formula) arguments [])
      (namedArguments evaluator context depth arguments)
        (namedArguments evaluator counterpart depth arguments) := by
  apply faithful_collect_named slots
  · intro argument member
    exact faithful_argument interprets abreast depth (slots argument member) (plain argument member)
  · exact table_of_nil
  · exact table_of_nil

theorem faithful_guarded (interprets : Interprets setting environment host evaluator)
    (abreast : Abreast setting environment host data context counterpart)
    (depth : Value) (key : String)
    (fingerprint : Option String) {body : Option Formula} (plain : PlainOperand body) :
    Faithful setting host Value.content? (Meaning.operand (meaning setting data) body)
      (evaluateGuarded evaluator context depth key fingerprint body)
      (evaluateGuarded evaluator counterpart depth key fingerprint body) := by
  have inner := faithful_below interprets abreast depth plain
  unfold evaluateGuarded
  rw [abreast.same.trail, abreast.same.stack]
  apply faithful_on_trail
  cases fingerprint with
  | none => exact inner
  | some content => exact faithful_under_key _ _ inner

theorem run_routine_of_replies (setting : Setting) (host : Nat)
    (evaluator : Evaluator) (context : Context)
    {routine : Routine} {expected : Option Content} (replies : routine.Replies expected)
    (quiet : setting.IsQuiet → routine.IsQuiet) (machine : Machine) :
    (∃ value after, runRoutine evaluator context routine machine = .done value after ∧
        (∃ content, value.content? = some content ∧ expected = some content) ∧
        Onward setting host machine after ∧ after.faults host = machine.faults host) ∨
      ∃ failure after, runRoutine evaluator context routine machine =
        .raised failure after ∧ expected = none ∧
        Onward setting host machine after := by
  induction routine generalizing machine with
  | answer value => exact .inl ⟨value, machine, rfl, replies, .refl machine, rfl⟩
  | fail failure => exact .inr ⟨failure, machine, rfl, replies, .refl machine⟩
  | record entry next ih =>
      have noted : Onward setting host machine (machine.modifyJournal (Journal.record entry)) := by
        refine onward_modify_journal ?_ ?_ (fun silent => (quiet silent).elim) machine
        · exact fun _ => rfl
        · exact fun _ => rfl
      rcases ih replies (fun silent => (quiet silent).elim)
        (machine.modifyJournal (Journal.record entry)) with
        ⟨value, after, ended, answered, onward, clean⟩ | ⟨failure, after, ended, missing, onward⟩
      · exact .inl ⟨value, after, ended, answered, noted.trans onward, clean⟩
      · exact .inr ⟨failure, after, ended, missing, noted.trans onward⟩
  | occurrence next ih =>
      have counted : Onward setting host machine (machine.modifyJournal fun journal =>
          { journal with nextOccurrence := journal.nextOccurrence + 1 }) := by
        refine onward_modify_journal ?_ ?_ ?_ machine
        · exact fun _ => rfl
        · exact fun _ => rfl
        · exact fun _ _ => rfl
      rcases ih machine.journal.nextOccurrence (replies _) (fun silent => quiet silent _)
          (machine.modifyJournal fun journal =>
            { journal with nextOccurrence := journal.nextOccurrence + 1 }) with
        ⟨value, after, ended, answered, onward, clean⟩ | ⟨failure, after, ended, missing, onward⟩
      · exact .inl ⟨value, after, ended, answered, counted.trans onward, clean⟩
      · exact .inr ⟨failure, after, ended, missing, counted.trans onward⟩
  | invoke handle arguments next => cases replies
  | evaluate source depth next => cases replies
  | limits next => cases replies
  | advance seconds next => cases replies

theorem faithful_call_handler {handler : FormulaHandler} (pure : IsPure handler)
    (quiet : setting.IsQuiet → ∀ arguments view, (handler arguments view).IsQuiet)
    {arguments others : Arguments}
    {content : Content} (known : arguments.content? = some content)
    (otherKnown : others.content? = some content) :
    Faithful setting host Value.content? (answerTo handler content)
      (callHandler environment evaluator context handler arguments)
      (callHandler environment evaluator counterpart handler others) := by
  constructor
  · intro machine _
    unfold callHandler
    have replies := replies_answer pure known (viewOf environment context machine)
    rcases run_routine_of_replies setting host evaluator context replies
      (fun silent => quiet silent _ _) machine with
      ⟨value, after, ended, ⟨answer, valued, expected⟩, onward, _⟩ |
        ⟨failure, after, ended, _, onward⟩
    · rw [ended]
      exact ⟨onward, answer, valued, fun _ => expected⟩
    · rw [ended]
      exact onward
  · intro machine beside together value after ended clean
    have replies := replies_answer pure known (viewOf environment context machine)
    have otherReplies := replies_answer pure otherKnown (viewOf environment counterpart beside)
    have first : callHandler environment evaluator context handler arguments machine =
        runRoutine evaluator context
          (handler arguments (viewOf environment context machine)) machine := rfl
    rw [first] at ended
    rcases run_routine_of_replies setting host evaluator context replies
      (fun silent => quiet silent _ _) machine with
      ⟨found, reached, finished, ⟨content, valued, expected⟩, onward, _⟩ |
        ⟨failure, reached, finished, _, _⟩
    · rw [finished] at ended
      cases ended
      rcases run_routine_of_replies setting host evaluator counterpart otherReplies
          (fun silent => quiet silent _ _) beside with
        ⟨answer, later, replied, ⟨outcome, answered, same⟩, further, otherClean⟩ |
          ⟨_, _, _, missing, _⟩
      · rw [expected] at same
        cases same
        exact ⟨answer, later, replied, together.onward onward further clean otherClean,
          answered.trans valued.symm⟩
      · rw [expected] at missing
        cases missing
    · rw [finished] at ended
      cases ended

theorem faithful_function (lawful : setting.IsPlain)
    (interprets : Interprets setting environment host evaluator)
    (abreast : Abreast setting environment host data context counterpart)
    (depth : Value) (name : String)
    {arguments : List Argument} (declared : Value)
    (slots : ∀ argument ∈ arguments, argument.IsPlain)
    (plain : ∀ argument ∈ arguments, PlainOperand argument.formula) :
    Faithful setting host Value.content?
      (Meaning.call setting
        (fun argument => Meaning.operand (meaning setting data) argument.formula) name arguments
        declared)
      (evaluateFunction environment evaluator context depth name arguments declared)
      (evaluateFunction environment evaluator counterpart depth name arguments declared) := by
  have argued : ∀ argument ∈ arguments, Faithful setting host Value.content?
      (Meaning.operand (meaning setting data) argument.formula)
      (evaluateArgument evaluator context depth argument)
      (evaluateArgument evaluator counterpart depth argument) :=
    fun argument member => faithful_argument interprets abreast depth
      (slots argument member) (plain argument member)
  unfold evaluateFunction callFound lookUp
  simp only [abreast.within.formulas, abreast.otherWithin.formulas, abreast.within.package,
    abreast.otherWithin.package]
  apply faithful_of_except_bind
  intro outcome resolved
  unfold Meaning.call
  rw [resolved]
  cases outcome with
  | none =>
      apply faithful_of_except_bind
      intro _ _
      exact faithful_not_found abreast.home _ _ _ _ _
  | some resolution =>
      rcases Catalog.resolve_cases resolved with ⟨entry, holder, rfl, holds⟩ |
        ⟨key, handler, rfl, member⟩
      · obtain ⟨handler, rfl, pure⟩ := lawful.handlers entry holds
        apply faithful_bind (faithful_named_arguments interprets abreast depth slots plain)
        intro entries others fields found otherFound
        exact faithful_call_handler pure (fun quiet => quiet.handlers handler holds)
          (content_of_table found) (content_of_table otherFound)
      · apply faithful_bind (faithful_collect argued)
        intro items others contents found otherFound
        apply faithful_call_handler (lawful.fallbacks (key, handler) member)
          fun quiet => quiet.fallbacks (key, handler) member
        · simp [Arguments.content?, Value.content?, found]
        · simp [Arguments.content?, Value.content?, otherFound]

end Nodes

end Evaluate
end Interplay
