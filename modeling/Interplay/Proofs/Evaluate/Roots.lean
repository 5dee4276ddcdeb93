import Interplay.Proofs.Evaluate.Recall
import Interplay.Proofs.Value.Likeness

/-!
Meanings over data roots that differ.

A result that does not depend on some slots of the data root is backed over one root as well as over
another one that differs in these slots only.  And where no literal, no datum and no answer of a
handler holds a not-a-number, no result does.
-/

namespace Interplay

namespace Content

def AgreeBeyond (slots : List String) (data other : Content) : Prop :=
  ∃ fields others, data = .mapping fields ∧ other = .mapping others ∧
    ∀ key, key ∉ slots → Keyed.find? key fields = Keyed.find? key others

theorem AgreeBeyond.symm {slots : List String} {data other : Content}
    (agree : data.AgreeBeyond slots other) :
    other.AgreeBeyond slots data := by
  obtain ⟨fields, others, rfl, rfl, same⟩ := agree
  exact ⟨others, fields, rfl, rfl, fun key outside => (same key outside).symm⟩

theorem AgreeBeyond.trans {slots : List String} {first second third : Content}
    (agree : first.AgreeBeyond slots second) (further : second.AgreeBeyond slots third) :
    first.AgreeBeyond slots third := by
  obtain ⟨fields, others, rfl, rfl, same⟩ := agree
  obtain ⟨_, last, made, rfl, next⟩ := further
  cases made
  exact ⟨fields, last, rfl, rfl, fun key outside => (same key outside).trans (next key outside)⟩

theorem AgreeBeyond.with_arguments {slots : List String} {data other inner : Content}
    (proper : data.IsProper)
    (otherProper : other.IsProper) (agree : data.AgreeBeyond ("Args" :: slots) other)
    {arguments : Table Content} (made : data.withArguments arguments = some inner) :
    ∃ reached, other.withArguments arguments = some reached ∧ inner.AgreeBeyond slots reached := by
  obtain ⟨fields, others, rfl, rfl, same⟩ := agree
  cases made
  refine ⟨_, rfl, _, _, rfl, rfl, fun key outside => ?_⟩
  rw [find?_arrange (Keyed.nodup_insert _ _ proper),
    find?_arrange (Keyed.nodup_insert _ _ otherProper)]
  by_cases slot : key = "Args"
  · rw [slot, Keyed.find?_insert_self, Keyed.find?_insert_self]
  · rw [Keyed.find?_insert_of_ne _ _ slot, Keyed.find?_insert_of_ne _ _ slot]
    exact same key (by simp [slot, outside])

theorem AgreeBeyond.without_arguments {slots : List String} {data other : Content}
    (proper : data.IsProper) (otherProper : other.IsProper) (agree : data.AgreeBeyond slots other) :
    data.withoutArguments.AgreeBeyond ("Args" :: slots) other.withoutArguments := by
  obtain ⟨fields, others, rfl, rfl, same⟩ := agree
  refine ⟨_, _, rfl, rfl, fun key outside => ?_⟩
  rw [List.mem_cons, not_or] at outside
  rw [find?_arrange (Keyed.nodup_erase _ proper), find?_arrange (Keyed.nodup_erase _ otherProper),
    Keyed.find?_erase_of_ne outside.1, Keyed.find?_erase_of_ne outside.1]
  exact same key outside.2

theorem proper_without_arguments {data : Content} (proper : data.IsProper) :
    data.withoutArguments.IsProper := by
  cases data with
  | mapping fields => exact nodup_arrange (Keyed.nodup_erase _ proper)
  | atom content => trivial
  | text content => trivial
  | list items => trivial

theorem proper_with_arguments {data inner : Content} (proper : data.IsProper)
    {arguments : Table Content}
    (made : data.withArguments arguments = some inner) : inner.IsProper := by
  cases data with
  | mapping fields =>
      cases made
      exact nodup_arrange (Keyed.nodup_insert _ _ proper)
  | atom content => cases made
  | text content => cases made
  | list items => cases made

end Content

namespace Evaluate

theorem means_of_root {setting : Setting} (root : Content)
    {data outcome : Content} {formula : Formula}
    (means : Means setting data formula outcome) : Means
    { setting with root := root } data formula outcome := by
  induction means with
  | node _ known ih => exact .node ih known

theorem meaning_of_root (setting : Setting) (root : Content) :
    meaning { setting with root := root } = meaning setting := by
  funext data formula
  apply Option.ext
  intro outcome
  rw [meaning_eq_some, meaning_eq_some]
  constructor
  · intro means
    have back := means_of_root setting.root means
    exact back
  · exact means_of_root root

/-- Memoized formulas do not depend on some slots of the data root. -/
def Setting.Disregards (slots : List String) (setting : Setting) : Prop :=
  ∀ name definition, Meaning.definition? setting name = some definition →
    definition.memoize = true →
    ∀ data other, data.IsProper → other.IsProper → Content.AgreeBeyond slots data other →
      Meaning.operand (meaning setting data) definition.formula =
        Meaning.operand (meaning setting other) definition.formula

/-- What is backed over one root is backed over every root that differs in disregarded slots
only. -/
theorem backs_of_agreeing {setting : Setting} {slots : List String}
    (disregards : setting.Disregards slots)
    {root : Content} (proper : setting.root.IsProper) (otherProper : root.IsProper)
    (agree : setting.root.AgreeBeyond ("Args" :: slots) root) {memo : Memo String String}
    (backs : Backs setting memo) : Backs { setting with root := root } memo := by
  intro name fingerprint value found
  obtain ⟨definition, arguments, inner, content, known, memoized, printed, made, valued, meant⟩ :=
    backs name fingerprint value found
  obtain ⟨reached, otherMade, agreeing⟩ := agree.with_arguments proper otherProper made
  have inside := Content.proper_with_arguments proper made
  have otherInside := Content.proper_with_arguments otherProper otherMade
  refine ⟨definition, arguments, reached, content, known, memoized, printed, otherMade, valued, ?_⟩
  rw [meaning_of_root, ← disregards name definition known memoized inner reached
    inside otherInside agreeing]
  exact meant

end Evaluate

namespace Formula

/-- A formula of which no path leads into the given slots, nor ends at the data root itself. -/
inductive Avoids (slots : List String) : Formula → Prop
  | intro {formula : Formula}
    (reads : ∀ segments, formula = .path segments →
      ∃ first rest, segments = first :: rest ∧ first ∉ slots)
    (inside : ∀ part ∈ formula.parts, part.Avoids slots) : formula.Avoids slots

end Formula

namespace Evaluate

theorem walk_of_agreeing {slots : List String} {data other : Content}
    (agree : data.AgreeBeyond slots other)
    {first : String} (outside : first ∉ slots) (rest : List String) :
    data.walk (first :: rest) = other.walk (first :: rest) := by
  obtain ⟨fields, others, rfl, rfl, same⟩ := agree
  simp only [Content.walk, Content.step, same first outside]

/-- A formula means the same over data that differ in slots that it avoids, as do the formulas that
it applies. -/
theorem means_of_agreeing {setting : Setting} {slots : List String}
    (avoided : ∀ name definition, Meaning.definition? setting name = some definition →
      ∀ formula, definition.formula = some formula → formula.Avoids slots)
    {data other outcome : Content} {formula : Formula} (means : Means setting data formula outcome)
    (avoids : formula.Avoids slots) (proper : data.IsProper) (otherProper : other.IsProper)
    (agree : data.AgreeBeyond slots other) : Means setting other formula outcome := by
  induction means generalizing other with
  | @node smaller data outcome formula _ known ih =>
      obtain ⟨reads, inside⟩ := avoids
      have operands : ∀ {inner reached : Content}, inner.IsProper → reached.IsProper →
          inner.AgreeBeyond slots reached → ∀ operand : Option Formula,
          (∀ present, operand = some present → present.Avoids slots) → ∀ content,
          Meaning.operand (smaller inner) operand = some content →
            Meaning.operand (meaning setting reached) operand = some content := by
        intro inner reached proper otherProper agree operand parts content present
        cases operand with
        | none => exact present
        | some part =>
            exact meaning_eq_some.mpr
              (ih inner part content present (parts part rfl) proper otherProper agree)
      have here := fun operand parts => operands proper otherProper agree operand parts
      refine .node (fun _ _ _ => meaning_eq_some.mp)
        (Meaning.node_extends_to setting ?_ ?_ ?_ ?_ known)
      · intro segments path outcome walked
        obtain ⟨first, rest, rfl, outside⟩ := reads segments path
        rw [← walk_of_agreeing agree outside]
        exact walked
      · exact fun argument member => here argument.formula fun part present =>
          inside part (Formula.part_of_argument member present)
      · rintro cases fallback rfl
        refine ⟨fun branch member => ?_, fun branch member => ?_, ?_⟩
        · exact here branch.condition fun part present =>
            inside part (Formula.parts_of_switch (.inl ⟨branch, member, .inl present⟩))
        · exact here branch.result fun part present =>
            inside part (Formula.parts_of_switch (.inl ⟨branch, member, .inr present⟩))
        · exact here fallback fun part present => inside part
            (Formula.parts_of_switch (.inr present))
      · intro name definition found fields inner made
        have wider : data.AgreeBeyond ("Args" :: slots) other := by
          obtain ⟨fields, others, one, two, same⟩ := agree
          exact ⟨fields, others, one, two, fun key outside => same key fun member =>
            outside (List.mem_cons_of_mem _ member)⟩
        obtain ⟨reached, otherMade, agreeing⟩ := wider.with_arguments proper otherProper made
        exact ⟨reached, otherMade, operands (Content.proper_with_arguments proper made)
          (Content.proper_with_arguments otherProper otherMade) agreeing definition.formula
          (avoided name definition found)⟩

/-- Formulas that read none of some slots do not depend on them. -/
theorem disregards_of_avoiding {setting : Setting} {slots : List String}
    (avoided : ∀ name definition, Meaning.definition? setting name = some definition →
      ∀ formula, definition.formula = some formula → formula.Avoids slots) : setting.Disregards
        slots := by
  intro name definition found _ data other proper otherProper agree
  cases body : definition.formula with
  | none => rfl
  | some formula =>
      have avoids := avoided name definition found formula body
      apply Option.ext
      intro outcome
      change meaning setting data formula = some outcome ↔
        meaning setting other formula = some outcome
      rw [meaning_eq_some, meaning_eq_some]
      exact ⟨fun means => means_of_agreeing avoided means avoids proper otherProper agree,
        fun means => means_of_agreeing avoided means avoids otherProper proper agree.symm⟩

theorem definite_null : Content.null.IsDefinite :=
  .atom nofun

theorem definite_flag (flag : Bool) : (Content.atom (.bool flag)).IsDefinite :=
  .atom nofun

theorem definite_find {fields : Table Content} (definite : ∀ field ∈ fields, field.2.IsDefinite)
    (key : String) :
    ((Keyed.find? key fields).getD Content.null).IsDefinite := by
  cases found : Keyed.find? key fields with
  | none => exact definite_null
  | some content =>
      obtain ⟨spelled, member⟩ := Keyed.mem_of_find? found
      exact definite _ member

theorem definite_step {segment : String} {data outcome : Content} (definite : data.IsDefinite)
    (stepped : data.step segment = some outcome) : outcome.IsDefinite := by
  unfold Content.step at stepped
  split at stepped
  · cases stepped
    exact definite_null
  · cases definite with
    | atom number =>
        cases stepped
        exact definite_null
    | text content =>
        cases stepped
        exact definite_null
    | mapping inside =>
        cases stepped
        exact definite_find inside segment
    | @list items inside =>
        change Content.item segment items = some outcome at stepped
        unfold Content.item at stepped
        split at stepped
        · cases stepped
          exact definite_null
        · rename_i index _
          split at stepped
          · cases stepped
          · cases stepped
            cases found : items[index]? with
            | none => exact definite_null
            | some item => exact inside item (List.mem_of_getElem? found)

theorem definite_walk {segments : List String} {data outcome : Content} (definite : data.IsDefinite)
    (walked : data.walk segments = some outcome) : outcome.IsDefinite := by
  induction segments generalizing data with
  | nil =>
      cases walked
      exact definite
  | cons segment rest ih =>
      obtain ⟨next, stepped, walked⟩ := Option.bind_eq_some_iff.mp walked
      exact ih (definite_step definite stepped) walked

theorem definite_insert {fields : Table Content} {content : Content}
    (definite : ∀ field ∈ fields, field.2.IsDefinite)
    (key : String) (inserted : content.IsDefinite) :
    ∀ field ∈ Keyed.insert key content fields, field.2.IsDefinite := by
  induction fields with
  | nil =>
      intro field member
      obtain rfl := List.mem_singleton.mp member
      exact inserted
  | cons entry rest ih =>
      obtain ⟨found, old⟩ := entry
      rw [List.forall_mem_cons] at definite
      unfold Keyed.insert
      split
      · exact List.forall_mem_cons.mpr ⟨inserted, definite.2⟩
      · exact List.forall_mem_cons.mpr ⟨definite.1, ih definite.2⟩

theorem definite_arrange {fields : Table Content}
    (definite : ∀ field ∈ fields, field.2.IsDefinite) :
    (Content.mapping (Content.arrange fields)).IsDefinite :=
  .mapping fun field member => definite field ((Content.arrange_perm fields).mem_iff.mp member)

theorem definite_with_arguments {data inner : Content} {arguments : Table Content}
    (definite : data.IsDefinite)
    (given : ∀ field ∈ arguments, field.2.IsDefinite)
    (made : data.withArguments arguments = some inner) :
    inner.IsDefinite := by
  cases definite with
  | atom number => cases made
  | text content => cases made
  | list inside => cases made
  | mapping inside =>
      cases made
      exact definite_arrange (definite_insert inside "Args" (definite_arrange given))

end Evaluate

/-- A formula without not-a-numbers among its literals. -/
inductive Formula.IsDefinite : Formula → Prop
  | intro {formula : Formula}
    (literal : ∀ content, formula = .value content → content.Alike content)
    (inside : ∀ part ∈ formula.parts, part.IsDefinite) : formula.IsDefinite

namespace Evaluate

/-- A setting without not-a-numbers: no literal is one, and no handler answers with one unless it is
given one. -/
structure Setting.IsDefinite (setting : Setting) : Prop where
  handlers : ∀ handler, setting.formulas.Holds (.handler handler) →
    ∀ given outcome, given.IsDefinite →
    answerTo handler given = some outcome → outcome.IsDefinite
  fallbacks : ∀ entry ∈ setting.formulas.legacy, ∀ given outcome, given.IsDefinite →
    answerTo entry.2 given = some outcome → outcome.IsDefinite
  bodies : ∀ component, setting.component = some component → ∀ entry ∈ component.formulas,
    ∀ formula, entry.2.formula = some formula → formula.IsDefinite

section Definite

variable {step : Argument → Option Content} {arguments : List Argument}

theorem definite_collect
    (definite : ∀ argument ∈ arguments, ∀ content, step argument = some content →
      content.IsDefinite)
    {contents : List Content} (collected : Meaning.collect step arguments = some contents) :
    ∀ content ∈ contents, content.IsDefinite := by
  induction arguments generalizing contents with
  | nil =>
      cases collected
      exact nofun
  | cons argument rest ih =>
      rw [List.forall_mem_cons] at definite
      obtain ⟨first, present, collected⟩ := Option.bind_eq_some_iff.mp collected
      obtain ⟨others, found, made⟩ := Option.bind_eq_some_iff.mp collected
      cases made
      exact List.forall_mem_cons.mpr ⟨definite.1 first present, ih definite.2 found⟩

theorem definite_named
    (definite : ∀ argument ∈ arguments, ∀ content, step argument = some content →
      content.IsDefinite)
    {fields outcome : Table Content} (before : ∀ field ∈ fields, field.2.IsDefinite)
    (collected : Meaning.named step arguments fields = some outcome) : ∀ field ∈ outcome,
      field.2.IsDefinite := by
  induction arguments generalizing fields with
  | nil =>
      cases collected
      exact before
  | cons argument rest ih =>
      rw [List.forall_mem_cons] at definite
      unfold Meaning.named at collected
      split at collected
      · obtain ⟨content, present, collected⟩ := Option.bind_eq_some_iff.mp collected
        obtain ⟨key, _, collected⟩ := Option.bind_eq_some_iff.mp collected
        exact ih definite.2 (definite_insert before key (definite.1 content present)) collected
      · exact ih definite.2 before collected

theorem definite_first_case {condition result : FormulaCase → Option Content}
    {fallback : Option Content} {cases : List FormulaCase}
    (definite : ∀ branch ∈ cases, ∀ content, result branch = some content → content.IsDefinite)
    (last : ∀ content, fallback = some content → content.IsDefinite) {outcome : Content}
    (chosen : Meaning.firstCase condition result fallback cases = some outcome) :
    outcome.IsDefinite := by
  induction cases with
  | nil => exact last outcome chosen
  | cons branch rest ih =>
      rw [List.forall_mem_cons] at definite
      obtain ⟨content, _, chosen⟩ := Option.bind_eq_some_iff.mp chosen
      split at chosen
      · exact definite.1 outcome chosen
      · exact ih definite.2 chosen

end Definite

theorem definite_of_means {setting : Setting} (definite : setting.IsDefinite)
    {data outcome : Content} {formula : Formula} (means : Means setting data formula outcome)
    (given : data.IsDefinite) (literal : formula.IsDefinite) : outcome.IsDefinite := by
  induction means with
  | @node smaller data outcome formula _ known ih =>
      obtain ⟨literals, inside⟩ := literal
      have operands : ∀ inner : Content, inner.IsDefinite → ∀ operand : Option Formula,
          (∀ present, operand = some present → present.IsDefinite) → ∀ content,
          Meaning.operand (smaller inner) operand = some content → content.IsDefinite := by
        intro inner within operand parts content present
        cases operand with
        | none =>
            cases present
            exact definite_null
        | some part => exact ih inner part content present within (parts part rfl)
      have slots : ∀ argument ∈ formula.arguments, ∀ content,
          Meaning.operand (smaller data) argument.formula = some content → content.IsDefinite :=
        fun argument member => operands data given argument.formula fun part present =>
          inside part (Formula.part_of_argument member present)
      cases formula with
      | value content =>
          obtain ⟨inner, valued, _, definite⟩ := literals content rfl
          rw [Meaning.node, valued] at known
          cases known
          exact definite
      | path segments => exact definite_walk given known
      | function name arguments declared =>
          change Meaning.call setting _ name arguments declared = some outcome at known
          unfold Meaning.call at known
          split at known
          · rename_i handler package resolved
            obtain ⟨items, collected, answered⟩ := Option.bind_eq_some_iff.mp known
            rcases Catalog.resolve_cases resolved with ⟨entry, holder, impossible, _⟩ |
              ⟨key, entry, same, member⟩
            · cases impossible
            · cases same
              have given := definite_collect slots collected
              exact definite.fallbacks (key, handler) member _ _ (.list given) answered
          · rename_i handler package resolved
            obtain ⟨fields, collected, answered⟩ := Option.bind_eq_some_iff.mp known
            rcases Catalog.resolve_cases resolved with ⟨entry, holder, same, holds⟩ |
              ⟨key, entry, impossible, _⟩
            · cases same
              exact definite.handlers handler holds _ _
                (definite_arrange (definite_named slots (List.forall_mem_nil _) collected)) answered
            · cases impossible
          · cases known
      | apply name arguments =>
          obtain ⟨definition, found, known⟩ := Option.bind_eq_some_iff.mp known
          obtain ⟨fields, collected, known⟩ := Option.bind_eq_some_iff.mp known
          obtain ⟨inner, made, known⟩ := Option.bind_eq_some_iff.mp known
          obtain ⟨component, owner, entry⟩ := Option.bind_eq_some_iff.mp found
          obtain ⟨spelled, member⟩ := Keyed.mem_of_find? entry
          have passed := definite_named slots (List.forall_mem_nil _) collected
          have within := definite_with_arguments given passed made
          exact operands inner within definition.formula
            (definite.bodies component owner _ member) outcome known
      | object arguments =>
          obtain ⟨fields, collected, made⟩ := Option.map_eq_some_iff.mp known
          cases made
          exact definite_arrange (definite_named slots (List.forall_mem_nil _) collected)
      | record arguments =>
          obtain ⟨fields, collected, made⟩ := Option.map_eq_some_iff.mp known
          cases made
          exact definite_arrange (definite_named slots (List.forall_mem_nil _) collected)
      | array arguments =>
          obtain ⟨items, collected, made⟩ := Option.map_eq_some_iff.mp known
          cases made
          exact .list (definite_collect slots collected)
      | or arguments =>
          obtain ⟨found, _, made⟩ := Option.map_eq_some_iff.mp known
          cases made
          exact definite_flag _
      | and arguments =>
          obtain ⟨found, _, made⟩ := Option.map_eq_some_iff.mp known
          cases made
          exact definite_flag _
      | switch cases fallback =>
          refine definite_first_case (fun branch member => ?_) ?_ known
          · exact operands data given branch.result fun part present =>
              inside part (Formula.parts_of_switch (.inl ⟨branch, member, .inr present⟩))
          · exact operands data given fallback fun part present =>
              inside part (Formula.parts_of_switch (.inr present))

end Evaluate
end Interplay
