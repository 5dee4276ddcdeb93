import Interplay.Proofs.Traversal.Document

/-!
What the readers of formulas and actions read.

A field is read from what the object holds under its key, where a missing field reads like null.
Each item of a list is read from one of the entries that are kept, in their order.
-/

namespace Interplay

/-- A reader of more than one thing reads the first, and then the others. -/
theorem ok_of_bind {α β : Type} {first : Except Failure α}
    {next : α → Except Failure β} {result : β}
    (read : first >>= next = .ok result) : ∃ found, first = .ok found ∧
    next found = .ok result := by
  cases first with
  | error failure => cases read
  | ok found => exact ⟨found, rfl, read⟩

theorem Value.display_of_written {value : Value} {name : String}
    (written : value.written = .ok name) :
    value.display = name := by
  unfold Value.written at written
  split at written
  · exact Except.ok.inj written
  · cases written

/-- Looking for a field entry by entry reads what the field holds. -/
theorem read_of_search {α : Type} {reader : Value → α} {search : Entries → α} {name : String}
    (missing : search [] = reader .null)
    (entry : ∀ key value rest,
      search ((key, value) :: rest) = if key.same (.text name) then reader value else search rest)
    (entries : Entries) : search entries = reader (Value.field name (.mapping entries)) := by
  induction entries with
  | nil => exact missing
  | cons first rest ih =>
      obtain ⟨key, value⟩ := first
      have step : Value.field name (.mapping ((key, value) :: rest)) =
          if key.same (.text name) then value else Value.field name (.mapping rest) := by
        change (if key.same (.text name) then some value else _).getD Value.null = _
        split <;> rfl
      rw [entry, step, ih]
      split <;> rfl

def Each {α : Type} (Item : Value → α → Prop) (entries : List Value) (items : List α) : Prop :=
  ∀ (position : Nat) item, items[position]? = some item →
    ∃ entry, entries[position]? = some entry ∧ Item entry item

theorem each_nil {α : Type} (Item : Value → α → Prop) (entries : List Value) :
    Each Item entries [] := by
  intro position item listed
  simp at listed

theorem each_cons {α : Type} {Item : Value → α → Prop} {entry : Value}
    {entries : List Value} {item : α}
    {items : List α} (first : Item entry item) (others : Each Item entries items) :
    Each Item (entry :: entries) (item :: items) := by
  intro position found listed
  cases position with
  | zero =>
      cases listed
      exact ⟨entry, rfl, first⟩
  | succ position => exact others position found listed

theorem Each.weaken {α : Type} {Item Other : Value → α → Prop}
    {entries : List Value} {items : List α}
    (each : Each Item entries items) (weaker : ∀ entry item, Item entry item → Other entry item) :
    Each Other entries items := by
  intro position item listed
  obtain ⟨entry, found, held⟩ := each position item listed
  exact ⟨entry, found, weaker entry item held⟩

/-- A reader that keeps some entries of a list reads one item from each of them. -/
theorem each_kept {α : Type} {reader : List Value → Except Failure (List α)} {keeps : Value → Bool}
    {Item : Value → α → Prop} (nothing : reader [] = .ok [])
    (skipped : ∀ entry rest items, keeps entry = false → reader (entry :: rest) = .ok items →
      reader rest = .ok items)
    (taken : ∀ entry rest items, keeps entry = true → reader (entry :: rest) = .ok items →
      ∃ item others, Item entry item ∧ reader rest = .ok others ∧ items = item :: others)
    {entries : List Value} {items : List α} (read : reader entries = .ok items) :
    Each Item (entries.filter keeps) items := by
  induction entries generalizing items with
  | nil =>
      rw [nothing] at read
      cases read
      exact each_nil _ _
  | cons entry rest ih =>
      cases keep : keeps entry with
      | false =>
          rw [List.filter_cons_of_neg (by simp [keep])]
          exact ih (skipped entry rest items keep read)
      | true =>
          rw [List.filter_cons_of_pos keep]
          obtain ⟨item, others, first, later, rfl⟩ := taken entry rest items keep read
          exact each_cons first (ih later)

theorem each_object {α : Type} {reader : List Value → Except Failure (List α)}
    {Item : Value → α → Prop} (nothing : reader [] = .ok [])
    (scalar : ∀ content rest, reader (.scalar content :: rest) = reader rest)
    (list : ∀ items rest, reader (.list items :: rest) = reader rest)
    (object : ∀ entries rest items, reader (.mapping entries :: rest) = .ok items →
      ∃ item others, Item (.mapping entries) item ∧
      reader rest = .ok others ∧ items = item :: others)
    {entries : List Value} {items : List α} (read : reader entries = .ok items) :
    Each Item (entries.filter Value.isObject) items := by
  apply each_kept nothing _ _ read
  · intro entry rest items skipped read
    cases entry with
    | scalar content => rwa [scalar] at read
    | list inner => rwa [list] at read
    | mapping => cases skipped
  · intro entry rest items kept read
    cases entry with
    | scalar | list => cases kept
    | mapping entries => exact object entries rest items read

namespace Value

def HoldsFormula (source : Value) (key : String) (formula : Option Formula) : Prop :=
  Formula.read (source.field key) = .ok formula

def HoldsActions (source : Value) (actions : List Action) : Prop :=
  Action.readList (source.field "actions") = .ok actions

theorem is_kept_of_object {label : String} (other : label ≠ "actions") :
    isKept label = isObject := by
  funext entry
  simp [isKept, other]

end Value

open Value (HoldsFormula HoldsActions)

namespace Formula

theorem read_of_no_object {source : Value} (other : source.isObject = false) :
    read source = .ok none := by
  cases source with
  | mapping => cases other
  | scalar | list =>
      rw [read]
      exact nofun

theorem read_null : read .null = .ok none :=
  read_of_no_object rfl

theorem items_of_null {α : Type} : noItems (α := α) .null = .ok [] :=
  rfl

theorem each_of_no_items {α : Type} {source : Value} {items : List α}
    (read : noItems source = .ok items)
    (Item : Value → α → Prop) (entries : List Value) : Each Item entries items := by
  unfold noItems at read
  split at read
  · cases read
  · cases read
    exact each_nil Item entries

theorem read_field_eq (name : String) (entries : Entries) :
    readField name entries = read (Value.field name (.mapping entries)) :=
  read_of_search (by rw [readField, read_null]) (fun _ _ _ => by rw [readField]) entries

theorem read_arguments_field_eq (entries : Entries) :
    readArgumentsField entries = readArguments (Value.field "arguments" (.mapping entries)) :=
  read_of_search (by rw [readArgumentsField, readArguments, items_of_null]; exact nofun)
    (fun _ _ _ => by rw [readArgumentsField]) entries

theorem read_cases_field_eq (entries : Entries) :
    readCasesField entries = readCases (Value.field "cases" (.mapping entries)) :=
  read_of_search (by rw [readCasesField, readCases, items_of_null]; exact nofun)
    (fun _ _ _ => by rw [readCasesField]) entries

/-- A field that should be a list of objects has an item for each of them, and none if it is no
list. -/
theorem each_listed {α : Type} {label : String} (other : label ≠ "actions")
    {reader : Value → Except Failure (List α)} {listReader : List Value → Except Failure (List α)}
    {Item : Value → α → Prop} (list : ∀ entries, reader (.list entries) = listReader entries)
    (scalar : ∀ content, reader (.scalar content) = noItems (.scalar content))
    (mapping : ∀ entries, reader (.mapping entries) = noItems (.mapping entries))
    (each : ∀ entries items, listReader entries = .ok items →
      Each Item (entries.filter Value.isObject) items)
    {source : Value} {items : List α} (read : reader source = .ok items) : Each Item
      (source.kept label) items := by
  cases source with
  | scalar content =>
      rw [scalar] at read
      exact each_of_no_items read _ _
  | mapping entries =>
      rw [mapping] at read
      exact each_of_no_items read _ _
  | list entries =>
      rw [list] at read
      rw [Value.kept, Value.is_kept_of_object other]
      exact each entries items read

theorem each_argument_item (entries : List Value) (items : List Argument)
    (read : readArgumentItems entries = .ok items) :
    Each (fun entry item => entry.HoldsFormula "formula" item.formula ∧
      item.name = (entry.field "name").filled) (entries.filter Value.isObject) items := by
  apply each_object _ _ _ _ read
  · rw [readArgumentItems]
  · intro content rest
    rw [readArgumentItems]
    exact nofun
  · intro inner rest
    rw [readArgumentItems]
    exact nofun
  · intro fields rest items read
    rw [readArgumentItems, read_field_eq] at read
    obtain ⟨formula, formulaRead, read⟩ := ok_of_bind read
    obtain ⟨others, othersRead, made⟩ := ok_of_bind read
    cases made
    exact ⟨.mk formula _ _, others, ⟨formulaRead, rfl⟩, othersRead, rfl⟩

theorem each_argument {source : Value} {items : List Argument}
    (read : readArguments source = .ok items) :
    Each (fun entry item => entry.HoldsFormula "formula" item.formula ∧
      item.name = (entry.field "name").filled) (source.kept "arguments") items := by
  apply each_listed (by decide) _ _ _ each_argument_item read
  · intro entries
    rw [readArguments]
  · intro content
    rw [readArguments]
    exact nofun
  · intro entries
    rw [readArguments]
    exact nofun

theorem each_case_item (entries : List Value) (items : List FormulaCase)
    (read : readCaseItems entries = .ok items) :
    Each (fun entry branch => entry.HoldsFormula "condition" branch.condition ∧
      entry.HoldsFormula "formula" branch.result) (entries.filter Value.isObject) items := by
  apply each_object _ _ _ _ read
  · rw [readCaseItems]
  · intro content rest
    rw [readCaseItems]
    exact nofun
  · intro inner rest
    rw [readCaseItems]
    exact nofun
  · intro fields rest items read
    rw [readCaseItems, read_field_eq, read_field_eq] at read
    obtain ⟨condition, conditionRead, read⟩ := ok_of_bind read
    obtain ⟨result, resultRead, read⟩ := ok_of_bind read
    obtain ⟨others, othersRead, made⟩ := ok_of_bind read
    cases made
    exact ⟨.mk condition result, others, ⟨conditionRead, resultRead⟩, othersRead, rfl⟩

theorem each_case {source : Value} {items : List FormulaCase}
    (read : readCases source = .ok items) :
    Each (fun entry branch => entry.HoldsFormula "condition" branch.condition ∧
      entry.HoldsFormula "formula" branch.result) (source.kept "cases") items := by
  apply each_listed (by decide) _ _ _ each_case_item read
  · intro entries
    rw [readCases]
  · intro content
    rw [readCases]
    exact nofun
  · intro entries
    rw [readCases]
    exact nofun

def PartsRead (source : Value) : Formula → Prop
  | value _ => True
  | path _ => True
  | switch cases fallback =>
    readCases (source.field "cases") = .ok cases ∧ source.HoldsFormula "default" fallback
  | other => readArguments (source.field "arguments") = .ok other.arguments

theorem parts_of_read {source : Value} {formula : Formula}
    (done : read source = .ok (some formula)) :
    formula.PartsRead source := by
  cases source with
  | scalar | list =>
      rw [read_of_no_object rfl] at done
      cases done
  | mapping entries =>
      rw [read] at done
      simp only [read_arguments_field_eq, read_cases_field_eq, read_field_eq] at done
      -- values, paths, calls with a name, collections of arguments and switches, in the order of
      -- the reader
      split at done
      case h_1 =>
        cases done
        trivial
      case h_2 =>
        obtain ⟨segments, _, made⟩ := ok_of_bind done
        cases made
        trivial
      case h_3 | h_4 =>
        obtain ⟨name, _, rest⟩ := ok_of_bind done
        obtain ⟨items, itemsRead, made⟩ := ok_of_bind rest
        cases made
        exact itemsRead
      case h_5 | h_6 | h_7 | h_8 | h_9 =>
        obtain ⟨items, itemsRead, made⟩ := ok_of_bind done
        cases made
        exact itemsRead
      case h_10 =>
        obtain ⟨cases, casesRead, rest⟩ := ok_of_bind done
        obtain ⟨fallback, fallbackRead, made⟩ := ok_of_bind rest
        cases made
        exact ⟨casesRead, fallbackRead⟩
      case h_11 => cases done

end Formula

namespace NamedFormula

theorem each_entry {entries : Entries} {items : List NamedFormula}
    (read : readEntries entries = .ok items) :
    Each (fun entry item => entry.HoldsFormula "formula" item.formula)
      (entries.map Prod.snd) items := by
  induction entries generalizing items with
  | nil =>
      cases read
      exact each_nil _ _
  | cons entry rest ih =>
      obtain ⟨key, value⟩ := entry
      unfold readEntries at read
      obtain ⟨name, _, read⟩ := ok_of_bind read
      cases value with
      | scalar | list =>
          obtain ⟨formula, absent, read⟩ := ok_of_bind read
          obtain ⟨others, othersRead, made⟩ := ok_of_bind read
          cases absent
          cases made
          exact each_cons Formula.read_null (ih othersRead)
      | mapping inner =>
          dsimp only at read
          rw [Formula.read_field_eq] at read
          obtain ⟨formula, formulaRead, read⟩ := ok_of_bind read
          obtain ⟨others, othersRead, made⟩ := ok_of_bind read
          cases made
          exact each_cons formulaRead (ih othersRead)

/-- Named formulas are read from the objects of a list, or from all values of an object. -/
theorem each_named {label : String} (other : label ≠ "actions") {source : Value}
    {items : List NamedFormula} (read : readAll source = .ok items) :
    Each (fun entry item => entry.HoldsFormula "formula" item.formula)
      (source.kept label) items := by
  cases source with
  | scalar => exact Formula.each_of_no_items read _ _
  | mapping entries => exact each_entry read
  | list entries =>
      rw [Value.kept, Value.is_kept_of_object other]
      apply each_object _ _ _ _ read
      · rfl
      · exact fun _ _ => rfl
      · exact fun _ _ => rfl
      · intro fields rest items read
        unfold readItems at read
        rw [Formula.read_field_eq] at read
        obtain ⟨name, _, read⟩ := ok_of_bind read
        obtain ⟨formula, formulaRead, read⟩ := ok_of_bind read
        obtain ⟨others, othersRead, made⟩ := ok_of_bind read
        cases made
        exact ⟨⟨name, formula⟩, others, formulaRead, othersRead, rfl⟩

end NamedFormula

namespace Action

theorem list_of_null : readList .null = .ok [] := by
  rw [readList, Formula.items_of_null]
  exact nofun

theorem read_actions_field_eq (entries : Entries) :
    readActionsField entries = readList (Value.field "actions" (.mapping entries)) :=
  read_of_search (by rw [readActionsField, list_of_null])
    (fun _ _ _ => by rw [readActionsField]) entries

theorem read_body_eq (source : Value) : readBody source = readList (source.field "actions") := by
  cases source with
  | scalar | list =>
      rw [readBody]
      · exact list_of_null.symm
      · exact nofun
  | mapping entries => rw [readBody, read_actions_field_eq]

theorem read_body_field_eq (name : String) (entries : Entries) :
    readBodyField name entries = readList
      ((Value.field name (.mapping entries)).field "actions") := by
  rw [← read_body_eq]
  exact read_of_search (by rw [readBodyField, read_body_eq]; exact list_of_null.symm)
    (fun _ _ _ => by rw [readBodyField]) entries

theorem read_bodies_field_eq (name : String) (entries : Entries) :
    readBodiesField name entries = readBodyMap (Value.field name (.mapping entries)) :=
  read_of_search (by rw [readBodiesField, readBodyMap]; exact nofun)
    (fun _ _ _ => by rw [readBodiesField]) entries

theorem read_fallback_field_eq (entries : Entries) :
    readFallbackField entries = readFallback (Value.field "default" (.mapping entries)) :=
  read_of_search (by rw [readFallbackField, readFallback]; exact nofun)
    (fun _ _ _ => by rw [readFallbackField]) entries

theorem read_cases_field_eq (entries : Entries) :
    readCasesField entries = readCases (Value.field "cases" (.mapping entries)) :=
  read_of_search (by rw [readCasesField, readCases, Formula.items_of_null]; exact nofun)
    (fun _ _ _ => by rw [readCasesField]) entries

theorem actions_of_fallback {source : Value} {items : List Action}
    (read : readFallback source = .ok (some items)) :
    source.HoldsActions items := by
  cases source with
  | scalar | list =>
      rw [readFallback] at read
      · cases read
      · exact nofun
  | mapping entries =>
      rw [readFallback, read_actions_field_eq] at read
      obtain ⟨found, foundRead, made⟩ := ok_of_bind read
      cases made
      exact foundRead

theorem each_action {source : Value} {items : List Action} (read : readList source = .ok items) :
    Each (fun entry item => Action.read entry = .ok (some item)) (source.kept "actions") items := by
  cases source with
  | scalar | mapping =>
      rw [readList] at read
      · exact Formula.each_of_no_items read _ _
      · exact nofun
  | list entries =>
      rw [readList] at read
      apply each_kept _ _ _ read
      · rw [readItems]
      · intro entry rest items skipped read
        rw [readItems] at read
        obtain ⟨first, firstRead, read⟩ := ok_of_bind read
        obtain ⟨others, othersRead, made⟩ := ok_of_bind read
        cases first with
        | none =>
            cases made
            exact othersRead
        | some item => simp [Value.isKept, firstRead] at skipped
      · intro entry rest items kept read
        rw [readItems] at read
        obtain ⟨first, firstRead, read⟩ := ok_of_bind read
        obtain ⟨others, othersRead, made⟩ := ok_of_bind read
        cases first with
        | none => simp [Value.isKept, firstRead] at kept
        | some item =>
            cases made
            exact ⟨item, others, firstRead, othersRead, rfl⟩

theorem each_case_item (entries : List Value) (items : List ActionCase)
    (read : readCaseItems entries = .ok items) :
    Each (fun entry branch => entry.HoldsFormula "condition" branch.condition ∧
      entry.HoldsActions branch.actions) (entries.filter Value.isObject) items := by
  apply each_object _ _ _ _ read
  · rw [readCaseItems]
  · intro content rest
    rw [readCaseItems]
    exact nofun
  · intro inner rest
    rw [readCaseItems]
    exact nofun
  · intro fields rest items read
    rw [readCaseItems, Formula.read_field_eq, read_actions_field_eq] at read
    obtain ⟨condition, conditionRead, read⟩ := ok_of_bind read
    obtain ⟨actions, actionsRead, read⟩ := ok_of_bind read
    obtain ⟨others, othersRead, made⟩ := ok_of_bind read
    cases made
    exact ⟨.mk condition actions, others, ⟨conditionRead, actionsRead⟩, othersRead, rfl⟩

theorem each_case {source : Value} {items : List ActionCase} (read : readCases source = .ok items) :
    Each (fun entry branch => entry.HoldsFormula "condition" branch.condition ∧
      entry.HoldsActions branch.actions) (source.kept "cases") items := by
  apply Formula.each_listed (by decide) _ _ _ each_case_item read
  · intro entries
    rw [readCases]
  · intro content
    rw [readCases]
    exact nofun
  · intro entries
    rw [readCases]
    exact nofun

/-- Bodies are read entry by entry, and each has the name of its entry. -/
theorem bodies_of_entries {entries : Entries} {events : List ActionBody}
    (read : readBodies entries = .ok events) :
    events.map ActionBody.name = entries.map (fun entry => entry.1.display) ∧
      ∀ event ∈ events, ∃ entry ∈ entries, entry.1.display = event.name ∧
      entry.2.HoldsActions event.actions := by
  induction entries generalizing events with
  | nil =>
      rw [readBodies] at read
      cases read
      exact ⟨rfl, nofun⟩
  | cons entry rest ih =>
      obtain ⟨key, value⟩ := entry
      rw [readBodies, read_body_eq] at read
      obtain ⟨name, nameRead, read⟩ := ok_of_bind read
      obtain ⟨actions, actionsRead, read⟩ := ok_of_bind read
      obtain ⟨others, othersRead, made⟩ := ok_of_bind read
      cases made
      obtain ⟨names, others⟩ := ih othersRead
      obtain rfl := Value.display_of_written nameRead
      constructor
      · rw [List.map_cons, List.map_cons, names]
        rfl
      · intro event member
        rcases List.mem_cons.mp member with rfl | later
        · exact ⟨(key, value), List.mem_cons_self, rfl, actionsRead⟩
        · obtain ⟨entry, listed, held⟩ := others event later
          exact ⟨entry, List.mem_cons_of_mem _ listed, held⟩

/-- Bodies have different names, and each is read from the field of its name. -/
theorem bodies_of_map {source : Value} (json : source.IsJson) {events : List ActionBody}
    (read : readBodyMap source = .ok events) :
    (events.map ActionBody.name).Nodup ∧
    ∀ event ∈ events, (source.field event.name).HoldsActions event.actions := by
  cases source with
  | scalar | list =>
      rw [readBodyMap] at read
      · cases read
        exact ⟨List.nodup_nil, nofun⟩
      · exact nofun
  | mapping entries =>
      rw [readBodyMap] at read
      obtain ⟨names, held⟩ := bodies_of_entries read
      rw [names]
      refine ⟨Value.nodup_names json, fun event member => ?_⟩
      obtain ⟨⟨key, value⟩, listed, named, holds⟩ := held event member
      rw [← named, ← Value.field_of_field?, Value.field_of_entry json listed]
      exact holds

def PartsRead (source : Value) : Action → Prop
  | setVariable _ data => source.HoldsFormula "data" data
  | triggerEvent _ data => source.HoldsFormula "data" data
  | triggerWorkflowCallback _ data => source.HoldsFormula "data" data
  | setUrlParameter _ data _ => source.HoldsFormula "data" data
  | setUrlParameters parameters _ =>
    NamedFormula.readAll (source.field "parameters") = .ok parameters
  | fetch _ inputs onSuccess onError onMessage =>
    NamedFormula.readAll (source.field "inputs") = .ok inputs ∧
      (source.field "onSuccess").HoldsActions onSuccess ∧
      (source.field "onError").HoldsActions onError ∧
      (source.field "onMessage").HoldsActions onMessage
  | abortFetch _ => True
  | custom _ _ items events =>
    NamedFormula.readAll (source.field "arguments") = .ok items ∧
      readBodyMap (source.field "events") = .ok events
  | triggerWorkflow _ parameters callbacks _ _ =>
    NamedFormula.readAll (source.field "parameters") = .ok parameters ∧
      readBodyMap (source.field "callbacks") = .ok callbacks
  | switch cases fallback data =>
    readCases (source.field "cases") = .ok cases ∧
      readFallback (source.field "default") = .ok fallback ∧
      source.HoldsFormula "data" data

theorem parts_of_read {source : Value} {action : Action} (done : read source = .ok (some action)) :
    action.PartsRead source := by
  cases source with
  | scalar | list =>
      rw [read] at done
      · cases done
      · exact nofun
  | mapping entries =>
      rw [read] at done
      simp only [Formula.read_field_eq, read_body_field_eq,
        read_bodies_field_eq, read_fallback_field_eq, read_cases_field_eq] at done
      obtain ⟨name, _, done⟩ := ok_of_bind done
      -- actions with one formula for data come first, then switches, fetches, abortions and those
      -- with bodies
      split at done
      case h_1 | h_2 | h_8 | h_11 =>
        obtain ⟨data, dataRead, made⟩ := ok_of_bind done
        cases made
        exact dataRead
      case h_3 =>
        obtain ⟨cases, casesRead, rest⟩ := ok_of_bind done
        obtain ⟨fallback, fallbackRead, rest⟩ := ok_of_bind rest
        obtain ⟨data, dataRead, made⟩ := ok_of_bind rest
        cases made
        exact ⟨casesRead, fallbackRead, dataRead⟩
      case h_4 =>
        obtain ⟨inputs, inputsRead, rest⟩ := ok_of_bind done
        obtain ⟨onSuccess, successRead, rest⟩ := ok_of_bind rest
        obtain ⟨onError, errorRead, rest⟩ := ok_of_bind rest
        obtain ⟨onMessage, messageRead, made⟩ := ok_of_bind rest
        cases made
        exact ⟨inputsRead, successRead, errorRead, messageRead⟩
      case h_5 =>
        cases done
        trivial
      case h_6 | h_7 | h_10 =>
        obtain ⟨items, itemsRead, rest⟩ := ok_of_bind done
        obtain ⟨events, eventsRead, made⟩ := ok_of_bind rest
        cases made
        exact ⟨itemsRead, eventsRead⟩
      case h_9 =>
        obtain ⟨parameters, parametersRead, made⟩ := ok_of_bind done
        cases made
        exact parametersRead
      case h_12 => cases done

end Action
end Interplay
