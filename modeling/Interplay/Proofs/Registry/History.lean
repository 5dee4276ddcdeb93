import Interplay.Proofs.Run.Attempts
import Interplay.Proofs.Value.Content
import Interplay.Registry
import Interplay.Value.Fields
import Mathlib.Data.List.Find

/-!
What a registry has after a history of registrations.

A catalog is the same after any two histories with the same registrations in it, and a lookup can be
answered from the history alone: the last registration of a name decides what it means in a package,
and the first registration of all in a package decides where the package stands among the others.
-/

namespace Interplay

def Table.spelled {α β : Type} (change : α → β) (table : Table α) : Keyed Scalar β :=
  table.map fun entry => (.text entry.1, change entry.2)

namespace Table

variable {α β : Type} (change : α → β)

theorem find?_spelled (key : String) (table : Table α) :
    Keyed.find? (.text key) (table.spelled change) = (Keyed.find? key table).map change := by
  induction table with
  | nil => rfl
  | cons entry rest ih =>
      obtain ⟨found, content⟩ := entry
      change (if (Scalar.text found == Scalar.text key) = true then _ else _) = _
      rw [Value.same_text_iff]
      by_cases same : (found == key) = true
      · simp [Keyed.find?, same]
      · simp only [Keyed.find?, same]
        exact ih

theorem insert_spelled (key : String) (content : α) (table : Table α) :
    Keyed.insert (.text key) (change content) (table.spelled change) =
      Table.spelled change (Keyed.insert key content table) := by
  induction table with
  | nil => rfl
  | cons entry rest ih =>
      obtain ⟨found, old⟩ := entry
      change (if (Scalar.text found == Scalar.text key) = true then _ else _) = _
      rw [Value.same_text_iff]
      by_cases same : (found == key) = true
      · simp [Keyed.insert, same, spelled]
      · simpa [Keyed.insert, same, spelled] using ih

end Table

namespace Catalog

variable {Entry Legacy : Type}

/-- A registration of a name in a package; the root is the package without a name. -/
structure Registration (Entry : Type) where
  package : String
  name : String
  entry : Option Entry

def Registration.isOf (package name : String) (registration : Registration Entry) : Bool :=
  registration.package == package && registration.name == name

structure History (Entry Legacy : Type) where
  entries : List (Registration Entry)
  legacy : Table Legacy

namespace History

def entry? (history : History Entry Legacy) (package name : String) : Option Entry :=
  (history.entries.reverse.find? (Registration.isOf package name)).bind Registration.entry

def isHeld (history : History Entry Legacy) (name package : String) : Bool :=
  package != "" && history.entries.any (Registration.isOf package name)

/-- Of the packages that hold a name, the one with the earliest registration of any name. -/
def holder? (history : History Entry Legacy) (name : String) : Option String :=
  (history.entries.find? fun first => history.isHeld name first.package).map Registration.package

/-- What a name means in a package, and without one in the root or else in its holder, with that
package. -/
def versioned? (history : History Entry Legacy) (name package : String) : Option (Entry × Value) :=
  if package ≠ "" then (history.entry? package name).map fun entry => (entry, .text package)
  else match history.entry? "" name with
    | some entry => some (entry, .null)
    | none => (history.holder? name).bind fun holder =>
        (history.entry? holder name).map fun entry => (entry, .text holder)

def legacy? (history : History Entry Legacy) (name : String) : Option Legacy :=
  Keyed.find? name history.legacy.reverse

/-- What a name means in a package, or without one, after all registrations. -/
def resolution (history : History Entry Legacy) (name : String) (package : Option String) :
    Option (Resolution Entry Legacy) :=
  match history.versioned? name (package.getD "") with
  | some (entry, found) => some (.versioned entry found)
  | none => (history.legacy? name).map fun entry => .legacy entry (Value.ofOption package)

/-! ### The catalog of a history -/

/-- The names of every package after registrations; a registration writes to its package, which may
be new. -/
def tables (entries : List (Registration Entry)) : Table (Table (Option Entry)) :=
  entries.foldl (fun packages registration =>
    let names := (Keyed.find? registration.package packages).getD []
    Keyed.insert registration.package
      (Keyed.insert registration.name registration.entry names) packages) []

/-- The names of a package after registrations; none if nothing was registered in it. -/
def names (entries : List (Registration Entry)) (package : String) : Table (Option Entry) :=
  (Keyed.find? package (tables entries)).getD []

def legacyTable (entries : Table Legacy) : Table Legacy :=
  entries.foldl (fun result entry => Keyed.insert entry.1 entry.2 result) []

def knows (name : String) (package : String × Table (Option Entry)) : Bool :=
  package.1 != "" && (Keyed.find? name package.2).isSome

def catalog (history : History Entry Legacy) : Catalog Entry Legacy where
  packages := (tables history.entries).spelled (Table.spelled id)
  legacy := (legacyTable history.legacy).spelled id

section

variable (entries : List (Registration Entry)) (registration : Registration Entry)

theorem tables_append :
    tables (entries ++ [registration]) = Keyed.insert registration.package
      (Keyed.insert registration.name registration.entry (names entries registration.package))
      (tables entries) :=
  List.foldl_append

theorem names_append_self :
    names (entries ++ [registration]) registration.package =
      Keyed.insert registration.name registration.entry (names entries registration.package) := by
  rw [names, tables_append, Keyed.find?_insert_self]
  rfl

theorem names_append_of_ne {package : String} (different : package ≠ registration.package) :
    names (entries ++ [registration]) package = names entries package := by
  rw [names, tables_append, Keyed.find?_insert_of_ne _ _ different]
  rfl

/-- A package knows a name as what was registered last under it. -/
theorem find?_names (package name : String) :
    Keyed.find? name (names entries package) =
      (entries.reverse.find? (Registration.isOf package name)).map Registration.entry := by
  induction entries using List.reverseRecOn with
  | nil => rfl
  | append_singleton earlier last ih =>
      rw [List.reverse_append, List.reverse_singleton, List.singleton_append, List.find?_cons]
      by_cases here : package = last.package
      · subst here
        rw [names_append_self]
        by_cases named : name = last.name
        · subst named
          simp [Keyed.find?_insert_self, Registration.isOf]
        · have apart : Registration.isOf last.package name last = false := by
            simp [Registration.isOf, Ne.symm named]
          rw [Keyed.find?_insert_of_ne _ _ named, ih, apart]
      · have apart : Registration.isOf package name last = false := by
          simp [Registration.isOf, Ne.symm here]
        rw [names_append_of_ne _ _ here, ih, apart]

theorem find?_packages (accepts : String → Bool) :
    ((tables entries).map Prod.fst).find? accepts =
    (entries.map Registration.package).find? accepts := by
  induction entries using List.reverseRecOn with
  | nil => rfl
  | append_singleton earlier last ih =>
      rw [tables_append, Keyed.find?_keys_insert, ih, List.map_append, List.find?_append]
      rfl

theorem nodup_packages : ((tables entries).map Prod.fst).Nodup := by
  induction entries using List.reverseRecOn with
  | nil => exact List.nodup_nil
  | append_singleton earlier last ih =>
      rw [tables_append]
      exact Keyed.nodup_insert _ _ ih

theorem names_of_mem {package : String × Table (Option Entry)} (member : package ∈ tables entries) :
    package.2 = names entries package.1 := by
  have found := (Keyed.mem_iff_find? (nodup_packages entries) package.1 package.2).mp member
  rw [names, found]
  rfl

theorem isSome_find?_names (package name : String) :
    (Keyed.find? name (names entries package)).isSome = entries.any
    (Registration.isOf package name) := by
  rw [find?_names, Option.isSome_map, Bool.eq_iff_iff, List.find?_isSome, List.any_eq_true]
  simp only [List.mem_reverse]

end

section

variable (history : History Entry Legacy)

theorem find?_legacy_table (name : String) : Keyed.find? name (legacyTable history.legacy) =
    history.legacy? name := by
  rw [legacyTable, Keyed.find?_foldl_insert]
  exact Option.or_none

theorem names_catalog (package : String) :
    history.catalog.names (.text package) = Table.spelled id (names history.entries package) := by
  rw [Catalog.names, catalog, Table.find?_spelled, names]
  cases Keyed.find? package (tables history.entries) with
  | none => rfl
  | some table => rfl

theorem find?_names_catalog (package name : String) :
    Keyed.find? (.text name) (history.catalog.names (.text package)) =
      (history.entries.reverse.find? (Registration.isOf package name)).map Registration.entry := by
  rw [names_catalog, Table.find?_spelled, find?_names, Option.map_id]
  rfl

theorem first_holder_spelled (name : String) (packages : Table (Table (Option Entry))) :
    firstHolder (.text name) (packages.spelled (Table.spelled id)) =
      (List.find? (knows name) packages).bind fun package =>
        (Keyed.find? name package.2).map fun entry => (entry, .text package.1) := by
  induction packages with
  | nil => rfl
  | cons head rest ih =>
      obtain ⟨package, table⟩ := head
      have entries : Keyed.find? (.text name) (table.spelled id) = Keyed.find? name table := by
        rw [Table.find?_spelled, Option.map_id]
        rfl
      have unfolded : Table.spelled (Table.spelled id) ((package, table) :: rest) =
          (Scalar.text package, table.spelled id) :: Table.spelled (Table.spelled id) rest := rfl
      rw [unfolded, List.find?_cons]
      unfold firstHolder root
      rw [Value.same_text_iff, entries, ih]
      by_cases isRoot : package = ""
      · simp [knows, isRoot]
      · have outside : (package != "") = true := bne_iff_ne.mpr isRoot
        cases held : Keyed.find? name table with
        | none => simp [knows, isRoot, held]
        | some entry => simp [knows, isRoot, outside, held]

/-- The holder is the first of the packages that know the name, since they stand in the order of
their first registrations. -/
theorem holder_of_tables (name : String) :
    history.holder? name = (List.find? (knows name) (tables history.entries)).map Prod.fst := by
  calc
    history.holder? name = (history.entries.map Registration.package).find?
      (history.isHeld name) := by
      rw [List.find?_map]
      rfl
    _ = ((tables history.entries).map Prod.fst).find? (history.isHeld name) :=
      (find?_packages history.entries (history.isHeld name)).symm
    _ = (List.find? (history.isHeld name ∘ Prod.fst) (tables history.entries)).map Prod.fst :=
      List.find?_map
    _ = (List.find? (knows name) (tables history.entries)).map Prod.fst := by
      congr 1
      apply List.find?_congr
      intro package member
      unfold knows
      rw [names_of_mem history.entries member, isSome_find?_names]
      rfl

theorem find?_names_of_knows {name : String} {package : String × Table (Option Entry)}
    (member : package ∈ tables history.entries) (known : knows name package = true) :
    Keyed.find? name package.2 = some (history.entry? package.1 name) := by
  unfold knows at known
  rw [names_of_mem history.entries member, find?_names, Bool.and_eq_true] at known
  rw [names_of_mem history.entries member, find?_names, entry?]
  cases last : history.entries.reverse.find? (Registration.isOf package.1 name) with
  | none =>
      rw [last] at known
      cases known.2
  | some registration => rfl

theorem first_holder_catalog (name : String) :
    firstHolder (.text name) history.catalog.packages =
      (history.holder? name).map fun holder => (history.entry? holder name, .text holder) := by
  have spelled := first_holder_spelled name (tables history.entries)
  rw [holder_of_tables]
  refine spelled.trans ?_
  cases found : List.find? (knows name) (tables history.entries) with
  | none => rfl
  | some package =>
      have held := history.find?_names_of_knows
          (List.mem_of_find?_eq_some found) (List.find?_some found)
      rw [Option.bind_some, held]
      rfl

theorem entry_catalog (package name : String) :
    (Keyed.find? (.text name) (history.catalog.names (.text package))).bind id =
    history.entry? package name := by
  rw [find?_names_catalog, entry?]
  cases history.entries.reverse.find? (Registration.isOf package name) with
  | none => rfl
  | some registration => rfl

theorem find_anywhere_catalog (name : String) :
    history.catalog.findAnywhere (.text name) = history.versioned? name "" := by
  have atRoot : (Keyed.find? (.text name) (history.catalog.names root)).bind id =
      history.entry? "" name :=
    history.entry_catalog "" name
  unfold findAnywhere versioned?
  rw [first_holder_catalog, if_neg (not_not_intro rfl), ← atRoot]
  cases Keyed.find? (.text name) (history.catalog.names root) with
  | none =>
      cases history.holder? name with
      | none => rfl
      | some holder => cases inside : history.entry? holder name <;> simp [inside]
  | some found =>
      cases found with
      | some entry => rfl
      | none =>
          -- A name that the root has without an entry is looked for in the packages as well.
          cases history.holder? name with
          | none => rfl
          | some holder => cases inside : history.entry? holder name <;> simp [inside]

theorem filled_of_option (package : Option String) :
    (Value.ofOption package).isFilled = decide (package.getD "" ≠ "") := by
  cases package with
  | none => rfl
  | some text =>
      change (!text.isEmpty) = decide (text ≠ "")
      by_cases unnamed : text = "" <;> simp [unnamed]

/-- In a catalog, a name means what the history says that it means. -/
theorem find?_catalog (name : String) (package : Option String) :
    history.catalog.find? (.text name) (Value.ofOption package) =
      .ok (history.versioned? name (package.getD "")) := by
  by_cases unnamed : package.getD "" = ""
  · have unfilled : ¬(Value.ofOption package).isFilled = true :=
      by simpa [filled_of_option] using unnamed
    unfold find?
    rw [unnamed, if_neg unfilled]
    exact congrArg Except.ok (history.find_anywhere_catalog name)
  · obtain ⟨text, rfl⟩ : ∃ text, package = some text := by
      cases package with
      | none => exact absurd rfl unnamed
      | some text => exact ⟨text, rfl⟩
    have filled : (Value.ofOption (some text)).isFilled = true :=
      by simpa [filled_of_option] using unnamed
    unfold find? versioned?
    rw [Option.getD_some] at unnamed ⊢
    rw [if_pos filled, if_pos unnamed, ← entry_catalog history text name]
    have keyed : (Value.ofOption (some text)).toKey = .ok (.text text) := rfl
    have named : (Value.text name).toKey = .ok (.text name) := rfl
    rw [keyed, named]
    simp only [Except.bind, bind]
    cases Keyed.find? (.text name) (history.catalog.names (.text text)) with
    | none => rfl
    | some found =>
        cases found with
        | none => rfl
        | some entry => rfl

theorem resolve_catalog (name : String) (package : Option String) :
    history.catalog.resolve (.text name) (Value.ofOption package) = .ok
      (history.resolution name package) := by
  have fallback : history.catalog.legacy? (.text name) = .ok (history.legacy? name) := by
    have found := Table.find?_spelled id name (legacyTable history.legacy)
    rw [find?_legacy_table, Option.map_id] at found
    exact congrArg Except.ok found
  unfold resolve resolution
  rw [find?_catalog, fallback]
  simp only [Except.bind, bind]
  cases history.versioned? name (package.getD "") with
  | none => rfl
  | some found => rfl

/-- A name that an earlier package takes up later hides the one of the package that had it first. -/
example : (⟨[⟨"a", "x", some 1⟩, ⟨"b", "f", some 2⟩, ⟨"a", "f", some 3⟩], []⟩ : History Nat
    Nat).resolution "f" none = some (.versioned 3 (.text "a")) := by
  rfl

/-! ### Registrations -/

def add (registration : Registration Entry) : History Entry Legacy :=
  { history with entries := history.entries ++ [registration] }

def addLegacy (name : String) (entry : Legacy) : History Entry Legacy :=
  { history with legacy := history.legacy ++ [(name, entry)] }

theorem package_key (package : Option String) :
    ((Value.ofOption package).orElse (.text "")).toKey = .ok (.text (package.getD "")) := by
  unfold Value.orElse
  rw [filled_of_option]
  cases package with
  | none => rfl
  | some text => by_cases unnamed : text = "" <;> simp [unnamed, Value.ofOption, Value.toKey]

theorem set_names_spelled (package : String) (table : Table (Option Entry))
    (packages : Table (Table (Option Entry))) (legacy : Keyed Scalar Legacy) :
    Catalog.setNames (.text package) (Table.spelled id table)
      ⟨packages.spelled (Table.spelled id), legacy⟩ =
      ⟨Table.spelled (Table.spelled id) (Keyed.insert package table packages), legacy⟩ := by
  unfold setNames
  rw [Table.insert_spelled]

theorem register_catalog (name : String) (entry : Option Entry) (package : Option String) :
    register (.text name) entry (Value.ofOption package) history.catalog =
      .done () (history.add ⟨package.getD "", name, entry⟩).catalog := by
  let place := package.getD ""
  -- The package is opened before the name becomes a key, so its names are written twice.
  let opened := history.catalog.setNames (.text place) (history.catalog.names (.text place))
  have run : register (.text name) entry (Value.ofOption package) history.catalog =
      .done () (opened.setNames (.text place)
        (Keyed.insert (.text name) entry (opened.names (.text place)))) := by
    unfold register
    rw [package_key]
    rfl
  have isOpen : opened = ⟨Table.spelled (Table.spelled id)
      (Keyed.insert place (names history.entries place) (tables history.entries)),
      history.catalog.legacy⟩ := by
    change history.catalog.setNames (.text place) (history.catalog.names (.text place)) = _
    rw [names_catalog]
    exact set_names_spelled place _ (tables history.entries) history.catalog.legacy
  have kept : opened.names (.text place) = Table.spelled id (names history.entries place) := by
    rw [isOpen, Catalog.names, Table.find?_spelled, Keyed.find?_insert_self]
    rfl
  have written : opened.setNames (.text place)
      (Keyed.insert (.text name) entry (opened.names (.text place))) =
      (history.add ⟨place, name, entry⟩).catalog := by
    rw [kept, ← id_eq entry, Table.insert_spelled, isOpen, set_names_spelled, Keyed.insert_insert]
    unfold add catalog
    rw [tables_append]
    rfl
  rw [run, written]

theorem register_legacy_catalog (name : String) (entry : Legacy) :
    registerLegacy (.text name) entry history.catalog = .done ()
      (history.addLegacy name entry).catalog := by
  have written : legacyTable (history.legacy ++ [(name, entry)]) =
      Keyed.insert name entry (legacyTable history.legacy) := List.foldl_append
  change Result.done () (Catalog.mk history.catalog.packages
    (Keyed.insert (.text name) (id entry) ((legacyTable history.legacy).spelled id))) = _
  rw [Table.insert_spelled, ← written]
  rfl

end

end History

end Catalog

namespace Registry

variable {FormulaHandler ActionHandler : Type}

/-- A registration by host code, under any name and for any package or none. -/
inductive Call (FormulaHandler ActionHandler : Type) where
  | formula (name : String) (source : FormulaSource FormulaHandler) (package : Option String)
  | action (name : String) (handler : ActionHandler) (package : Option String)
  | legacyFormula (name : String) (handler : FormulaHandler)
  | legacyAction (name : String) (handler : ActionHandler)

namespace Call

def run : Call FormulaHandler ActionHandler → Run (Registry FormulaHandler ActionHandler) Unit
  | formula name source package => registerFormula (.text name) source (Value.ofOption package)
  | action name handler package => registerAction (.text name) handler (Value.ofOption package)
  | legacyFormula name handler => registerLegacyFormula (.text name) handler
  | legacyAction name handler => registerLegacyAction (.text name) handler

def isOfFormulas : Call FormulaHandler ActionHandler → Bool
  | formula .. | legacyFormula .. => true
  | action .. | legacyAction .. => false

/-- The formula that a call registers; a definition that cannot be read is none. -/
def formula? : Call FormulaHandler ActionHandler →
    Option (Catalog.Registration (FormulaEntry FormulaHandler))
  | formula name source package =>
    (source.read (.text name)).toOption.map fun entry => ⟨package.getD "", name, entry⟩
  | _ => none

def legacyFormula? : Call FormulaHandler ActionHandler → Option (String × FormulaHandler)
  | legacyFormula name handler => some (name, handler)
  | _ => none

def action? : Call FormulaHandler ActionHandler → Option (Catalog.Registration ActionHandler)
  | action name handler package => some ⟨package.getD "", name, some handler⟩
  | _ => none

def legacyAction? : Call FormulaHandler ActionHandler → Option (String × ActionHandler)
  | legacyAction name handler => some (name, handler)
  | _ => none

end Call

/-- What calls register as formulas, in order. -/
def formulaHistory (calls : List (Call FormulaHandler ActionHandler)) :
    Catalog.History (FormulaEntry FormulaHandler) FormulaHandler where
  entries := calls.filterMap Call.formula?
  legacy := calls.filterMap Call.legacyFormula?

/-- What calls register as actions, in order. -/
def actionHistory (calls : List (Call FormulaHandler ActionHandler)) :
    Catalog.History ActionHandler ActionHandler where
  entries := calls.filterMap Call.action?
  legacy := calls.filterMap Call.legacyAction?

theorem formula_history_alone (calls : List (Call FormulaHandler ActionHandler)) :
    formulaHistory (calls.filter Call.isOfFormulas) = formulaHistory calls := by
  unfold formulaHistory
  rw [List.filterMap_filter, List.filterMap_filter]
  congr <;> funext call <;> cases call <;> rfl

theorem action_history_alone (calls : List (Call FormulaHandler ActionHandler)) :
    actionHistory (calls.filter fun call => !call.isOfFormulas) = actionHistory calls := by
  unfold actionHistory
  rw [List.filterMap_filter, List.filterMap_filter]
  congr <;> funext call <;> cases call <;> rfl

/-- The registry that calls lead to. -/
def reached (calls : List (Call FormulaHandler ActionHandler)) :
    Registry FormulaHandler ActionHandler where
  formulas := (formulaHistory calls).catalog
  actions := (actionHistory calls).catalog

section

variable {earlier later : List (Call FormulaHandler ActionHandler)}

theorem on_formulas_reaches {body : Run (Catalog (FormulaEntry FormulaHandler) FormulaHandler) Unit}
    (made : body (formulaHistory earlier).catalog = .done () (formulaHistory later).catalog)
    (kept : actionHistory later = actionHistory earlier) :
    (onFormulas body (reached earlier)).state? = some (reached later) := by
  change ((body (formulaHistory earlier).catalog).mapState _).state? = _
  rw [made]
  unfold reached
  rw [kept]
  rfl

theorem on_actions_reaches {body : Run (Catalog ActionHandler ActionHandler) Unit}
    (made : body (actionHistory earlier).catalog = .done () (actionHistory later).catalog)
    (kept : formulaHistory later = formulaHistory earlier) :
    (onActions body (reached earlier)).state? = some (reached later) := by
  change ((body (actionHistory earlier).catalog).mapState _).state? = _
  rw [made]
  unfold reached
  rw [kept]
  rfl

end

/-- One more call leads on by what it registers; a formula whose definition cannot be read is not
registered. -/
theorem call_reaches (earlier : List (Call FormulaHandler ActionHandler))
    (call : Call FormulaHandler ActionHandler) :
    (call.run (reached earlier)).state? = some (reached (earlier ++ [call])) := by
  cases call with
  | formula name source package =>
      change (Run.bind (Run.ofExcept (source.read (.text name))) (fun entry =>
        onFormulas (Catalog.register (.text name) entry (Value.ofOption package)))
          (reached earlier)).state? = _
      have others : actionHistory (earlier ++ [.formula name source package]) =
          actionHistory earlier := by
        simp [actionHistory, List.filterMap_cons, Call.action?, Call.legacyAction?]
      cases read : source.read (.text name) with
      | error failure =>
          have same : formulaHistory (earlier ++ [.formula name source package]) =
              formulaHistory earlier := by
            simp [formulaHistory, List.filterMap_cons, Call.formula?,
              Call.legacyFormula?, read, Except.toOption]
          unfold reached
          rw [same, others]
          rfl
      | ok entry =>
          have grown : formulaHistory (earlier ++ [.formula name source package]) =
              (formulaHistory earlier).add ⟨package.getD "", name, entry⟩ := by
            simp [formulaHistory, List.filterMap_cons, Call.formula?, Call.legacyFormula?,
              Catalog.History.add, read, Except.toOption]
          refine on_formulas_reaches ?_ others
          rw [grown]
          exact (formulaHistory earlier).register_catalog name entry package
  | action name handler package =>
      have grown : actionHistory (earlier ++ [.action name handler package]) =
          (actionHistory earlier).add ⟨package.getD "", name, some handler⟩ := by
        simp [actionHistory, List.filterMap_cons, Call.action?,
          Call.legacyAction?, Catalog.History.add]
      apply on_actions_reaches
      · rw [grown]
        exact (actionHistory earlier).register_catalog name (some handler) package
      · simp [formulaHistory, List.filterMap_cons, Call.formula?, Call.legacyFormula?]
  | legacyFormula name handler =>
      have grown : formulaHistory (earlier ++ [.legacyFormula name handler]) =
          (formulaHistory earlier).addLegacy name handler := by
        simp [formulaHistory, List.filterMap_cons, Call.formula?, Call.legacyFormula?,
          Catalog.History.addLegacy]
      change (onFormulas (Catalog.registerLegacy (.text name) handler) (reached earlier)).state? = _
      apply on_formulas_reaches
      · rw [grown]
        exact (formulaHistory earlier).register_legacy_catalog name handler
      · simp [actionHistory, List.filterMap_cons, Call.action?, Call.legacyAction?]
  | legacyAction name handler =>
      have grown : actionHistory (earlier ++ [.legacyAction name handler]) =
          (actionHistory earlier).addLegacy name handler := by
        simp [actionHistory, List.filterMap_cons, Call.action?, Call.legacyAction?,
          Catalog.History.addLegacy]
      change (onActions (Catalog.registerLegacy (.text name) handler) (reached earlier)).state? = _
      apply on_actions_reaches
      · rw [grown]
        exact (actionHistory earlier).register_legacy_catalog name handler
      · simp [formulaHistory, List.filterMap_cons, Call.formula?, Call.legacyFormula?]

theorem calls_reach (calls : List (Call FormulaHandler ActionHandler)) :
    ∃ outcomes, Run.attemptAll Call.run calls empty = .done outcomes (reached calls) := by
  let known (earlier : List (Call FormulaHandler ActionHandler))
      (registry : Registry FormulaHandler ActionHandler) :=
    registry = reached earlier
  have kept : ∀ earlier call registry, known earlier registry →
      ∃ after, (Call.run call registry).state? = some after ∧ known (earlier ++ [call]) after := by
    intro earlier call registry isReached
    rw [isReached]
    exact ⟨_, call_reaches earlier call, rfl⟩
  have start : known [] empty := rfl
  obtain ⟨outcomes, registry, ended, isReached⟩ := Run.attempt_all_reaches known kept calls start
  rw [isReached] at ended
  exact ⟨outcomes, ended⟩

/-- After any calls, a name means what the history of its own kind says: what was registered last in
the package that is asked, or without a package what was registered last in the root, or else in the
package with the earliest registration of those that hold the name; and where that is nothing, the
last fallback of the name.  Calls of the other kind might as well not have been made. -/
theorem resolution_follows_history (calls : List (Call FormulaHandler ActionHandler)) :
    ∃ outcomes registry, Run.attemptAll Call.run calls empty = .done outcomes registry ∧
      (∀ name package, registry.formulas.resolve (.text name) (Value.ofOption package) =
        .ok ((formulaHistory calls).resolution name package)) ∧
      (∀ name package, registry.actions.resolve (.text name) (Value.ofOption package) =
        .ok ((actionHistory calls).resolution name package)) ∧
      (∃ outcomes alone, Run.attemptAll Call.run
        (calls.filter Call.isOfFormulas) empty = .done outcomes alone ∧
        alone.formulas = registry.formulas) ∧
      ∃ outcomes alone, Run.attemptAll Call.run
        (calls.filter fun call => !call.isOfFormulas) empty =
        .done outcomes alone ∧ alone.actions = registry.actions := by
  obtain ⟨outcomes, ended⟩ := calls_reach calls
  obtain ⟨formulaOutcomes, formulasAlone⟩ := calls_reach (calls.filter Call.isOfFormulas)
  obtain ⟨actionOutcomes, actionsAlone⟩ := calls_reach (calls.filter fun call => !call.isOfFormulas)
  refine ⟨outcomes, reached calls, ended, ?_, ?_, ⟨formulaOutcomes, _, formulasAlone, ?_⟩,
    actionOutcomes, _, actionsAlone, ?_⟩
  · exact (formulaHistory calls).resolve_catalog
  · exact (actionHistory calls).resolve_catalog
  · unfold reached
    rw [formula_history_alone]
  · unfold reached
    rw [action_history_alone]

end Registry
end Interplay
