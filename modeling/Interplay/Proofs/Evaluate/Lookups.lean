import Interplay.Proofs.Evaluate.Custody
import Interplay.Proofs.Evaluate.Stretch
import Interplay.Proofs.Traversal.Coverage

/-!
The functions that evaluation looks up.

A function node looks its name up before all other work, in the package that it declares or else in
that of its context.  What a component refers to is read off its formulas without evaluating any.
The names cover every lookup.  The qualified names need not: they are made with the package that a
node stands in, and not with the one that it declares.
-/

namespace Interplay

namespace Evaluate

open Run

section Watching

variable {allowed : String → Value → Prop} {environment : Environment}

open Classical in
noncomputable def lookUpAllowed (allowed : String → Value → Prop)
    (environment : Environment) (context : Context) :
    Lookup := fun name package =>
  if allowed name package then lookUp environment context name package else Run.exhaust

noncomputable def dispatchAllowed (allowed : String → Value → Prop)
    (environment : Environment) (evaluator : Evaluator)
    (formula : Formula) (context : Context) (depth : Value) : Run Machine Value :=
  match formula with
  | .function name arguments declared =>
    callFound (lookUpAllowed allowed environment context) environment evaluator context
      depth name arguments declared
  | _ => dispatch environment evaluator formula context depth

/-- Evaluation that is broken off at the first lookup that is not allowed.  Beyond the fuel nodes
are null, so that what evaluation looks up on its way is seen even if it comes to no end. -/
noncomputable def lookingUp (allowed : String → Value → Prop) (environment : Environment) : Nat →
    Evaluator
  | 0 => fun _ _ _ => pure .null
  | fuel + 1 => fun formula context depth =>
    evaluateBy environment context depth
      (dispatchAllowed allowed environment (lookingUp allowed environment fuel)
        formula context depth) formula

section Nodes

variable {evaluator : Evaluator} {context : Context} {depth : Value}

theorem dispatch_of_allowed {formula : Formula} (all : ∀ name arguments declared,
      formula = .function name arguments declared →
      allowed name (declared.orElse context.package)) :
    dispatchAllowed allowed environment evaluator formula context depth =
      dispatch environment evaluator formula context depth := by
  cases formula with
  | function name arguments declared =>
      have asked : lookUpAllowed allowed environment context name
          (declared.orElse context.package) =
          lookUp environment context name (declared.orElse context.package) :=
        if_pos (all name arguments declared rfl)
      simp only [dispatchAllowed, dispatch, evaluateFunction, callFound, asked]
  | _ => rfl

theorem dispatch_of_anything (formula : Formula) :
    dispatchAllowed (fun _ _ => True) environment evaluator formula context depth =
      dispatch environment evaluator formula context depth :=
  dispatch_of_allowed fun _ _ _ _ => trivial

theorem dispatch_of_refused {name : String} {arguments : List Argument} {declared : Value}
    (refused : ¬allowed name (declared.orElse context.package)) :
    dispatchAllowed allowed environment evaluator (.function name arguments declared) context
      depth = Run.exhaust := by
  have asked : lookUpAllowed allowed environment context name
      (declared.orElse context.package) = Run.exhaust :=
    if_neg refused
  simp only [dispatchAllowed, callFound, asked]
  rfl

end Nodes

/-- Evaluating the formula, however far, looks up nothing that is not allowed. -/
def AsksOnly (allowed : String → Value → Prop) (environment : Environment)
    (formula : Formula) (context : Context) (depth : Value) (machine : Machine) : Prop :=
  ∀ fuel, evaluateTop (lookingUp allowed environment fuel) context depth
    (some formula) machine ≠ .exhausted

theorem looking_up_anything (fuel : Nat) :
    lookingUp (fun _ _ => True) environment (fuel + 1) =
      evaluateWith environment (lookingUp (fun _ _ => True) environment fuel) := by
  funext formula context depth
  exact congrArg (fun work => evaluateBy environment context depth work formula)
    (dispatch_of_anything formula)

theorem evaluation_looks_up (fuel : Nat) (formula : Formula) (context : Context) (depth : Value) :
    Tracks True (fun _ => True) (evaluateNode environment fuel formula context depth)
      (lookingUp (fun _ _ => True) environment fuel formula context depth) := by
  induction fuel generalizing formula context depth with
  | zero => exact tracks_exhaust trivial _
  | succ fuel ih =>
      rw [looking_up_anything]
      exact tracks_node_of_everywhere anything_steady
        (fun formula context depth _ => ih formula context depth) formula trivial depth

theorem unbroken_looks_up (fuel : Nat) (formula : Formula) (context : Context) (depth : Value) :
    Tracks True (fun _ => True) (lookingUp allowed environment fuel formula context depth)
      (lookingUp (fun _ _ => True) environment fuel formula context depth) := by
  induction fuel generalizing formula context depth with
  | zero => exact tracks_pure Value.null
  | succ fuel ih =>
      refine tracks_evaluate_by (anything_steady.tolerant _ trivial) (fun _ _ _ => ?_) formula
      rw [dispatch_of_anything]
      by_cases all : ∀ name arguments declared, formula = .function name arguments declared →
          allowed name (declared.orElse context.package)
      · rw [dispatch_of_allowed all]
        exact tracks_dispatch_of_everywhere anything_steady
          (fun formula context depth _ => ih formula context depth) formula trivial depth
      · push Not at all
        obtain ⟨name, arguments, declared, rfl, refused⟩ := all
        rw [dispatch_of_refused refused]
        exact tracks_exhaust trivial _

/-- An evaluation that comes to an end goes just as it goes while its lookups are watched. -/
theorem AsksOnly.follows {formula : Formula} {context : Context} {depth : Value} {machine : Machine}
    (asks : AsksOnly allowed environment formula context depth machine) {fuel : Nat}
    (ended : evaluate environment fuel (some formula) context depth machine ≠ .exhausted) :
    evaluateTop (lookingUp allowed environment fuel) context depth (some formula) machine =
      evaluate environment fuel (some formula) context depth machine := by
  have tolerant := anything_steady.tolerant context.host trivial
  have evaluated : Tracks True (fun _ => True)
      (evaluate environment fuel (some formula) context depth)
      (evaluateTop (lookingUp (fun _ _ => True) environment fuel) context depth (some formula)) :=
    tracks_evaluate_top tolerant fun formula _ => evaluation_looks_up fuel formula context depth
  have watched : Tracks True (fun _ => True)
      (evaluateTop (lookingUp allowed environment fuel) context depth (some formula))
      (evaluateTop (lookingUp (fun _ _ => True) environment fuel) context depth (some formula)) :=
    tracks_evaluate_top tolerant fun formula _ => unbroken_looks_up fuel formula context depth
  have same := Result.eq_of_tracks (watched machine trivial) (asks fuel)
  exact same.symm.trans (Result.eq_of_tracks (evaluated machine trivial) ended)

end Watching

section Covering

variable {allowed : String → Value → Prop} {environment : Environment}
  {component : Component} {host : Nat} {package : Value} {known : Nat → Prop}

/-- If what listed formulas look up is allowed, evaluation among them is never broken off. -/
theorem looking_up_keeps (enclosed : environment.Encloses host component)
    (packaged : package.Within known)
    (covered : ∀ name arguments declared, component.Lists (.function name arguments declared) →
      allowed name (declared.orElse package))
    (fuel : Nat) : Keeps component host package known (lookingUp allowed environment fuel) := by
  induction fuel with
  | zero => exact fun _ _ _ _ _ => safe_pure Value.within_null
  | succ fuel ih =>
      intro formula context depth listed within
      obtain rfl := within.host
      refine safe_evaluate_by ?_ formula
      -- the node is listed, so its own lookup is allowed; the nodes that it goes on with are listed
      -- again
      have own : ∀ name arguments declared, formula = .function name arguments declared →
          allowed name (declared.orElse context.package) := by
        rintro name arguments declared rfl
        rw [within.package]
        exact covered name arguments declared listed
      rw [dispatch_of_allowed own]
      exact safe_dispatch enclosed ih within packaged depth listed

variable {context : Context} {machine : Machine}

/-- Evaluating a listed formula looks up what listed formulas look up.  Closures that are there
already do not matter, since nothing in reach mentions one. -/
theorem asks_only_of_listed (enclosed : environment.Encloses context.host component)
    (data : context.data.HasNoClosures) (packaged : context.package.HasNoClosures)
    (empty : ∀ memo, (machine.host context.host).memo = some memo → memo.entries = [])
    (covered : ∀ name arguments declared, component.Lists (.function name arguments declared) →
      allowed name (declared.orElse context.package)) {formula : Formula}
      (listed : component.Lists formula) (depth : Value) :
    AsksOnly allowed environment formula context depth machine := by
  intro fuel
  -- known are the handles from here on; whatever closures there are already stay outside of custody
  have custody :
      machine.Custody component context.host context.package fun handle =>
        machine.closures.size ≤ handle := by
    refine ⟨fun _ beyond => beyond, fun handle closure beyond present => ?_, fun memo present => ?_⟩
    · exact absurd (Array.getElem?_eq_some_iff.mp present).1 (Nat.not_lt.mpr beyond)
    · rw [empty memo present]
      exact nofun
  have keeps :=
    looking_up_keeps enclosed
      (packaged.within fun handle => machine.closures.size ≤ handle) covered fuel
  have within : context.IsWithin context.host context.package fun handle =>
    machine.closures.size ≤ handle :=
    ⟨rfl, rfl, data.within _⟩
  refine Result.ends_of_safe (safe_top keeps within depth (fun present same => ?_) machine custody)
  cases same
  exact listed

end Covering

end Evaluate

namespace Component

variable {component : Component}

theorem name_of_lists {name : String} {arguments : List Argument} {declared : Value}
    (listed : component.Lists (.function name arguments declared)) : name ∈
    component.formulaReferences := by
  obtain ⟨visit, member, same⟩ := listed
  refine mem_sorted_names.mpr (List.mem_flatMap.mpr ⟨visit, member, ?_⟩)
  simp only [FormulaVisit.references, same]
  split <;> exact List.mem_cons_self

theorem qualified_of_visit {visit : FormulaVisit} (member : visit ∈ component.formulaVisits .null)
    {name : String}
    {arguments : List Argument} {declared : Value}
    (same : visit.formula = .function name arguments declared)
    (filled : visit.package.isFilled = true) : visit.package.qualify name ∈
    component.formulaReferences := by
  refine mem_sorted_names.mpr (List.mem_flatMap.mpr ⟨visit, member, ?_⟩)
  simp [FormulaVisit.references, same, filled]

end Component

/-! ### Handlers that call what they are given -/

namespace Arguments

variable {known : Nat → Prop} {arguments : Arguments}

theorem Within.need (within : arguments.Within known) {name : String} {content : Value}
    (found : arguments.need name = .ok content) : content.Within known := by
  cases arguments with
  | positional items => cases found
  | named entries =>
      simp only [Arguments.need] at found
      split at found
      · rename_i content present
        cases found
        exact Entries.Within.found within present
      · cases found

theorem Within.get (within : arguments.Within known) (name : String) :
    (arguments.get name).Within known := by
  cases arguments with
  | positional items => exact Value.within_null
  | named entries =>
      exact Value.within_of_optional fun value present => Entries.Within.found within present

theorem Within.function (within : arguments.Within known) {content : Value}
    (found : arguments.function = .ok content) : content.Within known := by
  unfold Arguments.function at found
  split at found
  · cases found
    exact within _ List.mem_cons_self
  · cases found
  · exact within.need found

end Arguments

namespace Evaluate

/-- As `callingEnvironment`, with a component. -/
def callingFor (component : Component) : Environment := fun host =>
  { callingEnvironment host with component := some component }

theorem honest_call : Stock.call.IsHonest := by
  intro known arguments view given _
  have concluded : ∀ outcome, (∀ value, outcome = .ok value → value.Within known) →
      (Stock.conclude outcome).Uses known := by
    intro outcome within
    cases outcome with
    | ok value => exact within value rfl
    | error failure => trivial
  unfold Stock.call
  split
  · trivial
  · rename_i function found
    unfold Stock.callValue
    split
    · rename_i handle tag
      refine ⟨given.function found handle (.here tag), given.get "with",
        fun value within => ?_, fun failure => trivial⟩
      exact concluded _ fun _ same => by cases same; exact within
    · exact concluded _ nofun

theorem honest_all : Stock.all.IsHonest := by
  intro known arguments view given _
  cases arguments with
  | named entries => exact Value.within_mapping given
  | positional items => exact Value.within_list given

theorem calling_for_encloses {source : Value} (json : source.IsJson) {component : Component}
    (read : Component.read source = .ok (some component)) (host : Nat) :
    (callingFor component).Encloses host component where
  own := rfl
  undefined := by
    rintro definition ⟨package, table, name, inside, member⟩
    cases List.mem_singleton.mp inside
    simp at member
  honest := by
    intro handler registered
    rcases registered_cases registered with held | ⟨key, member⟩
    · rcases calling_handlers host held with rfl | rfl
      · exact honest_call
      · exact honest_all
    · cases member
  bare := by
    rintro _ ⟨visit, member, rfl⟩
    exact Component.bare_of_visit json read member

/-! ### Lookups against references -/

/-- The references of a component have every name that evaluating one of its formulas looks up.
Evaluation that comes to an end goes as it does while it is watched. -/
theorem lookups_are_referenced {environment : Environment}
    {context : Context} {component : Component}
    (enclosed : environment.Encloses context.host component) (data : context.data.HasNoClosures)
    (packaged : context.package.HasNoClosures) {machine : Machine}
    (empty : ∀ memo, (machine.host context.host).memo = some memo → memo.entries = [])
    {scope : Value}
    {visit : FormulaVisit} (visited : visit ∈ component.formulaVisits scope) (depth : Value) :
    AsksOnly (fun name _ => name ∈ component.formulaReferences) environment
      visit.formula context depth machine ∧
    ∀ fuel, evaluate environment fuel (some visit.formula) context depth machine ≠ .exhausted →
      evaluateTop (lookingUp (fun name _ => name ∈ component.formulaReferences) environment fuel)
        context depth
        (some visit.formula) machine = evaluate environment fuel
        (some visit.formula) context depth machine := by
  have asks : AsksOnly (fun name _ => name ∈ component.formulaReferences) environment
      visit.formula context depth machine := by
    refine asks_only_of_listed enclosed data packaged empty
      (fun name arguments declared listed => ?_) (Component.lists_of_visit visited) depth
    exact Component.name_of_lists listed
  exact ⟨asks, fun _ => asks.follows⟩

open Value in
def cartPage : Value :=
  object [("name", text "Cart"),
    ("formulas", object [
      ("total", object
        [("memoize", bool true),
          ("formula", object [("type", text "function"), ("name", text "args"),
        ("arguments", list [object [("name", text "price"),
          ("formula", object
            [("type", text "path"), ("path", list [text "Variables", text "price"])])]])])]),
      ("checkout", object [("formula", object [("type", text "function"), ("name", text "call"),
        ("arguments", list [object [("name", text "fn"), ("isFunction", bool true),
          ("formula", object [("type", text "apply"), ("name", text "total")])]])])])])]

theorem cart_page_is_json : cartPage.IsJson := by
  simp [cartPage, Value.IsJson, Value.object, Value.content?, Value.contents?,
    Value.fields?, Scalar.content?, Scalar.text?, Content.ofFields?]

def checkout : Formula :=
  .function "call" [.mk (some (.apply "total" [])) (.text "fn") true] .null

def cart : Component :=
  Component.ofFormulas "Cart"
    [("total", { name := .text "total", arguments := [], memoize := true, isExposed := false,
                 formula := some (.function "args"
                   [.mk (some (.path ["Variables", "price"])) (.text "price") false] .null) }),
     ("checkout", { name := .text "checkout", formula := some checkout,
                    arguments := [], memoize := false, isExposed := false })]

theorem cart_is_read : Component.read cartPage = .ok (some cart) :=
  rfl

def cartContext : Context :=
  Context.lone (.object [("Variables", .object [("price", .int 7)])])

def cartMachine : Machine :=
  (Machine.lone Limits.standard 5).modifyHost 0 fun state => { state with memo := some Memo.empty }

theorem cart_lookups_are_referenced : (callingFor cart).Encloses 0 cart ∧
    (∃ visit ∈ cart.formulaVisits .null, visit.formula = checkout) ∧
    AsksOnly (fun name _ => name ∈ cart.formulaReferences)
      (callingFor cart) checkout cartContext (.int 0) cartMachine ∧
    ∃ last, evaluateTop
      (lookingUp (fun name _ => name ∈ cart.formulaReferences) (callingFor cart) 6) cartContext
      (.int 0) (some checkout) cartMachine = .done (.object [("price", .int 7)]) last := by
  have enclosed := calling_for_encloses cart_page_is_json cart_is_read 0
  have data : cartContext.data.HasNoClosures := by
    refine Value.no_closures_of_json ?_
    simp [cartContext, Context.lone, Value.IsJson, Value.object, Value.content?,
      Value.fields?, Scalar.content?, Scalar.text?, Content.ofFields?]
  have empty : ∀ memo, (cartMachine.host cartContext.host).memo = some memo →
      memo.entries = [] := by
    intro memo present
    cases present
    rfl
  have visited : ∃ visit ∈ cart.formulaVisits .null, visit.formula = checkout :=
    ⟨_, List.mem_of_getElem? (i := 2) rfl, rfl⟩
  obtain ⟨visit, member, same⟩ := visited
  have packaged : cartContext.package.HasNoClosures :=
    Value.no_closures_of_unfilled Bool.false_ne_true
  obtain ⟨asks, follows⟩ := lookups_are_referenced enclosed data packaged empty member (.int 0)
  rw [same] at asks follows
  refine ⟨enclosed, ⟨visit, member, same⟩, asks, ?_⟩
  have answered : ∃ last, evaluate (callingFor cart) 6
      (some checkout) cartContext (.int 0) cartMachine =
      .done (.object [("price", .int 7)]) last := ⟨_, rfl⟩
  obtain ⟨last, ended⟩ := answered
  have reached :=
    Result.not_exhausted_of_state (congrArg (fun result => result.state?.isSome) ended)
  exact ⟨last, (follows 6 reached).trans ended⟩

/-- What is looked up in a package, though the context has none, is a function that declares the
package itself.  The references have its name, and its name qualified by the package that it stands
in, where that is filled. -/
theorem packages_asked_are_declared {environment : Environment}
    {context : Context} {component : Component}
    (enclosed : environment.Encloses context.host component) (data : context.data.HasNoClosures)
    (unpackaged : ¬context.package.isFilled = true) {machine : Machine}
    (empty : ∀ memo, (machine.host context.host).memo = some memo → memo.entries = [])
    {scope : Value}
    {visit : FormulaVisit} (visited : visit ∈ component.formulaVisits scope) (depth : Value) :
    AsksOnly (fun name package => package.isFilled = true →
      ∃ asking ∈ component.formulaVisits .null,
        (∃ arguments, asking.formula = .function name arguments package) ∧
        name ∈ component.formulaReferences ∧
        (asking.package.isFilled = true →
          asking.package.qualify name ∈ component.formulaReferences))
      environment visit.formula context depth machine := by
  refine asks_only_of_listed enclosed data (Value.no_closures_of_unfilled unpackaged) empty
    (fun name arguments declared listed filled => ?_) (Component.lists_of_visit visited) depth
  -- the package of the context is unfilled, so a filled one was declared
  have own : declared.orElse context.package = declared := by
    unfold Value.orElse at filled ⊢
    split
    · rfl
    · rename_i bare
      rw [if_neg bare] at filled
      exact absurd filled unpackaged
  obtain ⟨asking, member, same⟩ := listed
  refine ⟨asking, member, ⟨arguments, own.symm ▸ same⟩, Component.name_of_lists
    ⟨asking, member, same⟩, ?_⟩
  exact Component.qualified_of_visit member (own.symm ▸ same)

open Value in
def reportPage : Value :=
  object [("name", text "Report"),
    ("formulas", object
      [("total", object [("formula", object [("type", text "function"), ("name", text "sum"),
      ("package", text "math")])])])]

theorem report_page_is_json : reportPage.IsJson := by
  simp [reportPage, Value.IsJson, Value.object, Value.content?, Value.fields?,
    Scalar.content?, Scalar.text?, Content.ofFields?]

def sumOfPackage : Formula :=
  .function "sum" [] (.text "math")

def report : Component :=
  Component.ofFormulas "Report"
    [("total", { name := .text "total", arguments := [], memoize := false, isExposed := false,
                 formula := some sumOfPackage })]

theorem report_is_read : Component.read reportPage = .ok (some report) :=
  rfl

theorem report_asks_in_declared_package : (callingFor report).Encloses 0 report ∧
    (∃ visit ∈ report.formulaVisits .null, visit.formula = sumOfPackage) ∧
    AsksOnly (fun name package => package.isFilled = true → ∃ asking ∈ report.formulaVisits .null,
        (∃ arguments, asking.formula = .function name arguments package) ∧
        name ∈ report.formulaReferences ∧
        (asking.package.isFilled = true → asking.package.qualify name ∈ report.formulaReferences))
      (callingFor report) sumOfPackage (Context.lone (.mapping [])) (.int 0)
        (Machine.lone Limits.standard 5) := by
  have enclosed := calling_for_encloses report_page_is_json report_is_read 0
  have data : (Context.lone (.mapping [])).data.HasNoClosures := Value.no_closures_of_unfilled nofun
  obtain ⟨visit, member, same⟩ : ∃ visit ∈ report.formulaVisits .null,
      visit.formula = sumOfPackage :=
    ⟨_, List.mem_of_getElem? (i := 0) rfl, rfl⟩
  have empty : ∀ memo, ((Machine.lone Limits.standard 5).host 0).memo = some memo →
      memo.entries = [] := nofun
  have asks := packages_asked_are_declared enclosed data nofun empty member (.int 0)
  rw [same] at asks
  exact ⟨enclosed, ⟨visit, member, same⟩, asks⟩

/-- The report looks its function up in the package, and its references do not have the name
qualified by it. -/
theorem declared_packages_are_not_referenced : (callingFor report).Encloses 0 report ∧
    (∃ visit ∈ report.formulaVisits .null, visit.formula = sumOfPackage) ∧
    (∃ last, evaluate (callingFor report) 1 (some sumOfPackage)
      (Context.lone (.mapping [])) (.int 0) (Machine.lone Limits.standard 5) = .done .null last) ∧
    ¬AsksOnly (fun name package => package.isFilled = true →
      package.qualify name ∈ report.formulaReferences)
      (callingFor report) sumOfPackage (Context.lone (.mapping [])) (.int 0)
      (Machine.lone Limits.standard 5) := by
  have missing : "math/sum" ∉ report.formulaReferences := by
    rw [Component.formulaReferences, mem_sorted_names]
    decide
  refine ⟨calling_for_encloses report_page_is_json report_is_read 0,
    ⟨_, List.mem_of_getElem? (i := 0) rfl, rfl⟩, ⟨_, rfl⟩, fun asks => asks 1 ?_⟩
  -- the only lookup is refused
  have refused :
      ¬((Value.text "math").isFilled = true → (Value.text "math").qualify "sum" ∈
        report.formulaReferences) :=
    fun all => missing (all rfl)
  have broken : lookingUp (fun name package => package.isFilled = true →
      package.qualify name ∈ report.formulaReferences) (callingFor report) 1 sumOfPackage
        (Context.lone (.mapping [])) (.int 0) =
      evaluateBy (callingFor report) (Context.lone (.mapping []))
        (.int 0) Run.exhaust sumOfPackage :=
    congrArg (fun work => evaluateBy (callingFor report) (Context.lone (.mapping []))
      (.int 0) work sumOfPackage) (dispatch_of_refused refused)
  rw [evaluateTop, broken]
  rfl

end Evaluate
end Interplay
