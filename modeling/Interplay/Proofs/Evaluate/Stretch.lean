import Interplay.Evaluate.Stock
import Interplay.Proofs.Evaluate.Watch
import Interplay.Proofs.Value.Whole

/-!
Calls of closures under the depth ceiling.

A closure is evaluated one level below the depth at which it was made, and that may be above the
node that calls it.  Between two such calls evaluation only goes deeper, so it covers no more levels
than the ceiling allows; the ceiling does not bound how many of these stretches are nested.
Evaluation comes to an end exactly if they are bounded, and a closure that is handed to itself shows
that they need not be.
-/

namespace Interplay
namespace Evaluate

open Run

def isDeeper : Value → Value → Bool
  | .int next, .int depth => decide (depth < next)
  | _, _ => false

theorem is_deeper_int (next level : Nat) : isDeeper (.int next) (.int level) =
    decide (level < next) := by
  simp only [isDeeper, Int.ofNat_lt]

/-- Evaluation for a number of levels, every one deeper than the last; nodes that are not deeper
than the one that asks for them are left to another evaluator. -/
def stretch (environment : Environment) (others : Evaluator) : Nat → Evaluator
  | 0 => evaluateWith environment fun _ _ _ => pure .null
  | levels + 1 => fun formula context depth =>
    evaluateWith environment
      (fun smaller inner next =>
        if isDeeper next depth then stretch environment others levels smaller inner next
        else others smaller inner next)
      formula context depth

/-- Evaluation that is broken off only where more stretches are nested than a number allows. -/
def stretches (environment : Environment) (ceiling : Int) : Nat → Evaluator
  | 0 => fun _ _ _ => Run.exhaust
  | count + 1 => stretch environment (stretches environment ceiling count) (ceiling + 1).toNat

/-- The ceiling is fixed and closures were made at whole depths from zero on. -/
structure Leveled (ceiling : Int) (machine : Machine) : Prop where
  limit : machine.limits.ceiling "formula" "max_depth" = .int ceiling
  closures : ∀ (handle : Nat) closure, machine.closures[handle]? = some closure →
    ∃ level : Nat, closure.depth = .int level

theorem leveled_grounded {ceiling : Int} : Machine.Grounded (Leveled ceiling) := by
  intro before after same leveled
  refine ⟨?_, ?_⟩
  · rw [same.limits]
    exact leveled.limit
  · rw [same.closures]
    exact leveled.closures

theorem leveled_new_closure {ceiling : Int} {formula : Option Formula}
    {context : Context} {level : Nat} {machine : Machine} (leveled : Leveled ceiling machine) :
    Leveled ceiling
      (machine.newClosure { formula := formula, context := context, depth := .int level }).2 := by
  refine ⟨leveled.limit, fun handle closure found => ?_⟩
  simp only [Machine.newClosure, Array.getElem?_push] at found
  split at found
  · cases found
    exact ⟨level, rfl⟩
  · exact leveled.closures handle closure found

section Nodes

variable {environment : Environment} {ceiling : Int} {lost : Prop}

theorem tracks_invoke_of_levels {first second : Evaluator} (handle : Nat) (arguments : Value)
    (calls : ∀ (next : Nat) formula inner, Tracks lost (Leveled ceiling)
      (first formula inner (.int next)) (second formula inner (.int next))) :
    Tracks lost (Leveled ceiling) (invoke first handle arguments)
      (invoke second handle arguments) := by
  refine tracks_invoke handle arguments (fun _ _ _ _ => leveled_grounded.tolerant _)
    fun machine closure inner below formula leveled found _ next _ => ?_
  obtain ⟨made, known⟩ := leveled.closures handle closure found
  rw [known] at next
  cases next
  exact calls (made + 1) formula inner

variable {invoking : Prop}

/-- A node makes requests that track if the nodes below it do, and those of closures if they may be
called. -/
theorem requests_of_levels {first second : Evaluator}
    (confined : ∀ host, environment.Confined invoking False host) (level : Nat)
    (deeper : ∀ formula inner, Tracks lost (Leveled ceiling)
      (first formula inner (.int (level + 1 : Nat)))
      (second formula inner (.int (level + 1 : Nat))))
    (calls : invoking → ∀ (next : Nat) formula inner, Tracks lost (Leveled ceiling)
      (first formula inner (.int next)) (second formula inner (.int next))) (context : Context) :
    Requests lost (Leveled ceiling) environment first second context (.int level) := by
  have below : ∀ inner formula, Tracks lost (Leveled ceiling)
      (evaluateBelow first inner (.int level) formula)
      (evaluateBelow second inner (.int level) formula) := by
    intro inner
    refine tracks_below fun next is_next present => ?_
    cases is_next
    exact deeper present inner
  refine ⟨⟨fun _ _ leveled => leveled_new_closure leveled, below context⟩,
    leveled_grounded.tolerant _, ?_, ?_⟩
  · intro inner key fingerprint body _
    refine tracks_guarded leveled_grounded.trailing (below inner) (fun key body => ?_) _ _ _
    refine Machine.tracks_under_key (below inner body) (fun _ _ leveled _ => ?_) fun _ leveled => ?_
    · exact ⟨leveled.limit, leveled.closures⟩
    · exact ⟨leveled.limit, leveled.closures⟩
  · refine tracks_called (leveled_grounded.tolerant context.host) (confined context.host)
      (fun invokes handle arguments => ?_) False.elim
    exact tracks_invoke_of_levels handle arguments (calls invokes)

/-- A node within its levels tracks if nodes do which it may ask for, whether deeper or not. -/
theorem node_tracks_of_levels {first second : Evaluator}
    (confined : ∀ host, environment.Confined invoking False host)
    (level : Nat) (formula : Formula) (context : Context)
    (deeper : (level : Int) ≤ ceiling → ∀ smaller inner, Tracks lost (Leveled ceiling)
      (first smaller inner (.int (level + 1 : Nat)))
      (second smaller inner (.int (level + 1 : Nat))))
    (calls : (level : Int) ≤ ceiling → invoking → ∀ (next : Nat) smaller inner,
      Tracks lost (Leveled ceiling) (first smaller inner (.int next))
        (second smaller inner (.int next))) :
    Tracks lost (Leveled ceiling) (evaluateWith environment first formula context (.int level))
      (evaluateWith environment second formula context (.int level)) := by
  refine tracks_evaluate_with (leveled_grounded.tolerant _) formula fun machine leveled passed =>
    tracks_dispatch ?_ formula
  have within := (Limits.check_passes_iff leveled.limit).mp passed
  exact requests_of_levels confined level (deeper within) (calls within) context

theorem calling_node_tracks {first second : Evaluator}
    (confined : ∀ host, environment.Confined True False host)
    (level : Nat) (formula : Formula) (context : Context)
    (nodes : (level : Int) ≤ ceiling → ∀ (next : Nat) smaller inner,
      Tracks lost (Leveled ceiling) (first smaller inner (.int next))
        (second smaller inner (.int next))) :
    Tracks lost (Leveled ceiling) (evaluateWith environment first formula context (.int level))
      (evaluateWith environment second formula context (.int level)) :=
  node_tracks_of_levels confined level formula context (fun within => nodes within (level + 1))
    fun within _ => nodes within

/-- Without calls of closures, evaluation ends as soon as there is fuel for the levels that are
left. -/
theorem plain_node_ends (confined : ∀ host, environment.Confined False False host)
    (fuel level : Nat)
    (enough : ceiling + 2 ≤ fuel + level) (fueled : 0 < fuel)
    (formula : Formula) (context : Context) :
    Tracks False (Leveled ceiling) (evaluateNode environment fuel formula context (.int level))
      (evaluateNode environment fuel formula context (.int level)) := by
  induction fuel generalizing level formula context with
  | zero => exact absurd fueled (Nat.lt_irrefl 0)
  | succ fuel ih =>
      refine node_tracks_of_levels confined level formula context (fun within smaller inner => ?_)
        fun _ impossible => impossible.elim
      exact ih (level + 1) (by omega) (by omega) smaller inner

/-- A stretch that has levels left down to the ceiling is evaluation itself, as far as the others
are. -/
theorem stretch_tracks (confined : ∀ host, environment.Confined True False host)
    {others : Evaluator} {fuel : Nat} (rest : ∀ more, fuel ≤ more → ∀ (next : Nat) formula context,
      Tracks True (Leveled ceiling) (others formula context (.int next))
        (evaluateNode environment more formula context (.int next)))
    (levels more level : Nat) (enough : fuel + levels < more)
      (deep : ceiling < (levels + level : Nat))
    (formula : Formula) (context : Context) :
    Tracks True (Leveled ceiling) (stretch environment others levels formula context (.int level))
      (evaluateNode environment more formula context (.int level)) := by
  induction levels generalizing more level formula context with
  | zero =>
      obtain ⟨less, rfl⟩ : ∃ less, more = less + 1 := ⟨more - 1, by omega⟩
      exact calling_node_tracks confined level formula context fun within => by omega
  | succ levels ih =>
      obtain ⟨less, rfl⟩ : ∃ less, more = less + 1 := ⟨more - 1, by omega⟩
      refine calling_node_tracks confined level formula context fun _ next smaller inner => ?_
      by_cases deeper : level < next
      · simp only [is_deeper_int, deeper, decide_true, if_true]
        exact ih less next (by omega) (by omega) smaller inner
      · simp only [is_deeper_int, deeper, decide_false, Bool.false_eq_true, if_false]
        exact rest less (by omega) next smaller inner

theorem stretches_track (confined : ∀ host, environment.Confined True False host) (count more : Nat)
    (enough : count * ((ceiling + 1).toNat + 1) ≤ more) (level : Nat)
    (formula : Formula) (context : Context) :
    Tracks True (Leveled ceiling) (stretches environment ceiling count formula context (.int level))
      (evaluateNode environment more formula context (.int level)) := by
  induction count generalizing more level formula context with
  | zero => exact tracks_exhaust trivial _
  | succ count ih =>
      have split : (count + 1) * ((ceiling + 1).toNat + 1) =
          count * ((ceiling + 1).toNat + 1) + (ceiling + 1).toNat + 1 := by
        rw [Nat.succ_mul, Nat.add_assoc]
      have rest := fun fuel (less : count * ((ceiling + 1).toNat + 1) ≤ fuel)
          (next : Nat) smaller inner =>
        ih fuel less next smaller inner
      exact stretch_tracks confined rest _ more level (by omega) (by omega) formula context

theorem evaluation_tracks_stretch (confined : ∀ host, environment.Confined True False host)
    (fuel : Nat)
    (levels count level : Nat) (enough : fuel ≤ count + 1) (deep : ceiling < (levels + level : Nat))
    (formula : Formula) (context : Context) :
    Tracks True (Leveled ceiling) (evaluateNode environment fuel formula context (.int level))
      (stretch environment (stretches environment ceiling count) levels formula context
        (.int level)) := by
  induction fuel generalizing levels count level formula context with
  | zero => exact tracks_exhaust trivial _
  | succ fuel ih =>
      cases levels with
      | zero => exact calling_node_tracks confined level formula context fun within => by omega
      | succ levels =>
          refine calling_node_tracks confined level formula context fun _ next smaller inner => ?_
          by_cases deeper : level < next
          · simp only [is_deeper_int, deeper, decide_true, if_true]
            exact ih levels count next (by omega) (by omega) smaller inner
          · simp only [is_deeper_int, deeper, decide_false, Bool.false_eq_true, if_false]
            -- A call that leads no deeper starts a stretch of its own.
            cases count with
            | zero =>
                obtain rfl : fuel = 0 := by omega
                exact tracks_exhaust trivial _
            | succ count => exact ih _ count next (by omega) (by omega) smaller inner

/-- Evaluation with handlers that may call closures comes to an end exactly if the number of nested
stretches is bounded; then both have the same result, and fuel for the levels of every stretch is
enough. -/
theorem evaluation_ends_iff_stretches_bounded {context : Context} {machine : Machine}
    (formula : Option Formula)
    (level : Nat) (confined : ∀ host, environment.Confined True False host)
    (leveled : Leveled ceiling machine) :
    ((∃ fuel, evaluate environment fuel formula context (.int level) machine ≠ .exhausted) ↔
      ∃ count, evaluateTop (stretches environment ceiling count) context
        (.int level) formula machine ≠ .exhausted) ∧
    ∀ count, evaluateTop (stretches environment ceiling count) context
      (.int level) formula machine ≠ .exhausted →
      ∀ fuel, count * ((ceiling + 1).toNat + 1) ≤ fuel →
        evaluate environment fuel formula context (.int level) machine =
          evaluateTop (stretches environment ceiling count) context
            (.int level) formula machine := by
  have enough : ∀ count,
      evaluateTop (stretches environment ceiling count) context
        (.int level) formula machine ≠ .exhausted →
      ∀ fuel, count * ((ceiling + 1).toNat + 1) ≤ fuel →
        evaluate environment fuel formula context (.int level) machine =
          evaluateTop (stretches environment ceiling count) context
            (.int level) formula machine := by
    intro count ends fuel enough
    have tracks : Tracks True (Leveled ceiling)
        (evaluateTop (stretches environment ceiling count) context (.int level) formula)
        (evaluate environment fuel formula context (.int level)) :=
      tracks_evaluate_top (leveled_grounded.tolerant _) fun present _ =>
        stretches_track confined count fuel enough level present context
    exact Result.eq_of_tracks (tracks machine leveled) ends
  refine ⟨⟨?_, ?_⟩, enough⟩
  · rintro ⟨fuel, ends⟩
    have tracks : Tracks True (Leveled ceiling)
        (evaluate environment fuel formula context (.int level))
        (evaluateTop (stretches environment ceiling (fuel + 1)) context (.int level) formula) :=
      tracks_evaluate_top (leveled_grounded.tolerant _) fun present _ =>
        evaluation_tracks_stretch confined fuel _ fuel level (by omega) (by omega) present context
    refine ⟨fuel + 1, ?_⟩
    rw [Result.eq_of_tracks (tracks machine leveled) ends]
    exact ends
  · rintro ⟨count, ends⟩
    exact ⟨_, by rw [enough count ends _ (Nat.le_refl _)]; exact ends⟩

end Nodes

def passedArguments : List Argument :=
  [.mk (some (.path ["Args", "f"])) (.text "fn") false,
    .mk (some (.path ["Args"])) (.text "with") false]

def passedOn : Formula :=
  .function "call" passedArguments .null

/-- Calls a function that is handed to itself. -/
def selfApplied : Formula :=
  .function "call"
    [.mk (some passedOn) (.text "fn") true,
     .mk (some (.function "args" [.mk (some passedOn) (.text "f") true] .null))
       (.text "with") false] .null

/-- Handlers that call a closure and that give their arguments back. -/
def callingEnvironment : Environment := fun _ =>
  { formulas :=
      { packages := [(Catalog.root,
          [(.text "call", some (.handler Stock.call)), (.text "args", some (.handler Stock.all))])]
        legacy := [] }
    component := none
    logErrors := false }

def selfClosure : Value :=
  .closure 1 (closureTag (some passedOn))

def selfArguments : Entries :=
  [(.text "f", selfClosure)]

def selfContext : Context :=
  Context.lone (.mapping [(.text "Args", .mapping selfArguments)])

theorem calling_handlers (host : Nat) {handler : FormulaHandler}
    (held : (callingEnvironment host).formulas.Holds (.handler handler)) :
    handler = Stock.call ∨ handler = Stock.all := by
  obtain ⟨package, table, name, inside, member⟩ := held
  obtain ⟨rfl, rfl⟩ : package = Catalog.root ∧
      table = [(.text "call", some (.handler Stock.call)),
        (.text "args", some (.handler Stock.all))] := by
    simpa [callingEnvironment] using inside
  simp only [List.mem_cons, Prod.mk.injEq, Option.some.injEq,
    FormulaEntry.handler.injEq, List.not_mem_nil, or_false] at member
  exact member.imp And.right And.right

theorem calling_environment_confined (host : Nat) :
    callingEnvironment.Confined True False host := by
  refine Environment.confined_of_registered ?_ (by simp [callingEnvironment])
  intro handler held arguments view
  rcases calling_handlers host held with rfl | rfl
  · unfold Stock.call
    split
    · trivial
    · unfold Stock.callValue
      have concluded : ∀ outcome, (Stock.conclude outcome).Confined True False := by
        intro outcome
        cases outcome <;> trivial
      split
      · exact ⟨trivial, concluded⟩
      · exact concluded _
  · trivial

/-- Calls a function, two levels down, that was made one level down: the call leads no deeper. -/
def calledFromBelow : Formula :=
  .function "call"
    [.mk (some (.array
      [.mk (some (.function "call" [.mk (some (.path ["Args", "f"])) (.text "fn") false] .null))
        .null false])) (.text "fn") true,
     .mk (some (.function "args" [.mk (some (.value (.int 7))) (.text "f") true] .null))
       (.text "with") false] .null

/-- One stretch is not enough for such a call, and two are. -/
theorem called_from_below_ends :
    evaluateTop (stretches callingEnvironment 256 1) (Context.lone (.mapping [])) (.int (0 : Nat))
      (some calledFromBelow) (Machine.lone Limits.standard 100) = .exhausted ∧
    ∃ after, ∀ fuel, 2 * ((256 + 1 : Int).toNat + 1) ≤ fuel →
      evaluate callingEnvironment fuel (some calledFromBelow)
        (Context.lone (.mapping [])) (.int (0 : Nat))
        (Machine.lone Limits.standard 100) = .done (.list [.int 7]) after := by
  have leveled : Leveled 256 (Machine.lone Limits.standard 100) :=
    ⟨rfl, fun _ _ found => by simp [Machine.lone] at found⟩
  have both : ∃ after, evaluateTop (stretches callingEnvironment 256 2)
      (Context.lone (.mapping [])) (.int (0 : Nat))
      (some calledFromBelow) (Machine.lone Limits.standard 100) = .done (.list [.int 7]) after :=
    ⟨_, rfl⟩
  obtain ⟨after, ended⟩ := both
  refine ⟨rfl, after, fun fuel enough => ?_⟩
  have same := (evaluation_ends_iff_stretches_bounded
    (some calledFromBelow) 0 calling_environment_confined leveled).2 2
    (by rw [ended]; exact fun impossible => by cases impossible) fuel enough
  exact same.trans ended

theorem path_node {environment : Environment} {fuel : Nat}
    {segments : List String} {context : Context}
    {depth content : Value} {machine : Machine}
    (passed : machine.limits.check "formula" "max_depth" depth = .ok ())
    (walked : Path.walk segments context.data = .ok content) :
    evaluateNode environment (fuel + 1) (.path segments) context depth machine =
    .done content machine := by
  simp only [evaluateNode, evaluateWith, bind, Run.bind, Run.get, passed, attempt, dispatch, walked]
  rfl

theorem call_node_lost {fuel : Nat} {context : Context} {depth : Value} {machine : Machine}
    {arguments : List Argument}
    (rooted : context.package = .null)
    (passed : machine.limits.check "formula" "max_depth" depth = .ok ())
    (lost : namedArguments (evaluateNode callingEnvironment fuel) context depth arguments machine =
      .exhausted ∨
      ∃ entries after, namedArguments (evaluateNode callingEnvironment fuel) context
        depth arguments machine =
          .done entries after ∧
        callHandler callingEnvironment (evaluateNode callingEnvironment fuel) context Stock.call
          (.named entries) after =
          .exhausted) :
    evaluateNode callingEnvironment (fuel + 1)
      (.function "call" arguments .null) context depth machine = .exhausted := by
  have resolved : (callingEnvironment context.host).formulas.resolve (.text "call")
      (Value.null.orElse context.package) =
      .ok (some (.versioned (.handler Stock.call) .null)) := by
    rw [rooted]
    rfl
  have dispatched : dispatch callingEnvironment (evaluateNode callingEnvironment fuel)
      (.function "call" arguments .null) context depth machine = .exhausted := by
    simp only [dispatch, evaluateFunction, callFound, lookUp, resolved]
    rcases lost with lost | ⟨entries, after, known, lost⟩
    · exact (bind_of_done rfl).trans (bind_of_exhausted lost)
    · exact (bind_of_done rfl).trans ((bind_of_done known).trans lost)
  simp only [evaluateNode, evaluateWith, bind, Run.bind, Run.get, passed, attempt, dispatched]

theorem passed_on_arguments (fuel level : Nat) {machine : Machine}
    (passed : machine.limits.check "formula" "max_depth" (.int (level + 1)) = .ok ()) :
    namedArguments (evaluateNode callingEnvironment fuel) selfContext
      (.int level) passedArguments machine =
        .exhausted ∨
      namedArguments (evaluateNode callingEnvironment fuel) selfContext
        (.int level) passedArguments machine =
        .done [(.text "fn", selfClosure), (.text "with", .mapping selfArguments)] machine := by
  cases fuel with
  | zero => exact .inl rfl
  | succ fuel =>
      have function : evaluateArgument (evaluateNode callingEnvironment (fuel + 1)) selfContext
          (.int level)
          (.mk (some (.path ["Args", "f"])) (.text "fn") false) machine =
          .done selfClosure machine :=
        path_node passed rfl
      have given : evaluateArgument (evaluateNode callingEnvironment (fuel + 1)) selfContext
          (.int level)
          (.mk (some (.path ["Args"])) (.text "with") false) machine = .done
          (.mapping selfArguments) machine :=
        path_node passed rfl
      exact .inr ((bind_of_done function).trans (bind_of_done given))

theorem call_lost {evaluator : Evaluator} {machine : Machine} {made : Nat} {handle : Nat}
    (kept : machine.closures[handle]? =
      some { formula := some passedOn, context := Context.lone (.mapping []), depth := .int made })
    (lost : evaluator passedOn selfContext (.int (made + 1)) machine = .exhausted)
      (context : Context) :
    callHandler callingEnvironment evaluator context Stock.call
      (.named [(.text "fn", .closure handle (closureTag (some passedOn))),
        (.text "with", .mapping selfArguments)])
      machine = .exhausted := by
  have invoked : invoke evaluator handle (.mapping selfArguments) machine = .exhausted := by
    simp only [invoke, bind, Run.bind, Run.get, kept]
    change evaluateTop evaluator selfContext (.int (made + 1)) (some passedOn) machine = .exhausted
    unfold evaluateTop
    dsimp only
    split
    · simp only [Machine.timed, followedBy, lost]
    · exact lost
  have attempted : attempt (invoke evaluator handle (.mapping selfArguments)) machine =
      .exhausted := by
    simp only [attempt, invoked]
  exact bind_of_exhausted attempted

theorem passed_on_never_ends (fuel level : Nat) (shallow : level ≤ 2) {machine : Machine}
    (standard : machine.limits = Limits.standard)
    (kept : machine.closures[1]? =
      some { formula := some passedOn, context := Context.lone (.mapping []), depth := .int (1 : Nat) }) :
    evaluateNode callingEnvironment fuel passedOn selfContext (.int level) machine = .exhausted := by
  induction fuel generalizing level with
  | zero => rfl
  | succ fuel ih =>
      have limited : machine.limits.ceiling "formula" "max_depth" = .int 256 := by
        rw [standard]
        rfl
      have passed : machine.limits.check "formula" "max_depth" (.int level) = .ok () :=
        Limits.check_within limited (by omega)
      have below : machine.limits.check "formula" "max_depth" (.int (level + 1)) = .ok () :=
        Limits.check_within limited (by omega)
      refine call_node_lost rfl passed ?_
      rcases passed_on_arguments fuel level below with lost | known
      · exact .inl lost
      · exact .inr ⟨_, machine, known, call_lost kept (ih 2 (Nat.le_refl 2)) selfContext⟩

theorem self_applied_never_ends :
    ¬∃ fuel, evaluate callingEnvironment fuel (some selfApplied)
      (Context.lone (.mapping [])) (.int 0) (Machine.lone Limits.standard 100) ≠ .exhausted := by
  rintro ⟨fuel, ends⟩
  apply ends
  match fuel with
  | 0 => rfl
  | 1 => rfl
  | fuel + 2 =>
    refine call_node_lost rfl rfl (.inr ⟨_, _, rfl, ?_⟩)
    exact call_lost rfl (passed_on_never_ends (fuel + 1) 1 (by omega) rfl rfl) _

end Evaluate
end Interplay
