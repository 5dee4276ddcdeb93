import Interplay.Proofs.Evaluate.Ceilings
import Interplay.Proofs.Execute.Requests

/-!
Ceilings only ever cut.

A run in which no ceiling was exceeded, and no workflow was running too often, is the same under all
raised ceilings.  Whether that happened is seen in a rehearsal of the run, whose sinks have room for
every fault.
-/

namespace Interplay
namespace Execute

open Run

namespace World

/-- The same world under other ceilings. -/
def under (limits : Limits) (recursion : Nat → Value) (world : World) : World :=
  world.modifyStage fun stage =>
    { stage with
      machine := { stage.machine with limits := limits }
      workflows := stage.workflows.mapIdx fun number running => running.under (recursion number) }

def recursions (world : World) (number : Nat) : Value :=
  (world.workflows number).maxRecursion

/-- The same world with empty sinks that have some room. -/
def rehearsing (room : Int) (world : World) : World :=
  world.modifyMachine (Machine.rehearsing room)

/-- The world that a rehearsing one stands for: the sinks that there were at the start take what it
took. -/
def replaying (start world : World) : World :=
  world.modifyMachine fun machine =>
    { machine with
      hosts := machine.hosts.mapIdx fun number state =>
        { state with sink := state.sink.replay (start.machine.host number).sink } }

def rehearsal (room : Int) (limits : Limits) (world : World) : Rehearsal where
  size := world.machine.hosts.size
  room := room
  low := world.machine.limits
  high := limits
  sinks number := (world.machine.host number).sink

/-- All contexts in a world are of hosts that it has. -/
structure IsHosted (setting : Setting) (world : World) : Prop where
  owners : ∀ number, (setting.instances number).component.isSome = true →
    number < world.machine.hosts.size
  handles : ∀ (handle : Nat) closure, world.machine.closures[handle]? = some closure →
    closure.context.host < world.machine.hosts.size
  continuations : ∀ (number : Nat) continuation, world.host.continuations[number]? =
    some continuation →
    continuation.IsWithin fun number => number < world.machine.hosts.size

/-- The ceilings of a world are raised. -/
structure RaisesTo (limits : Limits) (recursion : Nat → Value) (world : World) : Prop where
  limits : world.machine.limits.RaisesTo limits
  recursions : ∀ (number : Nat) running, world.host.workflows[number]? = some running →
    running.maxRecursion.RaisesTo (recursion number)

end World

/-- Rehearsals of worlds, where workflows may run as often as given before and as raised
afterwards. -/
def Bond.rehearsing (rehearsal : Rehearsal) (given recursion : Nat → Value) : Bond where
  machines := rehearsal.pairing
  pardons := Rehearsal.pardons
  known number := number < rehearsal.size
  lift number _ := recursion number
  fits number ceiling := ceiling = given number ∧ ceiling.RaisesTo (recursion number)

theorem accord_of_rehearsal {rehearsal : Rehearsal} (sound : rehearsal.IsSound)
    (given recursion : Nat → Value) {setting : Setting}
    (blind : ∀ number handler, Evaluate.Registered
      (setting.instances number).registry.formulas handler →
      ∀ arguments view, (handler arguments view).IsBlind)
    (owners : ∀ number, (setting.instances number).component.isSome = true →
      number < rehearsal.size) :
    Accord (Bond.rehearsing rehearsal given recursion) setting fun number =>
      (setting.instances number).logErrors where
  formulas := Rehearsal.accord sound blind
  owners := owners
  enters number running key fits := by
    rcases Cycle.Workflow.enter_under fits.2 key with same | ⟨fault, refused, cut⟩
    · exact .inl same
    · exact .inr ⟨_, refused, fault, rfl, cut⟩

instance (rehearsal : Rehearsal) (given recursion : Nat → Value) :
    (Bond.rehearsing rehearsal given recursion).TimesAlike where
  measured number name success before _ after _ := by
    rintro ⟨_, rfl⟩ ⟨_, rfl⟩
    exact Rehearsal.pairs_on_metrics number _

section Worlds

variable {world : World} {limits : Limits} {recursion : Nat → Value} {setting : Setting}

theorem twin_of_rehearsing (room : Int) (hosted : world.IsHosted setting) (raises : world.RaisesTo limits recursion) :
    (Bond.rehearsing (world.rehearsal room limits) world.recursions recursion).Twin (world.rehearsing room)
      (world.under limits recursion) where
  machine := by
    -- sinks that have taken nothing yet leave the others as they are
    have replays : (world.machine.rehearsing room).hosts.mapIdx (world.rehearsal room limits).performHost =
        world.machine.hosts := by
      apply Array.ext_getElem?
      intro number
      change ((world.machine.hosts.map _).mapIdx _)[number]? = _
      rw [Array.getElem?_mapIdx, Array.getElem?_map]
      cases found : world.machine.hosts[number]? with
      | none => rfl
      | some state =>
          have own : (world.machine.host number).sink = state.sink := by
            unfold Machine.host
            rw [found]
            rfl
          change some ({ state with sink := (Sink.ofCapacity (.int room)).replay (world.machine.host number).sink } :
            HostState) = some state
          rw [Sink.replay_empty, own]
    refine ⟨⟨rfl, Array.size_map, fun number bound => ?_, hosted.handles⟩, ?_⟩
    · have present : (world.machine.rehearsing room).hosts[number]? =
          some { world.machine.hosts[number] with sink := Sink.ofCapacity (.int room) } := by
        change (world.machine.hosts.map _)[number]? = _
        rw [Array.getElem?_map, Array.getElem?_eq_getElem bound]
        rfl
      change ((world.machine.rehearsing room).host number).sink.capacity = .int room
      unfold Machine.host
      rw [present]
      rfl
    · change ({ world.machine with limits := limits } : Machine) =
        { world.machine with
          limits := limits
          hosts := (world.machine.rehearsing room).hosts.mapIdx (world.rehearsal room limits).performHost }
      rw [replays]
  cells := rfl
  numbers := rfl
  workflows := rfl
  fits number running found := by
    refine ⟨?_, raises.recursions number running found⟩
    exact congrArg (fun held => (Option.getD held (Cycle.Workflow.empty (.int 0))).maxRecursion) found.symm
  continuations := rfl
  within := hosted.continuations
  promises := rfl
  queue := rfl
  loop := rfl
  scopes := rfl

theorem replaying_of_twin {room : Int} {state counterpart : World}
    (twin : (Bond.rehearsing (world.rehearsal room limits) world.recursions recursion).Twin state
      counterpart) :
    counterpart = (world.replaying state).under limits recursion := by
  have machine : counterpart.machine = (world.rehearsal room limits).perform state.machine :=
    twin.machine.2
  rw [twin.counterpart_eq, machine]
  rfl

end Worlds

theorem World.recursion_of_found {world : World} {number : Nat} {running : Cycle.Workflow String}
    (found : world.host.workflows[number]? = some running) : running.maxRecursion =
    world.recursions number :=
  congrArg (fun held => (Option.getD held (Cycle.Workflow.empty (.int 0))).maxRecursion) found.symm

theorem World.under_own {world : World} {limits : Limits} {recursion : Nat → Value}
    (same : world.machine.limits = limits)
    (alike : ∀ (number : Nat) running, world.host.workflows[number]? = some running →
      running.maxRecursion = recursion number) : world.under limits recursion = world := by
  have workflows : world.host.workflows.mapIdx
      (fun number running => running.under (recursion number)) = world.host.workflows := by
    apply Array.ext_getElem?
    intro number
    rw [Array.getElem?_mapIdx]
    cases found : world.host.workflows[number]? with
    | none => rfl
    | some running =>
        rw [← alike number running found]
        rfl
  change { world with host := { world.host with
    machine := { world.machine with limits := limits }
    workflows := world.host.workflows.mapIdx _ } } = world
  rw [workflows, ← same]
  rfl

theorem World.raises_to_own (world : World) :
    world.RaisesTo world.machine.limits world.recursions where
  limits := .refl _
  recursions _ _ found := .inl (recursion_of_found found)

section Rehearsed

variable {setting : Setting} {fuel : Nat} {requests : List Request}
  {room : Int} {world last : World} {limits : Limits} {recursion : Nat → Value}

/-- What is not cut in a rehearsal happens in step under all raised ceilings. -/
theorem matches_of_rehearsal
    (blind : ∀ number handler, Evaluate.Registered
      (setting.instances number).registry.formulas handler →
      ∀ arguments view, (handler arguments view).IsBlind)
    (hosted : world.IsHosted setting)
    (inside : ∀ request ∈ requests, request.IsWithin fun number => number <
      world.machine.hosts.size)
    (counting : ∀ number, (world.machine.host number).sink.IsCounting)
      (raises : world.RaisesTo limits recursion)
    (rehearsed : (serve setting fuel requests (world.rehearsing room)).state? = some last)
    (uncut : last.machine.isCut = false) :
    (serve setting fuel requests (world.rehearsing room)).Matches
      (Bond.rehearsing (world.rehearsal room limits) world.recursions recursion).worlds
      (serve setting fuel requests (world.under limits recursion)) := by
  have sound : (world.rehearsal room limits).IsSound :=
    ⟨raises.limits, fun number _ => counting number⟩
  have accord := accord_of_rehearsal sound world.recursions recursion blind hosted.owners
  have served : InStep _ (serve setting fuel requests) (serve setting fuel requests) :=
    pairs_serve accord fuel inside
  refine Result.matches_of_pairs (served.follows _ _ (twin_of_rehearsing room hosted raises)) ?_
  cases ended : serve setting fuel requests (world.rehearsing room) with
  | done answers after =>
      rw [ended] at rehearsed
      cases rehearsed
      exact fun excused => Bool.false_ne_true (uncut.symm.trans excused.1)
  | raised failure after =>
      rw [ended] at rehearsed
      cases rehearsed
      exact fun excused => Bool.false_ne_true (uncut.symm.trans excused.1)
  | exhausted =>
      rw [ended] at rehearsed
      cases rehearsed

/-- Ceilings only ever cut.  If no fault of a ceiling comes to a sink while requests are served in a
rehearsal, then the rehearsal shows what happens, and the same happens under all raised ceilings:
the answers are the same, and so is the world afterwards, but for the ceilings. -/
theorem ceilings_only_cut
    (blind : ∀ number handler, Evaluate.Registered
      (setting.instances number).registry.formulas handler →
      ∀ arguments view, (handler arguments view).IsBlind)
    (hosted : world.IsHosted setting)
    (inside : ∀ request ∈ requests, request.IsWithin fun number => number <
      world.machine.hosts.size)
    (counting : ∀ number, (world.machine.host number).sink.IsCounting)
      (raises : world.RaisesTo limits recursion)
    (rehearsed : (serve setting fuel requests (world.rehearsing room)).state? = some last)
    (uncut : last.machine.isCut = false) :
    serve setting fuel requests world =
        (serve setting fuel requests (world.rehearsing room)).mapState world.replaying ∧
      serve setting fuel requests (world.under limits recursion) =
        (serve setting fuel requests world).mapState (World.under limits recursion) := by
  have own := matches_of_rehearsal blind hosted inside counting world.raises_to_own rehearsed uncut
  have raised := matches_of_rehearsal blind hosted inside counting raises rehearsed uncut
  rw [World.under_own rfl fun _ _ => World.recursion_of_found] at own
  have shown : serve setting fuel requests world =
      (serve setting fuel requests (world.rehearsing room)).mapState world.replaying := by
    rw [← Result.map_state_id (serve setting fuel requests world)]
    refine Result.map_state_of_matches own fun state counterpart twin => ?_
    exact (replaying_of_twin twin).trans
      (World.under_own twin.machine.1.limits fun number running found =>
      (twin.fits number running found).1)
  refine ⟨shown, ?_⟩
  rw [shown, Result.map_state_map_state, ← Result.map_state_id
    (serve setting fuel requests (world.under _ _))]
  exact Result.map_state_of_matches raised fun _ _ twin => replaying_of_twin twin

end Rehearsed
/-- Only the depths of formulas and of actions have ceilings. -/
def depthLimits (formulas actions : Int) : Limits where
  groups :=
    [("formula", { label := "FormulaLimits", ceilings := [("max_depth", .int formulas)] }),
      ("action", { label := "ActionLimits", ceilings := [("max_depth", .int actions)] })]

theorem ceiling_of_depth_limits (formulas actions : Int) (category name : String) :
    (depthLimits formulas actions).ceiling category name =
      if "max_depth" = name ∧ "formula" = category then .int formulas
      else if "max_depth" = name ∧ "action" = category then .int actions
      else .null := by
  unfold depthLimits Limits.ceiling Limits.ceiling? Limits.group? LimitGroup.ceiling?
  by_cases formula : "formula" = category
  · subst formula
    by_cases depth : "max_depth" = name <;> simp [Keyed.find?, depth]
  · by_cases action : "action" = category
    · subst action
      by_cases depth : "max_depth" = name <;> simp [Keyed.find?, depth]
    · simp [Keyed.find?, formula, action]

/-- A workflow that runs another one, which sets a variable. -/
def relay : Setting :=
  { instances := fun number =>
      { signal := 0, registry := Registry.empty
        component := if number = 0 then some { Component.ofFormulas "Relay" [] with
          workflows :=
            [("start", {
              name := .text "start", actions := [.triggerWorkflow "finish" [] [] .null .null]
              parameters := [], callbacks := [], isExposed := false }),
            ("finish", {
              name := .text "finish"
              actions := [.setVariable "done"
                (some (.or [.mk (some (.value (.bool true))) .null false]))]
              parameters := [], callbacks := [], isExposed := false })] } else none
        package := .null, apis := [], scope := none, triggerEvent := none
        setUrlParameters := none, root := .null, overlay := .mapping [], logErrors := false }
    formulaFuel := 2 }

def relayWorld : World :=
  { cells := #[Signal.Cell.fresh (.mapping []) none]
    nextSubscription := 0
    host :=
      { machine := Machine.lone (depthLimits 1 2) 5
        workflows := #[Cycle.Workflow.empty (.int 1)]
        continuations := #[], promises := #[], queue := [], hasLoop := false, scopes := [] } }

/-- Starts the relay. -/
def started : Request :=
  .operate (.execute [.action (.triggerWorkflow "start" [] [] .null .null)]
    (relay.contextOf 0) .null .none (.int 0))

/-- Nothing is registered, so no handler looks at the limits table. -/
theorem relay_is_blind (number : Nat) (handler : FormulaHandler)
    (registered : Evaluate.Registered (relay.instances number).registry.formulas handler)
    (arguments : Arguments) (view : View) : (handler arguments view).IsBlind := by
  obtain ⟨name, package, found, resolved | resolved⟩ := registered
  all_goals
    rcases Catalog.resolve_cases resolved with ⟨_, _, _, _, _, _, inside, _⟩ | ⟨_, _, _, member⟩
    · cases inside
    · cases member

theorem relay_is_hosted : relayWorld.IsHosted relay where
  owners
    | 0, _ => Nat.zero_lt_one
  handles _ _ := nofun
  continuations _ _ := nofun

theorem relay_raises : relayWorld.RaisesTo (depthLimits 256 100) fun _ => .int 3 where
  limits category name := by
    change (depthLimits 256 100).ceiling category name = (depthLimits 1 2).ceiling category name ∨
      name = "max_depth" ∧ Value.RaisesTo ((depthLimits 1 2).ceiling category name) _ ∧
        ((depthLimits 1 2).ceiling category name).isWritable = true ∧ _
    rw [ceiling_of_depth_limits, ceiling_of_depth_limits]
    split_ifs with formula action
    · exact .inr ⟨formula.1.symm, .inr ⟨1, 256, rfl, rfl, by decide⟩,
        by decide +kernel, by decide +kernel⟩
    · exact .inr ⟨action.1.symm, .inr ⟨2, 100, rfl, rfl, by decide⟩,
        by decide +kernel, by decide +kernel⟩
    · exact .inl rfl
  recursions
    | 0, _, found => by
        cases found
        exact .inr ⟨1, 3, rfl, rfl, by decide⟩
    | _ + 1, _, found => by cases found

/-- With one level less for formulas or for actions something would be cut. -/
theorem relay_reaches_its_ceilings :
    (serve relay 4 [started] (relayWorld.rehearsing 5)).state?.map (fun last =>
        (last.machine.isCut, (((last.cell 0).content.field "Variables").field "done").display)) =
      some (false, "True") ∧
    serve relay 4 [started] (relayWorld.under (depthLimits 256 100) fun _ => .int 3) =
      (serve relay 4 [started] relayWorld).mapState
      (World.under (depthLimits 256 100) fun _ => .int 3) := by
  have seen : (serve relay 4 [started] (relayWorld.rehearsing 5)).state?.map (fun last =>
      (last.machine.isCut, (((last.cell 0).content.field "Variables").field "done").display)) =
        some (false, "True") := by decide +kernel
  obtain ⟨last, rehearsed, shown⟩ := Option.map_eq_some_iff.mp seen
  have inside : ∀ request ∈ [started], request.IsWithin fun number => number <
      relayWorld.machine.hosts.size := by
    rintro request (_ | ⟨_, ⟨⟩⟩)
    exact ⟨Nat.zero_lt_one, trivial⟩
  have counting : ∀ number, (relayWorld.machine.host number).sink.IsCounting
    | 0 => ⟨.int 5, .int 5, rfl, rfl⟩
    | _ + 1 => ⟨.int 0, .int 0, rfl, rfl⟩
  exact ⟨seen, (ceilings_only_cut relay_is_blind relay_is_hosted inside
    counting relay_raises rehearsed (congrArg Prod.fst shown)).2⟩

end Execute
end Interplay
