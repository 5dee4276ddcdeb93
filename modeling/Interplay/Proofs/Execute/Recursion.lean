import Interplay.Proofs.Execute.Interleaving
import Interplay.Proofs.Execute.Nesting

/-!
Workflows that are refused.

An execution is told the workflows that run around it.  Every one of them is counted by the detector
of the instance that called it, under a text made of its component, its package and its name.  So
where a workflow is refused, one with the same text runs around it; it is the same workflow of the
same instance if the texts tell workflows apart.
-/

namespace Interplay
namespace Execute

open Run

/-- A workflow that runs, or is asked to. -/
structure Activity where
  /-- The instance whose detector counts it. -/
  detector : Nat
  owner : Nat
  name : String

namespace Activity

variable (setting : Setting)

def key (activity : Activity) : String :=
  ownerName setting activity.owner ++ ":" ++ activity.name

/-- Whether one detector counts both under one key. -/
def sharesKey (running asked : Activity) : Bool :=
  running.detector == asked.detector && running.key setting == asked.key setting

/-- Whether both are one workflow of one instance. -/
def isSame (running asked : Activity) : Bool :=
  (setting.instances running.owner).signal == (setting.instances asked.owner).signal &&
    running.name == asked.name

end Activity

/-- The keys of the workflows that there are tell instances and names apart. -/
def Setting.TellsApart (setting : Setting) : Prop :=
  ∀ running asked : Activity, setting.Offers running.owner running.name →
    setting.Offers asked.owner asked.name →
    running.key setting = asked.key setting → running.isSame setting asked = true

/-- The detectors count nothing. -/
def World.IsIdle (world : World) : Prop :=
  ∀ running ∈ world.host.workflows, running.active = []

section Amid

variable (setting : Setting) (blames : Activity → Activity → Bool)

/-- A workflow is let in, or its detector lets in none at all, or one that runs around is to
blame. -/
def isDue (around : List Activity) (asked : Activity) (world : World) : Bool :=
  let running := world.workflows asked.detector
  (running.enter (asked.key setting)).isOk ||
    !((Cycle.Workflow.empty running.maxRecursion).enter (asked.key setting)).isOk ||
    around.any fun activity => blames activity asked

/-- Runs a workflow, and breaks off where it is refused without anything to blame. -/
def runDue (around : List Activity) (asked : Activity) (body : Run World Unit) : Run World Unit := do
  let world ← Run.get
  if isDue setting blames around asked world then underWorkflow asked.detector (asked.key setting) body
  else Run.exhaust

variable (powers : List Activity → Powers) (around : List Activity)
  (context : ActionContext) (event : Value) (dispatch : Dispatch) (depth : Value)

def runWorkflowAmid (name : String) (parameters : List NamedFormula) (callbacks : List ActionBody)
    (provider package : Value) : Run World Unit :=
  callWorkflow setting (powers around) context event name parameters provider
    package fun target actions =>
    let asked : Activity := { detector := target.stackHost, owner := target.host, name := name }
    runDue setting blames around asked <|
      onTrail target.stackHost "workflow" (asked.key setting) <|
        (powers (asked :: around)).executeBelow actions target event
          (.caller name callbacks context dispatch depth) depth

def runActionAmid : Action → Run World Unit
  | .triggerWorkflow name parameters callbacks provider package =>
    runWorkflowAmid setting blames powers around context event dispatch depth name parameters
      callbacks provider package
  | other => runAction setting (powers around) context event dispatch depth other

def runGuardedAmid (index : Nat) (action : Action) : Run World Unit :=
  behindBoundary setting (powers around) context action.kind index
    (runActionAmid setting blames powers around context event dispatch depth action)

def executeAmid (entries : List Entry) : Run World Unit :=
  runList context depth <| Run.forEachIndexed (fun index => runEntryWith
    (runGuardedAmid setting blames powers around context event dispatch depth index)) 0 entries

end Amid

/-- Nested lists and host code, told what runs around them, with fuel for how deep they nest. -/
def runnersAmid (setting : Setting) (blames : Activity → Activity → Bool) :
    Nat → List Activity → Runners
  | 0, _ => { execute := fun _ _ _ _ _ => Run.exhaust, call := fun _ => Run.exhaust }
  | fuel + 1, around =>
    let below : List Activity →
        Powers := fun inner => ⟨.silent setting, runnersAmid setting blames fuel inner⟩
    { execute := fun entries context event dispatch depth =>
        executeAmid setting blames below around context event dispatch depth entries
      call := Signal.runScript (below around).call (performEffect (below around)) }

def powersAmid (setting : Setting) (blames : Activity → Activity → Bool) (fuel : Nat)
    (around : List Activity) :
    Powers :=
  ⟨.silent setting, runnersAmid setting blames fuel around⟩

namespace World

theorem workflows_modify (world : World) (number other : Nat) (running : Cycle.Workflow String) :
    (world.modifyWorkflows number fun _ => running).workflows other = world.workflows other ∨
      other = number ∧ (world.modifyWorkflows number fun _ => running).workflows other = running :=
  Cycle.held_modify_cases world.host.workflows number other running _

/-- What a world counts as running runs around it. -/
structure Accounts (setting : Setting) (around : List Activity) (world : World) : Prop where
  proper : world.IsProper
  running : ∀ number key, (world.workflows number).depthOf key ≠ 0 →
    ∃ activity ∈ around, activity.detector = number ∧ activity.key setting = key
  offered : ∀ activity ∈ around, setting.Offers activity.owner activity.name

namespace Accounts

variable {setting : Setting} {around : List Activity} {world : World}

theorem of_idle (setting : Setting) (idle : world.IsIdle) : world.Accounts setting [] where
  proper := by
    intro running member key
    rw [idle running member]
    exact nofun
  running number key counted := by
    have nothing : (world.workflows number).active = [] := by
      unfold workflows
      cases found : world.stage.workflows[number]? with
      | none => rfl
      | some running => exact idle running (Array.mem_of_getElem? found)
    unfold Cycle.Workflow.depthOf at counted
    rw [nothing] at counted
    exact absurd rfl counted
  offered := nofun

theorem of_restored {origin : World} (accounts : origin.Accounts setting around)
    (restored : Restored origin world) :
    world.Accounts setting around where
  proper := restored.proper accounts.proper
  running number key counted := by
    have same : world.workflows number = origin.workflows number :=
      congrArg (fun running => (running[number]?).getD (Cycle.Workflow.empty (.int 0)))
        restored.workflows
    rw [same] at counted
    exact accounts.running number key counted
  offered := accounts.offered

theorem enter (accounts : world.Accounts setting around) (asked : Activity)
    (offered : setting.Offers asked.owner asked.name) :
    (world.modifyWorkflows asked.detector fun _ =>
      (world.workflows asked.detector).entered (asked.key setting)).Accounts setting
        (asked :: around) where
  proper := proper_entered accounts.proper asked.detector (asked.key setting)
  running number key counted := by
    have before : (world.workflows number).depthOf key ≠ 0 →
        ∃ activity ∈ asked :: around, activity.detector = number ∧ activity.key setting = key := by
      intro known
      obtain ⟨activity, member, same⟩ := accounts.running number key known
      exact ⟨activity, List.mem_cons_of_mem _ member, same⟩
    rcases workflows_modify world asked.detector number
      ((world.workflows asked.detector).entered (asked.key setting)) with same | ⟨rfl, same⟩
    · rw [same] at counted
      exact before counted
    · by_cases called : key = asked.key setting
      · exact ⟨asked, List.mem_cons_self, rfl, called.symm⟩
      · rw [same, Cycle.Workflow.depth_of_entered_of_ne called] at counted
        exact before counted
  offered := List.forall_mem_cons.mpr ⟨offered, accounts.offered⟩

/-- Refusals are due: whoever shares the key of the workflow is to blame. -/
theorem due (accounts : world.Accounts setting around)
    {blames : Activity → Activity → Bool} (asked : Activity)
    (blamed : ∀ running ∈ around, running.detector = asked.detector →
      running.key setting = asked.key setting →
      blames running asked = true) : isDue setting blames around asked world = true := by
  cases entry : (world.workflows asked.detector).enter (asked.key setting) with
  | ok entered => simp [isDue, entry, Except.isOk, Except.toBool]
  | error failure =>
      by_cases counted : (world.workflows asked.detector).depthOf (asked.key setting) = 0
      · have closed := Cycle.Workflow.refuses_all_of_enter counted entry
        simp [isDue, closed]
      · obtain ⟨running, member, detector, key⟩ := accounts.running _ _ counted
        have found : around.any (fun activity => blames activity asked) = true :=
          List.any_eq_true.mpr ⟨running, member, blamed running member detector key⟩
        simp [isDue, found]

end Accounts

end World

/-- Whoever shares a detector and a key with a workflow is to blame for it. -/
def Blames (setting : Setting) (blames : Activity → Activity → Bool) : Prop :=
  ∀ running asked : Activity, setting.Offers running.owner running.name →
    setting.Offers asked.owner asked.name →
    running.detector = asked.detector → running.key setting = asked.key setting →
    blames running asked = true

def PowersAccount (setting : Setting) (powers : Powers) (amid : List Activity → Powers) : Prop :=
  ∀ (origin : World) around, origin.Accounts setting around →
    Handover True setting Frame.whole (World.Restored origin) powers (amid around)

section Runs

variable {setting : Setting} {blames : Activity → Activity → Bool} {origin : World}
    {around : List Activity}

theorem tracks_trail_kept {α : Type} {number : Nat} {kind name : String} {body other : Run World α}
    (accounts : origin.Accounts setting around)
    (tracks : ∀ inside : World, inside.Accounts setting around →
      Tracks True (World.Restored inside) body other) :
    Tracks True (World.Restored origin) (onTrail number kind name body)
      (onTrail number kind name other) := by
  intro world kept
  let pushed := world.modifyMachine (Machine.pushStep number kind name)
  have inside : pushed.Accounts setting around :=
    { proper := (accounts.of_restored kept).proper
      running := (accounts.of_restored kept).running
      offered := accounts.offered }
  exact Result.tracks_map_state (tracks pushed inside pushed (.refl pushed))
    fun after left => kept.trans left.pop

/-- A workflow is refused for a reason, and is counted for the length of its body. -/
theorem tracks_run_due (blamed : Blames setting blames) (accounts : origin.Accounts setting around) {asked : Activity}
    (offered : setting.Offers asked.owner asked.name) {body other : Run World Unit}
    (tracks : ∀ inside : World, inside.Accounts setting (asked :: around) →
      Tracks True (World.Restored inside) body other) :
    Tracks True (World.Restored origin) (underWorkflow asked.detector (asked.key setting) body)
      (runDue setting blames around asked other) := by
  intro world kept
  have here := accounts.of_restored kept
  have due : isDue setting blames around asked world = true :=
    here.due asked fun running member => blamed running asked (here.offered running member) offered
  change (underWorkflow asked.detector (asked.key setting) body world).Tracks True (World.Restored origin)
    ((if isDue setting blames around asked world then underWorkflow asked.detector (asked.key setting) other
      else Run.exhaust) world)
  rw [if_pos due]
  unfold underWorkflow
  cases entry : (world.workflows asked.detector).enter (asked.key setting) with
  | error failure => exact ⟨rfl, kept⟩
  | ok entered =>
      obtain rfl := Cycle.Workflow.entered_of_enter entry
      have inner := tracks _ (here.enter asked offered) _ (.refl _)
      exact Result.tracks_map_state inner fun after left => kept.trans (left.leave here.proper)

variable {powers : Powers} {amid : List Activity → Powers} (blamed : Blames setting blames)
  (account : PowersAccount setting powers amid) (accounts : origin.Accounts setting around)
  (context : ActionContext) (event : Value) (dispatch : Dispatch) (depth : Value)

include blamed account accounts

theorem tracks_workflow_amid (name : String) (parameters : List NamedFormula)
    (callbacks : List ActionBody) (provider package : Value) :
    Tracks True (World.Restored origin)
      (runWorkflow setting powers context event dispatch depth name parameters
        callbacks provider package)
      (runWorkflowAmid setting blames amid around context event dispatch depth name
        parameters callbacks provider package) := by
  rw [run_workflow_eq]
  refine tracks_call_workflow (account origin around accounts).toBacking trivial
    fun target actions _ _ offered => ?_
  refine @tracks_run_due setting blames origin around blamed accounts
    ⟨target.stackHost, target.host, name⟩ offered _ _
    fun inside entered => ?_
  apply tracks_trail_kept entered
  intro body held
  exact tracks_execute_below (account body _ held)
    (Frame.whole_permits actions target.host) (Frame.whole_sends _)

theorem tracks_action_amid (action : Action) :
    Tracks True (World.Restored origin)
      (runAction setting powers context event dispatch depth action)
      (runActionAmid setting blames amid around context event dispatch depth action) := by
  unfold runActionAmid
  split
  · rename_i name parameters callbacks provider package
    exact tracks_workflow_amid blamed account accounts context event dispatch depth name
      parameters callbacks provider package
  · rename_i noWorkflow
    exact tracks_action (account origin around accounts)
      (Frame.whole_permits _ _) (Frame.whole_sends _)
      fun name parameters callbacks provider package same =>
        absurd same (noWorkflow name parameters callbacks provider package)

theorem tracks_guarded_amid (index : Nat) (action : Action) :
    Tracks True (World.Restored origin)
      (runGuarded setting powers context event dispatch depth index action)
      (runGuardedAmid setting blames amid around context event dispatch depth index action) := by
  have active : Frame.whole.active context.host := trivial
  refine tracks_boundary (Frame.whole_upholds setting origin) active ?_
  apply tracks_trail_kept accounts
  intro inside held
  exact tracks_contain (account inside around held).toBacking active _ index
    (tracks_action_amid blamed account held context event dispatch depth action)

theorem tracks_entries_amid (entries : List Entry) :
    Tracks True (World.Restored origin)
      (executeWith setting powers entries context event dispatch depth)
      (executeAmid setting blames amid around context event dispatch depth entries) := by
  have upholds := Frame.whole_upholds setting origin
  refine tracks_run_list upholds trivial depth (tracks_for_each_indexed (fun entry _ index => ?_) 0)
  exact tracks_entry upholds fun action _ =>
    tracks_guarded_amid blamed account accounts context event dispatch depth index action

end Runs

theorem silent_backing (setting : Setting) (origin : World) :
    Backing True setting Frame.whole (World.Restored origin) where
  upholds := Frame.whole_upholds setting origin
  governs := Frame.whole_governs setting
  evaluates context formula active :=
    ((nested_backing setting origin).evaluates context formula active).self
  invokes handle arguments := ((nested_backing setting origin).invokes handle arguments).self
  heeds _ := tracks_pure ()

theorem powers_account {setting : Setting} {blames : Activity → Activity → Bool}
    (blamed : Blames setting blames)
    (fuel : Nat) : PowersAccount setting (powers setting fuel)
    (powersAmid setting blames fuel) := by
  induction fuel with
  | zero =>
      exact fun origin _ _ => ⟨silent_backing setting origin,
        ⟨fun _ _ => tracks_exhaust trivial _, fun _ _ => yields_exhaust⟩,
        fun _ _ _ _ _ _ _ => tracks_exhaust trivial _⟩
  | succ fuel ih =>
      intro origin around accounts
      exact ⟨silent_backing setting origin, script_serves (ih origin around accounts),
        fun entries context event dispatch depth _ _ =>
          tracks_entries_amid blamed ih accounts context event dispatch depth entries⟩

/-- However operations interleave, from a world where no workflow runs: a workflow is refused only
where one with its key runs around it on the same detector, and that is the same workflow of the
same instance where keys tell workflows apart.  In the end no workflow runs. -/
theorem refusals_are_due (setting : Setting) (fuel : Nat)
    (operations : List Operation) {world last : World}
    (idle : world.IsIdle) (ended : (interleave setting fuel operations world).state? = some last) :
    interleaveWith setting
      (powersAmid setting (Activity.sharesKey setting) fuel []) operations world =
        interleave setting fuel operations world ∧
      (setting.TellsApart →
        interleaveWith setting
          (powersAmid setting (Activity.isSame setting) fuel []) operations world =
          interleave setting fuel operations world) ∧
      last.IsIdle := by
  have accounts := World.Accounts.of_idle setting idle
  have tracks : ∀ blames, Blames setting blames →
      (interleave setting fuel operations world).Tracks True (World.Restored world)
        (interleaveWith setting (powersAmid setting blames fuel []) operations world) := by
    intro blames blamed
    rw [interleave_eq]
    exact tracks_interleaving (powers_account blamed fuel world [] accounts) operations world
      (.refl world)
  have shared : Blames setting (Activity.sharesKey setting) := by
    intro running asked _ _ detector key
    simp [Activity.sharesKey, detector, key]
  obtain ⟨same, restored⟩ := Result.settled_of_tracks (tracks _ shared) ended
  refine ⟨same, fun apart => ?_, ?_⟩
  · have blamed : Blames setting (Activity.isSame setting) := fun running asked there here _ =>
      apart running asked there here
    exact (Result.settled_of_tracks (tracks _ blamed) ended).1
  · intro running member
    rw [restored.workflows] at member
    exact idle running member

theorem rerunning_tells_apart : rerunning.TellsApart := by
  intro running asked _ _ key
  have names : running.name = asked.name := (String.append_right_inj _).mp key
  simp [Activity.isSame, names, rerunning]

def rerunTwice : List Operation :=
  List.replicate 2
    (.execute [.action (.triggerWorkflow "again" [] [] .null .null)]
      (rerunning.contextOf 0) .null .none
    (.int 0))

theorem reruns_are_refused_duly :
    (interleave rerunning 4 rerunTwice rerunningWorld).state?.map (fun last =>
        (last.machine.host 0).sink.kept.map Fault.text) =
      some ["Formula not found: missing",
        "Circular workflow reference detected: Loop:again → Loop:again",
        "Formula not found: missing",
        "Circular workflow reference detected: Loop:again → Loop:again"] ∧
      ∀ last, (interleave rerunning 4 rerunTwice rerunningWorld).state? = some last →
        interleaveWith rerunning (powersAmid rerunning (Activity.isSame rerunning) 4 [])
          rerunTwice rerunningWorld = interleave rerunning 4 rerunTwice rerunningWorld := by
  have idle : rerunningWorld.IsIdle := by
    intro running member
    obtain rfl := List.mem_singleton.mp (Array.mem_toList_iff.mpr member)
    rfl
  exact ⟨by decide +kernel, fun _ ended =>
    (refusals_are_due rerunning 4 rerunTwice idle ended).2.1 rerunning_tells_apart⟩

/-- Two instances of one component, the second of which is provided to the first.  Their workflow
sets a variable and runs the workflow of the provider. -/
def twins : Setting :=
  { instances := fun number =>
      { signal := number, registry := Registry.empty
        component := some { Component.ofFormulas "Twin" [] with
          workflows := [("greet", {
            name := .text "greet"
            actions := [.setVariable "greeted" (some (.value (.bool true))),
              .triggerWorkflow "greet" [] [] (.text "Twin") .null]
            parameters := [], callbacks := [], isExposed := true })] }
        package := .null, apis := [], scope := if number = 0 then some 0 else none
        triggerEvent := none, setUrlParameters := none, root := .null, overlay := .mapping [], logErrors := false }
    formulaFuel := 2 }

def twinWorld : World :=
  { cells := #[Signal.Cell.fresh (.mapping []) none, Signal.Cell.fresh (.mapping []) none]
    nextSubscription := 0
    host :=
      { machine := { Machine.lone Limits.standard 5 with hosts := #[HostState.blank, HostState.blank].map fun state =>
          { state with sink := Sink.ofCapacity (.int 5) } }
        workflows := #[Cycle.Workflow.empty (.int 1), Cycle.Workflow.empty (.int 1)]
        continuations := #[], promises := #[], queue := [], hasLoop := false
        scopes := [{ providers := [(.text "Twin", .host 1)], ancestors := [] }] } }

def greet : Operation :=
  .execute [.action (.triggerWorkflow "greet" [] [] .null .null)]
    (twins.contextOf 0) .null .none (.int 0)

/-- The workflow of the second instance is refused because that of the first runs; nothing of it has
run. -/
theorem twins_are_confused :
    (interleave twins 5 [greet] twinWorld).state?.map (fun last =>
        ((last.machine.host 0).sink.kept.map Fault.text, ((last.cell 1).content.field "Variables").isNull)) =
      some (["Circular workflow reference detected: Twin:greet → Twin:greet"], true) ∧
      (interleaveWith twins (powersAmid twins (Activity.isSame twins) 5 []) [greet] twinWorld).state?.isNone = true := by
  decide +kernel

end Execute
end Interplay
