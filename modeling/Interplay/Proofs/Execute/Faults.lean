import Interplay.Proofs.Evaluate.Faithful
import Interplay.Proofs.Execute.Frame

/-!
Faults are never taken back.

Whatever a run does and however it ends, there are as many hosts afterwards as before, and no sink
has been given less.  So a run that leaves as many faults as it found has added none at any time.
-/

namespace Interplay
namespace Execute

open Run

/-- There is a number of hosts, and each sink has been given at least a number of faults. -/
def World.Above (size : Nat) (least : Nat → Nat) (world : World) : Prop :=
  world.machine.hosts.size = size ∧ ∀ host, least host ≤ world.machine.faults host

section Keeping

variable {size : Nat} {least : Nat → Nat}

theorem above_tolerant (world : World) (number : Nat) :
    Machine.Tolerant number fun machine => World.Above size least (world.setMachine machine) :=
  fun _ _ booked above =>
    ⟨booked.hosts.trans above.1, fun host => (above.2 host).trans (booked.totals host)⟩

theorem above_trailing {world : World} (above : World.Above size least world) (number : Nat)
    (change : Trail → Trail) :
    World.Above size least (world.modifyMachine
      (Machine.modifyHost number fun state => { state with trail := change state.trail })) := by
  have kept : (world.machine.modifyHost number fun state =>
      { state with trail := change state.trail }).hosts.size =
      world.machine.hosts.size := by simp [Machine.modifyHost]
  refine ⟨kept.trans above.1, fun host => ?_⟩
  have same : (world.machine.modifyHost number fun state =>
      { state with trail := change state.trail }).faults host = world.machine.faults host := by
    unfold Machine.faults
    rcases Machine.host_modify_host_cases number host world.machine fun state =>
        { state with trail := change state.trail } with same | ⟨_, changed⟩
    · rw [same]
    · rw [changed]
  exact (above.2 host).trans (Nat.le_of_eq same.symm)

theorem above_steady (world : World) :
    Evaluate.Steady (fun _ => True) fun machine => World.Above size least
      (world.setMachine machine) where
  tolerant host _ := above_tolerant world host
  trailing number change machine above :=
    @above_trailing _ _ (world.setMachine machine) above number change
  closures _ _ _ above := above
  handles _ _ _ _ _ := trivial
  entering _ _ _ above := above

theorem above_upholds (setting : Setting) :
    Frame.whole.Upholds setting (World.Above size least) where
  signals :=
    { logged := fun _ _ above => above
      numbered := fun _ _ above => above
      stored := fun _ _ _ => Frame.whole_spares_cell _
      changed := fun _ _ _ above _ _ => above
      written := fun _ _ _ above _ => above
      added := fun _ _ _ above _ => above
      fresh := fun _ _ => trivial }
  books host world _ _ := above_tolerant world host
  noted _ _ above := above
  stacked _ above := above
  assigned _ _ _ _ _ above _ _ _ := above
  continued _ _ above _ := above
  resumed _ _ continuation _ _ := Frame.whole_resumes continuation
  promised _ above := above
  awaited _ _ _ above := above
  settled _ _ _ above _ := above
  cleanups _ _ _ plan _ _ _ := Frame.whole_spares plan
  enqueued _ _ above _ := above
  queued _ job _ _ := Frame.whole_queues job
  dequeued _ _ _ above _ := above

theorem above_indifferent : Indifferent (World.Above size least) where
  trails _ number change above := above_trailing above number change
  workflows _ _ _ above := above

theorem above_backing (setting : Setting) : Backing True setting Frame.whole
    (World.Above size least) where
  upholds := above_upholds setting
  governs := Frame.whole_governs setting
  evaluates _ formula _ := tracks_on_machine fun world _ =>
    Evaluate.evaluate_of_more_fuel (above_steady world) (Nat.le_refl _) formula trivial _
  invokes handle arguments := tracks_on_machine fun world _ =>
    Evaluate.invoke_of_more_fuel (above_steady world) (Nat.le_refl _) handle arguments
  heeds _ := tracks_pure ()

theorem above_handover (setting : Setting) (fuel : Nat) :
    Handover True setting Frame.whole (World.Above size least) (powers setting fuel)
      (powers setting fuel) :=
  powers_handover (above_backing setting) above_indifferent fuel

end Keeping

def Accrues {α : Type} (run : Run World α) : Prop :=
  ∀ size least, Tracks True (World.Above size least) run run

theorem hosts_of_accrues {α : Type} {run : Run World α}
    (accrues : Accrues run) {world after : World}
    (left : (run world).state? = some after) : after.machine.hosts.size =
    world.machine.hosts.size :=
  (Result.holds_of_tracks (accrues _ (fun _ => 0) world ⟨rfl, fun _ => Nat.zero_le _⟩) left).1

theorem faults_of_accrues {α : Type} {run : Run World α}
    (accrues : Accrues run) {world after : World}
    (left : (run world).state? = some after) (host : Nat) : world.machine.faults host ≤
    after.machine.faults host :=
  (Result.holds_of_tracks (accrues _ _ world ⟨rfl, fun _ => Nat.le_refl _⟩) left).2 host

/-- No sink was given anything between two worlds. -/
def World.Clean (before after : World) : Prop :=
  ∀ host, after.machine.faults host = before.machine.faults host

theorem clean_of_accrues {α β : Type} {first : Run World α} {next : Run World β}
    {before middle after : World}
    (accrues : Accrues first) (following : Accrues next)
    (started : (first before).state? = some middle)
    (ended : (next middle).state? = some after) (clean : World.Clean before after) :
    World.Clean before middle ∧ World.Clean middle after := by
  have early := faults_of_accrues accrues started
  have late := faults_of_accrues following ended
  constructor
  · intro host
    have whole := clean host
    have one := early host
    have two := late host
    omega
  · intro host
    have whole := clean host
    have one := early host
    have two := late host
    omega

end Execute
end Interplay
