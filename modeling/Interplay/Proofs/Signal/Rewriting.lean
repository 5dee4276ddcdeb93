import Interplay.Proofs.Signal.Custody
import Interplay.Proofs.Signal.Deduplication

/-!
Rewriting of signals.

Callbacks that only look on leave all signals as they are, so a write changes nothing but contents:
the content of the signal it is for, and of those that follow it.  Everything else about signals is
the same before and after.
-/

namespace Interplay
namespace Signal

open Run

variable {ε υ : Type}

def Reaction.IsPassive : Reaction ε → Prop
  | .call run => ∀ content, (run content).IsPassive
  | .feed _ transform => ∀ content, (transform content).IsPassive

def Release.IsPassive : Release ε → Prop
  | .nothing => True
  | .call run => run.IsPassive
  | .destroy _ => True

/-- All host code that is attached to a signal only looks on. -/
structure Cell.IsPassive (cell : Cell ε) : Prop where
  reactions : ∀ subscriber ∈ cell.subscribers, subscriber.reaction.IsPassive
  releases : ∀ subscriber ∈ cell.subscribers, subscriber.release.IsPassive
  onDestroy : ∀ script ∈ cell.onDestroy, script.IsPassive

namespace Store

def joined (signal : Nat) (subscriber : Subscriber ε) (store : Store ε υ) : Store ε υ :=
  { store.modifyCell signal
    (fun cell => { cell with subscribers := cell.subscribers ++ [subscriber] }) with
    nextSubscription := store.nextSubscription + 1 }

theorem cell_joined (signal other : Nat) (subscriber : Subscriber ε) (store : Store ε υ) :
    (store.joined signal subscriber).cell other =
      if signal = other ∧ other < store.cells.size then
        { store.cell other with subscribers := (store.cell other).subscribers ++ [subscriber] }
      else store.cell other :=
  cell_modify_cell signal other _ store

@[simp] theorem destroyed_joined (signal other : Nat)
    (subscriber : Subscriber ε) (store : Store ε υ) :
    ((store.joined signal subscriber).cell other).isDestroyed = (store.cell other).isDestroyed := by
  rw [cell_joined]
  split <;> rfl

@[simp] theorem on_destroy_joined (signal other : Nat)
    (subscriber : Subscriber ε) (store : Store ε υ) :
    ((store.joined signal subscriber).cell other).onDestroy = (store.cell other).onDestroy := by
  rw [cell_joined]
  split <;> rfl

@[simp] theorem parent_joined (signal other : Nat) (subscriber : Subscriber ε) (store : Store ε υ) :
    ((store.joined signal subscriber).cell other).parent = (store.cell other).parent := by
  rw [cell_joined]
  split <;> rfl

theorem mem_joined {signal other : Nat} {subscriber record : Subscriber ε} {store : Store ε υ}
    (member : record ∈ ((store.joined signal subscriber).cell other).subscribers) :
    record ∈ (store.cell other).subscribers ∨ signal = other ∧ record = subscriber := by
  rw [cell_joined] at member
  split at member
  case isTrue here => exact (List.mem_append.mp member).imp_right fun added =>
    ⟨here.1, List.mem_singleton.mp added⟩
  case isFalse => exact .inl member

theorem joined_of_mem {signal other : Nat} {subscriber record : Subscriber ε} {store : Store ε υ}
    (member : record ∈ (store.cell other).subscribers) :
    record ∈ ((store.joined signal subscriber).cell other).subscribers := by
  rw [cell_joined]
  split
  · exact List.mem_append_left _ member
  · exact member

theorem passive_joined {signal : Nat} {subscriber : Subscriber ε} {store : Store ε υ}
    (passive : ∀ other, (store.cell other).IsPassive) (reacts : subscriber.reaction.IsPassive)
    (releases : subscriber.release.IsPassive) (other : Nat) :
    ((store.joined signal subscriber).cell other).IsPassive where
  reactions := by
    intro record member
    rcases mem_joined member with older | ⟨_, rfl⟩
    · exact (passive other).reactions record older
    · exact reacts
  releases := by
    intro record member
    rcases mem_joined member with older | ⟨_, rfl⟩
    · exact (passive other).releases record older
    · exact releases
  onDestroy := by
    rw [on_destroy_joined]
    exact (passive other).onDestroy

structure Rewritten (before after : Store ε υ) : Prop where
  size : after.cells.size = before.cells.size
  next : after.nextSubscription = before.nextSubscription
  cells : ∀ signal, ∃ content, after.cell signal = { before.cell signal with content := content }

namespace Rewritten

variable {before middle after : Store ε υ}

theorem refl (store : Store ε υ) : store.Rewritten store :=
  { size := rfl, next := rfl, cells := fun signal => ⟨(store.cell signal).content, rfl⟩ }

theorem trans (first : before.Rewritten middle) (second : middle.Rewritten after) :
    before.Rewritten after where
  size := second.size.trans first.size
  next := second.next.trans first.next
  cells := by
    intro signal
    obtain ⟨inside, changed⟩ := first.cells signal
    obtain ⟨content, changing⟩ := second.cells signal
    exact ⟨content, by rw [changing, changed]⟩

theorem subscribers (rewritten : before.Rewritten after) (signal : Nat) :
    (after.cell signal).subscribers = (before.cell signal).subscribers := by
  obtain ⟨content, changed⟩ := rewritten.cells signal
  rw [changed]

theorem is_destroyed (rewritten : before.Rewritten after) (signal : Nat) :
    (after.cell signal).isDestroyed = (before.cell signal).isDestroyed := by
  obtain ⟨content, changed⟩ := rewritten.cells signal
  rw [changed]

theorem on_destroy (rewritten : before.Rewritten after) (signal : Nat) :
    (after.cell signal).onDestroy = (before.cell signal).onDestroy := by
  obtain ⟨content, changed⟩ := rewritten.cells signal
  rw [changed]

theorem parent (rewritten : before.Rewritten after) (signal : Nat) :
    (after.cell signal).parent = (before.cell signal).parent := by
  obtain ⟨content, changed⟩ := rewritten.cells signal
  rw [changed]

theorem host (store : Store ε υ) (host : υ) : store.Rewritten { store with host := host } :=
  { size := rfl, next := rfl, cells := fun signal => ⟨(store.cell signal).content, rfl⟩ }

theorem holding (signal : Nat) (content : Value) (store : Store ε υ) :
    store.Rewritten (store.holding signal content) where
  size := size_modify_cell signal _ store
  next := rfl
  cells := by
    intro other
    rw [Store.holding, cell_modify_cell]
    split
    · exact ⟨content, rfl⟩
    · exact ⟨(store.cell other).content, rfl⟩

end Rewritten

end Store

section Runs

variable {fuel : Nat} {origin : Bench}

/-- What passive code does is no more than a rewriting, if it comes to an end. -/
theorem rewrites_passive (fuel : Nat) {script : Script Note} (passive : script.IsPassive) :
    Tracks True origin.Rewritten (run fuel script) (run fuel script) := by
  cases fuel with
  | zero => exact tracks_exhaust trivial _
  | succ fuel =>
      intro bench rewritten
      refine Result.tracks_same (fun _ => trivial) fun after left => ?_
      have leaves : Leaves (run (fuel + 1) script) := leaves_passive leaves_note passive
      obtain ⟨outcome, host, ended⟩ := leaves bench
      rw [← state_attempt, ended] at left
      cases left
      exact rewritten.trans (Store.Rewritten.host bench host)

theorem rewrites_protected (message : String) {body : Run Bench Unit}
    (tracks : Tracks True origin.Rewritten body body) :
    Tracks True origin.Rewritten (protectedCall message body) (protectedCall message body) := by
  apply tracks_bind (tracks_attempt tracks)
  intro outcome
  cases outcome with
  | ok => exact tracks_pure ()
  | error failure =>
      exact tracks_modify fun bench rewritten => rewritten.trans (Store.Rewritten.host bench _)

section Writes

variable (writes : ∀ less, fuel = less + 1 → ∀ signal content,
  Tracks True origin.Rewritten (write (run less) signal content) (write (run less) signal content))

include writes

theorem rewrites_react {reaction : Reaction Note} (passive : reaction.IsPassive) (content : Value) :
    Tracks True origin.Rewritten (react (run fuel) content reaction)
      (react (run fuel) content reaction) := by
  cases reaction with
  | call notify =>
      exact tracks_bind (rewrites_passive fuel (passive content)) fun _ => tracks_pure ()
  | feed target transform =>
      apply tracks_bind (rewrites_passive fuel (passive content))
      intro answer
      refine tracks_bind ?_ fun _ => tracks_pure ()
      cases fuel with
      | zero => exact tracks_exhaust trivial _
      | succ less =>
          exact tracks_bind (writes less rfl target answer.content) fun _ => tracks_pure _

theorem rewrites_write_of (passive : ∀ signal, (origin.cell signal).IsPassive)
    (signal : Nat) (content : Value) :
    Tracks True origin.Rewritten (write (run fuel) signal content)
      (write (run fuel) signal content) := by
  apply tracks_get_bind
  intro bench rewritten
  have held := rewritten.trans (Store.Rewritten.holding signal content bench)
  change ((if (bench.cell signal).isDestroyed then _ else _ : Run Bench Unit) bench).Tracks True
    origin.Rewritten _
  refine tracks_if (fun _ => tracks_pure () bench rewritten) fun _ => ?_
  refine tracks_if (fun _ => ⟨rfl, held⟩) fun _ => tracks_if
    (fun _ => tracks_pure () bench rewritten) fun _ => ?_
  refine tracks_for_each (fun subscriber member => rewrites_protected _ ?_) _ held
  rw [rewritten.subscribers] at member
  exact rewrites_react writes ((passive signal).reactions subscriber member) content

end Writes

/-- A write changes contents only, by induction on how often it is handed on to derived signals. -/
theorem rewrites_write (passive : ∀ signal, (origin.cell signal).IsPassive)
    (fuel signal : Nat) (content : Value) :
    Tracks True origin.Rewritten (write (run fuel) signal content)
      (write (run fuel) signal content) := by
  induction fuel generalizing signal content with
  | zero =>
      exact rewrites_write_of
        (fun less same => absurd same (Nat.succ_ne_zero less).symm) passive signal content
  | succ fuel ih =>
      refine rewrites_write_of (fun less same => ?_) passive signal content
      obtain rfl := Nat.succ.inj same
      exact ih

theorem rewrites_and_then {call : Caller Note Journal} {following : Answer Note → Script Note}
    (follows : ∀ answer, Tracks True origin.Rewritten
      (runScript call performNote (following answer))
      (runScript call performNote (following answer))) {script : Script Note}
      (passive : script.IsPassive) :
    Tracks True origin.Rewritten (runScript call performNote (script.andThen following))
      (runScript call performNote (script.andThen following)) := by
  induction passive with
  | finish answer => exact follows answer
  | fail failure => exact tracks_raise failure
  | read _ ih => exact tracks_bind tracks_get fun bench => ih _
  | isDestroyed _ ih => exact tracks_bind tracks_get fun bench => ih _
  | @perform effect next _ ih =>
      refine tracks_bind (tracks_attempt ?_) ih
      exact fun bench rewritten => ⟨rfl, rewritten.trans (Store.Rewritten.host bench _)⟩

theorem rewrites_update (passive : ∀ signal, (origin.cell signal).IsPassive) (fuel signal : Nat)
    {transform : Value → Script Note} (transforms : ∀ content, (transform content).IsPassive) :
    Tracks True origin.Rewritten (run fuel (Script.update signal transform .done))
      (run fuel (Script.update signal transform .done)) := by
  cases fuel with
  | zero => exact tracks_exhaust trivial _
  | succ fuel =>
      apply tracks_bind tracks_get
      intro bench
      refine rewrites_and_then (fun answer => ?_) (transforms _)
      exact tracks_bind (rewrites_write passive fuel signal answer.content) fun _ => tracks_pure _

theorem attach_rewrites {fuel signal number : Nat} {before after : Bench} {reaction : Reaction Note}
    {release : Release Note}
    (passive : ∀ other, ((before.joined signal
      { number := before.nextSubscription, reaction := reaction, release := release }).cell
      other).IsPassive)
    (reacts : reaction.IsPassive)
      (ended : attach (run fuel) signal reaction release before = .done number after) :
    number = before.nextSubscription ∧
      (before.joined signal
        { number := before.nextSubscription, reaction := reaction, release := release }).Rewritten
        after := by
  change (protectedCall _ _ >>= fun _ => pure before.nextSubscription)
    (before.joined signal
      { number := before.nextSubscription, reaction := reaction, release := release }) = _ at ended
  obtain ⟨_, middle, replayed, finished⟩ := done_of_bind ended
  cases finished
  have rewrites := rewrites_protected "Error in initial subscriber notification"
    (rewrites_react (fun (less : Nat) (_ : fuel = less + 1) => rewrites_write passive less) reacts
      (before.cell signal).content)
  exact ⟨rfl, Result.holds_of_tracks (rewrites _ (Store.Rewritten.refl _))
    (congrArg Result.state? replayed)⟩

end Runs

end Signal
end Interplay
