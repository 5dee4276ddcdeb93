import Interplay.Proofs.Signal.Custody
import Interplay.Proofs.Signal.Rewriting
import Mathlib.Logic.Relation

/-!
Lineages of signals.

Deriving a signal from another one makes it a child of that one.  Nobody lists the children of a
signal: a child is known by a record among its parent's subscribers, and keeps the number of that
record itself.  As long as callbacks only look on, the two sides fit together for every child that
is alive, apart from those that are about to be destroyed.
-/

namespace Interplay
namespace Signal

open Run

variable {ε υ α : Type}

/-- What a subscription does in the end if host code gives a teardown for it, or none. -/
def Release.ofTeardown : Option (Script ε) → Release ε
  | none => .nothing
  | some script => .call script

theorem Release.passive_of_teardown {teardown : Option (Script ε)}
    (passive : ∀ script ∈ teardown, script.IsPassive) :
    (ofTeardown teardown).IsPassive := by
  cases teardown with
  | none => trivial
  | some script => exact passive script rfl

theorem Release.teardown_destroys_nothing (teardown : Option (Script ε)) (child : Nat) :
    ofTeardown teardown ≠ .destroy child := by
  cases teardown with
  | none => exact nofun
  | some script => exact nofun

def Subscriber.Follows (record : Subscriber ε) (child : Nat) : Prop :=
  record.release = .destroy child ∧ ∃ transform, record.reaction = .feed child transform

structure Lineage where
  /-- Derived signals, beside the ones they were derived from. -/
  derivations : List (Nat × Nat)
  /-- Signals, beside the numbers of the subscriptions that host code may end. -/
  handles : List (Nat × Nat)

namespace Lineage

def empty : Lineage :=
  { derivations := [], handles := [] }

def descended (child parent : Nat) (lineage : Lineage) : Lineage :=
  { lineage with derivations := (child, parent) :: lineage.derivations }

def handed (signal number : Nat) (lineage : Lineage) : Lineage :=
  { lineage with handles := (signal, number) :: lineage.handles }

def IsChild (lineage : Lineage) (child parent : Nat) : Prop :=
  (child, parent) ∈ lineage.derivations

/-- A signal that is the root or was derived from it in one or more steps. -/
def Within (lineage : Lineage) (root signal : Nat) : Prop :=
  Relation.ReflTransGen lineage.IsChild signal root

end Lineage

/-- What operations on signals lead to while all callbacks only look on. -/
inductive Reached : Lineage → Bench → Prop
  | start : Reached .empty .empty
  | created {lineage : Lineage} {before after : Bench} {content : Value}
      {onDestroy : Option (Script Note)}
      {number : Nat} (reached : Reached lineage before)
      (passive : ∀ script ∈ onDestroy, script.IsPassive)
      (ended : create content onDestroy before = .done number after) : Reached lineage after
  | wrote {lineage : Lineage} {before after : Bench} {fuel signal : Nat} {content : Value}
      (reached : Reached lineage before)
      (left : (write (run fuel) signal content before).state? = some after) :
      Reached lineage after
  | updated {lineage : Lineage} {before after : Bench} {fuel signal : Nat}
      {transform : Value → Script Note}
      (reached : Reached lineage before) (passive : ∀ content, (transform content).IsPassive)
      (left : (run fuel (Script.update signal transform .done) before).state? = some after) :
      Reached lineage after
  | subscribed {lineage : Lineage} {before after : Bench} {fuel signal number : Nat}
      {notify : Value → Script Note}
      {teardown : Option (Script Note)} (reached : Reached lineage before)
      (alive : before.isAlive signal = true)
      (notified : ∀ content, (notify content).IsPassive)
      (released : ∀ script ∈ teardown, script.IsPassive)
      (ended : attach (run fuel) signal (.call notify)
        (.ofTeardown teardown) before = .done number after) :
      Reached (lineage.handed signal number) after
  | unsubscribed {lineage : Lineage} {before after : Bench} {signal number : Nat}
      (reached : Reached lineage before)
      (held : (signal, number) ∈ lineage.handles)
      (ended : unsubscribe signal number before = .done () after) :
      Reached lineage after
  | derived {lineage : Lineage} {before after : Bench} {fuel signal number : Nat}
      {transform : Value → Script Note}
      (reached : Reached lineage before) (alive : before.isAlive signal = true)
      (passive : ∀ content, (transform content).IsPassive)
      (ended : derive (run fuel) signal transform before = .done number after) :
      Reached (lineage.descended number signal) after
  | failed {lineage : Lineage} {before after : Bench} {fuel signal : Nat}
      {transform : Value → Script Note}
      {failure : Failure} (reached : Reached lineage before) (alive : before.isAlive signal = true)
      (passive : ∀ content, (transform content).IsPassive)
      (ended : derive (run fuel) signal transform before = .raised failure after) :
      Reached lineage after
  | destroyed {lineage : Lineage} {before after : Bench} {fuel signal : Nat}
      (reached : Reached lineage before)
      (present : signal < before.cells.size)
      (left : (destroy (run fuel) signal before).state? = some after) :
      Reached lineage after
  | cleaned {lineage : Lineage} {before after : Bench} {fuel signal : Nat}
      (reached : Reached lineage before)
      (present : signal < before.cells.size)
      (left : (clean (run fuel) signal before).state? = some after) :
      Reached lineage after

namespace Store

/-- A child and the record by which its parent knows it. -/
structure IsLinked (store : Store ε υ) (child parent : Nat) : Prop where
  alive : (store.cell parent).isDestroyed = false
  record : ∃ record ∈ (store.cell parent).subscribers,
    record.Follows child ∧ (store.cell child).parent = some (parent, record.number)

/-- How children and parents fit together; the children that are pending are about to be
destroyed. -/
structure IsFamily (lineage : Lineage) (pending : Nat → Prop) (store : Store ε υ) : Prop where
  passive : ∀ signal, (store.cell signal).IsPassive
  distinct : ∀ signal, (store.numbers signal).Nodup
  numbered : ∀ signal, ∀ record ∈ (store.cell signal).subscribers,
    record.number < store.nextSubscription
  made : ∀ child parent, lineage.IsChild child parent → parent < child ∧ child < store.cells.size
  single : ∀ child parent other, lineage.IsChild child parent →
    lineage.IsChild child other → parent = other
  recorded : ∀ signal, ∀ record ∈ (store.cell signal).subscribers, ∀ child,
    record.release = .destroy child →
    lineage.IsChild child signal
  handled : ∀ signal number, (signal, number) ∈ lineage.handles → number < store.nextSubscription
  claimed : ∀ child parent number, (store.cell child).parent = some (parent, number) →
    lineage.IsChild child parent ∧ number < store.nextSubscription ∧
    (parent, number) ∉ lineage.handles ∧
      ∀ record ∈ (store.cell parent).subscribers, record.number = number → record.Follows child
  linked : ∀ child parent, lineage.IsChild child parent → (store.cell child).isDestroyed = false →
    pending child ∨ store.IsLinked child parent

/-- A signal that is destroyed and has given up its claim on its parent. -/
def felled (signal : Nat) (store : Store ε υ) : Store ε υ :=
  store.modifyCell signal fun cell => { cell with isDestroyed := true, parent := none }

def emptied (signal : Nat) (store : Store ε υ) : Store ε υ :=
  store.modifyCell signal fun cell => { cell with subscribers := [] }

def claiming (signal : Nat) (claim : Nat × Nat) (store : Store ε υ) : Store ε υ :=
  store.modifyCell signal fun cell => { cell with parent := some claim }

@[simp] theorem content_felled (signal other : Nat) (store : Store ε υ) :
    ((store.felled signal).cell other).content = (store.cell other).content := by
  rw [felled, cell_modify_cell]
  split <;> rfl

@[simp] theorem subscribers_felled (signal other : Nat) (store : Store ε υ) :
    ((store.felled signal).cell other).subscribers = (store.cell other).subscribers := by
  rw [felled, cell_modify_cell]
  split <;> rfl

@[simp] theorem on_destroy_felled (signal other : Nat) (store : Store ε υ) :
    ((store.felled signal).cell other).onDestroy = (store.cell other).onDestroy := by
  rw [felled, cell_modify_cell]
  split <;> rfl

@[simp] theorem content_emptied (signal other : Nat) (store : Store ε υ) :
    ((store.emptied signal).cell other).content = (store.cell other).content := by
  rw [emptied, cell_modify_cell]
  split <;> rfl

@[simp] theorem destroyed_emptied (signal other : Nat) (store : Store ε υ) :
    ((store.emptied signal).cell other).isDestroyed = (store.cell other).isDestroyed := by
  rw [emptied, cell_modify_cell]
  split <;> rfl

@[simp] theorem on_destroy_emptied (signal other : Nat) (store : Store ε υ) :
    ((store.emptied signal).cell other).onDestroy = (store.cell other).onDestroy := by
  rw [emptied, cell_modify_cell]
  split <;> rfl

@[simp] theorem parent_emptied (signal other : Nat) (store : Store ε υ) :
    ((store.emptied signal).cell other).parent = (store.cell other).parent := by
  rw [emptied, cell_modify_cell]
  split <;> rfl

@[simp] theorem subscribers_claiming (signal other : Nat) (claim : Nat × Nat) (store : Store ε υ) :
    ((store.claiming signal claim).cell other).subscribers = (store.cell other).subscribers := by
  rw [claiming, cell_modify_cell]
  split <;> rfl

@[simp] theorem destroyed_claiming (signal other : Nat) (claim : Nat × Nat) (store : Store ε υ) :
    ((store.claiming signal claim).cell other).isDestroyed = (store.cell other).isDestroyed := by
  rw [claiming, cell_modify_cell]
  split <;> rfl

@[simp] theorem on_destroy_claiming (signal other : Nat) (claim : Nat × Nat) (store : Store ε υ) :
    ((store.claiming signal claim).cell other).onDestroy = (store.cell other).onDestroy := by
  rw [claiming, cell_modify_cell]
  split <;> rfl

@[simp] theorem content_removed (signal number other : Nat) (store : Store ε υ) :
    ((store.removeSubscriber signal number).cell other).content = (store.cell other).content := by
  rw [removeSubscriber, cell_modify_cell]
  split <;> rfl

@[simp] theorem destroyed_removed (signal number other : Nat) (store : Store ε υ) :
    ((store.removeSubscriber signal number).cell other).isDestroyed =
    (store.cell other).isDestroyed := by
  rw [removeSubscriber, cell_modify_cell]
  split <;> rfl

@[simp] theorem on_destroy_removed (signal number other : Nat) (store : Store ε υ) :
    ((store.removeSubscriber signal number).cell other).onDestroy =
    (store.cell other).onDestroy := by
  rw [removeSubscriber, cell_modify_cell]
  split <;> rfl

@[simp] theorem parent_removed (signal number other : Nat) (store : Store ε υ) :
    ((store.removeSubscriber signal number).cell other).parent = (store.cell other).parent := by
  rw [removeSubscriber, cell_modify_cell]
  split <;> rfl

def heir (transform : Value → Script ε) (store : Store ε υ) : Subscriber ε :=
  { number := store.nextSubscription
    reaction := .feed store.cells.size transform
    release := .destroy store.cells.size }

namespace IsFamily

variable {lineage : Lineage} {pending more : Nat → Prop} {before after store : Store ε υ}

/-- Changes that make nothing but signals on their own, and may take away records, claims and
lives. -/
theorem shrink (family : before.IsFamily lineage pending) (size : before.cells.size ≤ after.cells.size)
    (next : after.nextSubscription = before.nextSubscription)
    (subscribers : ∀ signal, (after.cell signal).subscribers.Sublist (before.cell signal).subscribers)
    (onDestroy : ∀ signal, ∀ script ∈ (after.cell signal).onDestroy, script.IsPassive)
    (claims : ∀ signal, (after.cell signal).parent = (before.cell signal).parent ∨ (after.cell signal).parent = none)
    (linked : ∀ child parent, lineage.IsChild child parent → (after.cell child).isDestroyed = false →
      more child ∨ after.IsLinked child parent) : after.IsFamily lineage more where
  passive := fun signal =>
    { reactions := fun record member => (family.passive signal).reactions record ((subscribers signal).subset member)
      releases := fun record member => (family.passive signal).releases record ((subscribers signal).subset member)
      onDestroy := onDestroy signal }
  distinct := fun signal => (family.distinct signal).sublist ((subscribers signal).map Subscriber.number)
  numbered := by
    intro signal record member
    rw [next]
    exact family.numbered signal record ((subscribers signal).subset member)
  made := by
    intro child parent isChild
    obtain ⟨younger, present⟩ := family.made child parent isChild
    exact ⟨younger, Nat.lt_of_lt_of_le present size⟩
  single := family.single
  recorded := fun signal record member => family.recorded signal record ((subscribers signal).subset member)
  handled := by
    intro signal number handle
    rw [next]
    exact family.handled signal number handle
  claimed := by
    intro child parent number claim
    rcases claims child with same | gone
    · rw [next]
      obtain ⟨isChild, numbered, apart, follows⟩ := family.claimed child parent number (same ▸ claim)
      exact ⟨isChild, numbered, apart, fun record member => follows record ((subscribers parent).subset member)⟩
    · rw [gone] at claim
      cases claim
  linked := linked

/-- A child is no longer pending once it is destroyed. -/
theorem settle (family : store.IsFamily lineage more)
    (settled : ∀ child, more child → pending child ∨ (store.cell child).isDestroyed = true) :
    store.IsFamily lineage pending :=
  { family with
    linked := by
      intro child parent isChild alive
      rcases family.linked child parent isChild alive with awaited | link
      · refine .inl ((settled child awaited).resolve_right fun dead => ?_)
        rw [alive] at dead
        cases dead
      · exact .inr link }

theorem rewrite (family : before.IsFamily lineage pending) (rewritten : before.Rewritten after) :
    after.IsFamily lineage pending := by
  apply family.shrink (Nat.le_of_eq rewritten.size.symm) rewritten.next
  case subscribers => exact fun signal => rewritten.subscribers signal ▸ List.Sublist.refl _
  case onDestroy => exact fun signal => rewritten.on_destroy signal ▸
    (family.passive signal).onDestroy
  case claims => exact fun signal => .inl (rewritten.parent signal)
  case linked =>
    intro child parent isChild alive
    rw [rewritten.is_destroyed] at alive
    refine (family.linked child parent isChild alive).imp_right fun link => ?_
    obtain ⟨record, member, follows, claim⟩ := link.record
    exact
      { alive := (rewritten.is_destroyed parent).trans link.alive
        record := ⟨record, rewritten.subscribers parent ▸ member, follows,
          (rewritten.parent child).trans claim⟩ }

theorem add (family : store.IsFamily lineage pending) (content : Value)
    {onDestroy : Option (Script ε)} (passive : ∀ script ∈ onDestroy, script.IsPassive) :
    (store.addCell (Cell.fresh content onDestroy)).2.IsFamily lineage pending := by
  have absent : store.cell store.cells.size = Cell.fresh .null none := by
    simp [cell]
  have same : ∀ {β : Type} (field : Cell ε → β), field (Cell.fresh content onDestroy) = field
      (Cell.fresh .null none) →
      ∀ signal, field ((store.addCell (Cell.fresh content onDestroy)).2.cell signal) = field
        (store.cell signal) := by
    intro β field apart signal
    rw [cell_add_cell]
    split
    case isTrue last => rw [last, absent, apart]
    case isFalse => rfl
  apply family.shrink
  case size => simp [addCell]
  case next => rfl
  case subscribers => exact fun signal => same Cell.subscribers rfl signal ▸ List.Sublist.refl _
  case claims => exact fun signal => .inl (same Cell.parent rfl signal)
  case onDestroy =>
    intro signal
    rw [cell_add_cell]
    split
    · exact passive
    · exact (family.passive signal).onDestroy
  case linked =>
    intro child parent isChild alive
    rw [same Cell.isDestroyed rfl] at alive
    refine (family.linked child parent isChild alive).imp_right fun link => ?_
    obtain ⟨record, member, follows, claim⟩ := link.record
    exact
      { alive := (same Cell.isDestroyed rfl parent).trans link.alive
        record := ⟨record, (same Cell.subscribers rfl parent).symm ▸ member, follows,
          (same Cell.parent rfl child).trans claim⟩ }

theorem mark (family : store.IsFamily lineage pending) (signal : Nat) (wider : ∀ child, pending child → more child)
    (covered : ∀ child, store.IsLinked child signal → more child) : (store.felled signal).IsFamily lineage more := by
  apply family.shrink
  case size => exact Nat.le_of_eq (size_modify_cell _ _ _).symm
  case next => rfl
  case subscribers => simp
  case onDestroy => exact fun other => on_destroy_felled signal other store ▸ (family.passive other).onDestroy
  case claims =>
    intro other
    rw [felled, cell_modify_cell]
    split
    · exact .inr rfl
    · exact .inl rfl
  case linked =>
    intro child parent isChild alive
    have present := (family.made child parent isChild).2
    have apart : signal ≠ child := by
      rintro rfl
      rw [felled, cell_modify_cell, if_pos ⟨rfl, present⟩] at alive
      cases alive
    have same : (store.felled signal).cell child = store.cell child := by
      rw [felled, cell_modify_cell, if_neg fun here => apart here.1]
    rw [same] at alive
    rcases family.linked child parent isChild alive with awaited | link
    · exact .inl (wider child awaited)
    by_cases here : signal = parent
    · subst here
      exact .inl (covered child link)
    · obtain ⟨record, member, follows, claim⟩ := link.record
      have other : (store.felled signal).cell parent = store.cell parent := by
        rw [felled, cell_modify_cell, if_neg fun same => here same.1]
      exact .inr { alive := other ▸ link.alive, record := ⟨record, other ▸ member, follows, same ▸ claim⟩ }

theorem remove (family : store.IsFamily lineage pending) {signal number : Nat}
    (unclaimed : ∀ child, store.IsLinked child signal →
      (store.cell child).parent ≠ some (signal, number)) :
    (store.removeSubscriber signal number).IsFamily lineage pending := by
  apply family.shrink
  case size => exact Nat.le_of_eq (size_modify_cell _ _ _).symm
  case next => rfl
  case subscribers =>
    intro other
    rw [removeSubscriber, cell_modify_cell]
    split
    · exact List.filter_sublist
    · exact List.Sublist.refl _
  case onDestroy => exact fun other => on_destroy_removed signal number other store ▸
    (family.passive other).onDestroy
  case claims => exact fun other => .inl (parent_removed signal number other store)
  case linked =>
    intro child parent isChild alive
    rw [destroyed_removed] at alive
    refine (family.linked child parent isChild alive).imp_right fun link => ?_
    obtain ⟨record, member, follows, claim⟩ := link.record
    have kept : record ∈ ((store.removeSubscriber signal number).cell parent).subscribers := by
      rw [removeSubscriber, cell_modify_cell]
      split
      case isFalse => exact member
      case isTrue here =>
        refine List.mem_filter.mpr ⟨member, bne_iff_ne.mpr fun same => ?_⟩
        obtain ⟨rfl, _⟩ := here
        exact unclaimed child link (same ▸ claim)
    exact
      { alive := (destroyed_removed signal number parent store).trans link.alive
        record := ⟨record, kept, follows, (parent_removed signal number child store).trans claim⟩ }

theorem drop (family : store.IsFamily lineage pending) (signal : Nat)
    (wider : ∀ child, pending child → more child)
    (covered : ∀ child, store.IsLinked child signal → more child) :
    (store.emptied signal).IsFamily lineage more := by
  apply family.shrink
  case size => exact Nat.le_of_eq (size_modify_cell _ _ _).symm
  case next => rfl
  case subscribers =>
    intro other
    rw [emptied, cell_modify_cell]
    split
    · exact List.nil_sublist _
    · exact List.Sublist.refl _
  case onDestroy => exact fun other => on_destroy_emptied signal other store ▸
    (family.passive other).onDestroy
  case claims => exact fun other => .inl (parent_emptied signal other store)
  case linked =>
    intro child parent isChild alive
    rw [destroyed_emptied] at alive
    rcases family.linked child parent isChild alive with awaited | link
    · exact .inl (wider child awaited)
    by_cases here : signal = parent
    · subst here
      exact .inl (covered child link)
    · obtain ⟨record, member, follows, claim⟩ := link.record
      have kept : record ∈ ((store.emptied signal).cell parent).subscribers := by
        rw [emptied, cell_modify_cell, if_neg fun same => here same.1]
        exact member
      exact .inr
        { alive := (destroyed_emptied signal parent store).trans link.alive
          record := ⟨record, kept, follows, (parent_emptied signal child store).trans claim⟩ }

theorem join (family : store.IsFamily lineage pending) {signal : Nat} {subscriber : Subscriber ε}
    (numbered : subscriber.number = store.nextSubscription) (reacts : subscriber.reaction.IsPassive)
    (releases : subscriber.release.IsPassive)
    (recorded : ∀ child, subscriber.release = .destroy child → lineage.IsChild child signal) :
    (store.joined signal subscriber).IsFamily lineage pending where
  passive := passive_joined family.passive reacts releases
  distinct := by
    intro other
    rw [numbers, cell_joined]
    split
    · rw [List.map_append]
      refine (family.distinct other).append (List.nodup_singleton _) fun number old new => ?_
      obtain ⟨record, member, rfl⟩ := List.mem_map.mp old
      have young := family.numbered other record member
      rw [List.mem_singleton.mp new, numbered] at young
      exact Nat.lt_irrefl _ young
    · exact family.distinct other
  numbered := by
    intro other record member
    rcases mem_joined member with older | ⟨_, rfl⟩
    · exact Nat.lt_succ_of_lt (family.numbered other record older)
    · exact numbered ▸ Nat.lt_succ_self _
  made := by
    intro child parent isChild
    have size : (store.joined signal subscriber).cells.size = store.cells.size :=
      size_modify_cell signal _ store
    rw [size]
    exact family.made child parent isChild
  single := family.single
  recorded := by
    intro other record member child released
    rcases mem_joined member with older | ⟨rfl, rfl⟩
    · exact family.recorded other record older child released
    · exact recorded child released
  handled := fun other number handle => Nat.lt_succ_of_lt (family.handled other number handle)
  claimed := by
    intro child parent number claim
    rw [parent_joined] at claim
    obtain ⟨isChild, older, apart, follows⟩ := family.claimed child parent number claim
    refine ⟨isChild, Nat.lt_succ_of_lt older, apart, fun record member same => ?_⟩
    rcases mem_joined member with old | ⟨_, rfl⟩
    · exact follows record old same
    · rw [← same, numbered] at older
      exact absurd older (Nat.lt_irrefl _)
  linked := by
    intro child parent isChild alive
    rw [destroyed_joined] at alive
    refine (family.linked child parent isChild alive).imp_right fun link => ?_
    obtain ⟨record, member, follows, claim⟩ := link.record
    exact
      { alive := (destroyed_joined signal parent subscriber store).trans link.alive
        record := ⟨record, joined_of_mem member, follows,
          (parent_joined signal child subscriber store).trans claim⟩ }

/-- A number that no child claims may be given to host code. -/
theorem hand (family : store.IsFamily lineage pending) {signal number : Nat}
    (given : number < store.nextSubscription)
    (unclaimed : ∀ child, (store.cell child).parent ≠ some (signal, number)) :
    store.IsFamily (lineage.handed signal number) pending :=
  { family with
    handled := by
      intro other known handle
      rcases List.mem_cons.mp handle with new | old
      · cases new
        exact given
      · exact family.handled other known old
    claimed := by
      intro child parent known claim
      obtain ⟨isChild, older, apart, follows⟩ := family.claimed child parent known claim
      refine ⟨isChild, older, fun handle => ?_, follows⟩
      rcases List.mem_cons.mp handle with new | old
      · cases new
        exact unclaimed child claim
      · exact apart old }

/-- A signal without parent is made the child of an older one, where it is yet to be recorded. -/
theorem descend (family : store.IsFamily lineage pending) {child parent : Nat}
    (younger : parent < child)
    (present : child < store.cells.size) (orphan : ∀ other, ¬lineage.IsChild child other) :
    store.IsFamily (lineage.descended child parent) fun other => pending other ∨ other = child :=
  { family with
    made := by
      intro other older isChild
      rcases List.mem_cons.mp isChild with new | old
      · cases new
        exact ⟨younger, present⟩
      · exact family.made other older old
    single := by
      intro other first second isFirst isSecond
      rcases List.mem_cons.mp isFirst with new | old
      · cases new
        rcases List.mem_cons.mp isSecond with new | old
        · cases new
          rfl
        · exact absurd old (orphan second)
      · rcases List.mem_cons.mp isSecond with new | older
        · cases new
          exact absurd old (orphan first)
        · exact family.single other first second old older
    recorded := fun signal record member other released =>
      List.mem_cons_of_mem _ (family.recorded signal record member other released)
    claimed := by
      intro other older number claim
      obtain ⟨isChild, rest⟩ := family.claimed other older number claim
      exact ⟨List.mem_cons_of_mem _ isChild, rest⟩
    linked := by
      intro other older isChild alive
      rcases List.mem_cons.mp isChild with new | old
      · cases new
        exact .inl (.inr rfl)
      · exact (family.linked other older old alive).imp_left .inl }

/-- A child is made and then recorded by its parent, which it has yet to claim. -/
theorem graft (family : store.IsFamily lineage pending) {parent : Nat}
    (present : parent < store.cells.size)
    (content : Value) {transform : Value → Script ε}
    (passive : ∀ content, (transform content).IsPassive) :
    ((store.addCell (Cell.fresh content none)).2.joined parent (store.heir transform)).IsFamily
      (lineage.descended store.cells.size parent) fun other => pending other ∨
      other = store.cells.size := by
  have size : (store.addCell (Cell.fresh content none)).2.cells.size = store.cells.size + 1 :=
    Array.size_push _
  have orphan : ∀ other, ¬lineage.IsChild store.cells.size other :=
    fun other isChild => Nat.lt_irrefl _ (family.made _ other isChild).2
  have made : (store.addCell (Cell.fresh content none)).2.IsFamily lineage pending :=
    family.add content nofun
  apply (made.descend present (size ▸ Nat.lt_succ_self _) orphan).join
  case numbered => rfl
  case reacts => exact passive
  case releases => trivial
  case recorded =>
    intro child released
    cases released
    exact List.mem_cons_self

/-- A child that is recorded takes the number of its record. -/
theorem adopt {child : Nat}
    (family : store.IsFamily lineage fun other => pending other ∨ other = child) {parent : Nat}
    (isChild : lineage.IsChild child parent) (alive : (store.cell parent).isDestroyed = false)
    {record : Subscriber ε} (member : record ∈ (store.cell parent).subscribers)
    (follows : record.Follows child) (free : (parent, record.number) ∉ lineage.handles) :
    (store.claiming child (parent, record.number)).IsFamily lineage pending := by
  have claims : ((store.claiming child (parent, record.number)).cell child).parent =
      some (parent, record.number) := by
    rw [claiming, cell_modify_cell, if_pos ⟨rfl, (family.made child parent isChild).2⟩]
  have others : ∀ other ≠ child, (store.claiming child (parent, record.number)).cell other =
      store.cell other := by
    intro other apart
    rw [claiming, cell_modify_cell, if_neg fun same => apart same.1.symm]
  have size : (store.claiming child (parent, record.number)).cells.size = store.cells.size :=
    size_modify_cell child _ store
  exact
    { passive := fun signal =>
        { reactions := by simpa using (family.passive signal).reactions
          releases := by simpa using (family.passive signal).releases
          onDestroy := by simpa using (family.passive signal).onDestroy }
      distinct := by simpa [numbers] using family.distinct
      numbered := by
        intro signal
        rw [subscribers_claiming]
        exact family.numbered signal
      made := size ▸ family.made
      single := family.single
      recorded := by simpa using family.recorded
      handled := family.handled
      claimed := by
        intro other older number claim
        rw [subscribers_claiming]
        by_cases same : other = child
        · subst same
          obtain ⟨rfl, rfl⟩ := Prod.mk.inj (Option.some.inj (claims.symm.trans claim))
          refine ⟨isChild, family.numbered _ record member, free, fun twin listed same => ?_⟩
          rw [List.inj_on_of_nodup_map (family.distinct _) listed member same]
          exact follows
        · rw [others other same] at claim
          exact family.claimed other older number claim
      linked := by
        intro other older isOlder living
        rw [destroyed_claiming] at living
        by_cases same : other = child
        · subst same
          obtain rfl := family.single _ _ _ isChild isOlder
          exact .inr
            { alive := (destroyed_claiming _ _ _ _).trans alive
              record := ⟨record, (subscribers_claiming _ _ _ _).symm ▸ member, follows, claims⟩ }
        · rcases family.linked other older isOlder living with awaited | link
          · exact .inl (awaited.resolve_right same)
          · obtain ⟨own, listed, follows, claim⟩ := link.record
            exact .inr
              { alive := (destroyed_claiming _ _ _ _).trans link.alive
                record := ⟨own, (subscribers_claiming _ _ _ _).symm ▸ listed, follows,
                  (others other same).symm ▸ claim⟩ } }

/-- Whatever was derived from a destroyed signal is destroyed, as long as nothing is pending. -/
theorem dead_of_within (family : store.IsFamily lineage fun _ => False) {root signal : Nat}
    (within : lineage.Within root signal) (dead : (store.cell root).isDestroyed = true) :
    (store.cell signal).isDestroyed = true := by
  induction within using Relation.ReflTransGen.head_induction_on with
  | refl => exact dead
  | @head child parent isChild _ ih =>
      cases life : (store.cell child).isDestroyed with
      | true => rfl
      | false =>
          have link := (family.linked child parent isChild life).resolve_left id
          rw [link.alive] at ih
          cases ih

end IsFamily
end Store
end Signal
end Interplay
