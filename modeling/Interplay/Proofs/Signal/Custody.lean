import Interplay.Proofs.Signal.Observation
import Mathlib.Data.List.Nodup

/-!
Custody of subscribers.

Whoever subscribes to a live signal is held by it until he is taken off or torn down, and is torn
down once at most.  Callbacks run in the middle of such steps, so the statement says what the steps
under way still have to do: who has yet to be told, who is about to be torn down and which marked
signals still hold somebody.
-/

namespace Interplay
namespace Signal

variable {ε κ υ : Type}

/-- A new element in a list stands in its old part or in what was added. -/
theorem split_of_append {α : Type} {item : α} {before more earlier later : List α}
    (same : before ++ more = earlier ++ item :: later) (absent : item ∉ more) :
    ∃ between, before = earlier ++ item :: between ∧ later = between ++ more := by
  rcases List.append_eq_append_iff.mp same with ⟨between, _, tail⟩ | ⟨between, front, tail⟩
  · exact absurd (tail ▸ List.mem_append_right _ List.mem_cons_self) absent
  · cases between with
    | nil =>
        have added : item ∈ [] ++ more := tail ▸ List.mem_cons_self
        exact absurd added absent
    | cons first between =>
        obtain ⟨rfl, rfl⟩ := List.cons.inj tail
        exact ⟨between, front, rfl⟩

/-- An element of a list with one more at its end is that one or stands before it. -/
theorem split_of_concat {α : Type} {item last : α} {before earlier later : List α}
    (same : before ++ [last] = earlier ++ item :: later) :
    (before = earlier ∧ last = item ∧ later = []) ∨
      ∃ between, before = earlier ++ item :: between ∧ later = between ++ [last] := by
  rcases List.eq_nil_or_concat later with rfl | ⟨between, ending, rfl⟩
  · obtain ⟨front, tail⟩ := List.append_inj' same rfl
    exact .inl ⟨front, (List.cons.inj tail).1, rfl⟩
  · rw [List.concat_eq_append, ← List.cons_append, ← List.append_assoc] at same
    obtain ⟨front, tail⟩ := List.append_inj' same rfl
    refine .inr ⟨between, front, ?_⟩
    rw [List.concat_eq_append, tail]

def enrolled (signal : Nat) (subscribers : List (Subscriber ε)) : List (Nat × Nat) :=
  subscribers.map fun subscriber => (signal, subscriber.number)

theorem mem_enrolled {signal other number : Nat} {subscribers : List (Subscriber ε)} :
    (other, number) ∈ enrolled signal subscribers ↔
      signal = other ∧ number ∈ subscribers.map Subscriber.number := by
  rw [enrolled, List.mem_map, List.mem_map]
  constructor
  · rintro ⟨found, member, same⟩
    cases same
    exact ⟨rfl, found, member, rfl⟩
  · rintro ⟨rfl, found, member, rfl⟩
    exact ⟨found, member, rfl⟩

structure Agenda where
  /-- Signals with subscribers who have yet to be told. -/
  pending : List (Nat × Nat)
  /-- Signals with subscribers who are dropped and have yet to be torn down. -/
  loose : List (Nat × Nat)
  /-- Signals that are marked destroyed and have yet to drop their subscribers. -/
  closing : List Nat

def Agenda.nothing : Agenda :=
  { pending := [], loose := [], closing := [] }

def Departed (happenings : List (Happening κ)) (signal subscriber : Nat) : Prop :=
  .left signal subscriber ∈ happenings ∨ .released signal subscriber ∈ happenings

theorem departed_append {first second : List (Happening κ)} {signal subscriber : Nat} :
    Departed (first ++ second) signal subscriber ↔
      Departed first signal subscriber ∨ Departed second signal subscriber := by
  simp only [Departed, List.mem_append]
  tauto

def Happening.released? : Happening κ → Option (Nat × Nat)
  | released signal subscriber => some (signal, subscriber)
  | _ => none

/-- The subscribers that were torn down, in order. -/
def releases (happenings : List (Happening κ)) : List (Nat × Nat) :=
  happenings.filterMap Happening.released?

@[simp] theorem releases_append (first second : List (Happening κ)) :
    releases (first ++ second) = releases first ++ releases second :=
  List.filterMap_append

theorem mem_releases {happenings : List (Happening κ)} {signal subscriber : Nat} :
    (signal, subscriber) ∈ releases happenings ↔ .released signal subscriber ∈ happenings := by
  constructor
  · intro member
    obtain ⟨happening, listed, same⟩ := List.mem_filterMap.mp member
    cases happening <;> cases same
    exact listed
  · exact fun member => List.mem_filterMap.mpr ⟨_, member, rfl⟩

def Happening.IsReport : Happening κ → Prop
  | written _ _ => True
  | notified _ => True
  | own _ => True
  | _ => False

theorem releases_of_reports {more : List (Happening κ)}
    (reports : ∀ happening ∈ more, happening.IsReport) :
    releases more = [] := by
  refine List.filterMap_eq_nil_iff.mpr fun happening member => ?_
  have report := reports happening member
  cases happening with
  | released signal subscriber => exact report.elim
  | _ => rfl

/-- What holds of a report also holds where it is made or not. -/
theorem forall_mem_choice {test : Prop} [Decidable test] {happening : Happening κ}
    {property : Happening κ → Prop}
    (holds : property happening) : ∀ other ∈ if test then [happening] else [], property other := by
  split
  · exact List.forall_mem_singleton.mpr holds
  · exact List.forall_mem_nil _

namespace Store

/-- The numbers of a signal's subscribers, in order of subscription. -/
def numbers (signal : Nat) (store : Store ε υ) : List Nat :=
  (store.cell signal).subscribers.map Subscriber.number

def Holds (store : Store ε υ) (signal subscriber : Nat) : Prop :=
  subscriber ∈ store.numbers signal

theorem numbers_of_absent {store : Store ε υ} {signal : Nat} (absent : ¬signal < store.cells.size) :
    store.numbers signal = [] := by
  simp [numbers, cell, Array.getElem?_eq_none (Nat.le_of_not_lt absent), Cell.fresh]

theorem Holds.present {store : Store ε υ} {signal subscriber : Nat}
    (holds : store.Holds signal subscriber) :
    signal < store.cells.size := by
  by_contra absent
  rw [Holds, numbers_of_absent absent] at holds
  cases holds

theorem numbers_modify_cell (signal other : Nat) (change : Cell ε → Cell ε) (store : Store ε υ) :
    (store.modifyCell signal change).numbers other =
      if signal = other ∧ other < store.cells.size then
        (change (store.cell other)).subscribers.map Subscriber.number
      else store.numbers other := by
  rw [numbers, cell_modify_cell]
  split <;> rfl

theorem numbers_of_same {change : Cell ε → Cell ε}
    (same : ∀ cell, (change cell).subscribers = cell.subscribers)
    (signal other : Nat) (store : Store ε υ) :
    (store.modifyCell signal change).numbers other = store.numbers other := by
  rw [numbers_modify_cell]
  split
  · rw [same]
    rfl
  · rfl

@[simp] theorem happenings_told (happening : Happening κ) (store : Store ε (Observed κ υ)) :
    (store.told happening).happenings = store.happenings ++ [happening] :=
  rfl

theorem size_modify_cell (signal : Nat) (change : Cell ε → Cell ε) (store : Store ε υ) :
    (store.modifyCell signal change).cells.size = store.cells.size :=
  Array.size_modify

/-- How subscribers are kept, while an agenda is under way. -/
structure InCustody (agenda : Agenda) (store : Store ε (Observed κ υ)) : Prop where
  distinct : ∀ signal, (store.numbers signal).Nodup
  numbered : ∀ signal subscriber, store.Holds signal subscriber →
    subscriber < store.nextSubscription
  gone : ∀ signal subscriber, Departed store.happenings signal subscriber →
    subscriber < store.nextSubscription ∧ ¬store.Holds signal subscriber
  once : (releases store.happenings ++ agenda.loose).Nodup
  dropped : ∀ signal subscriber, (signal, subscriber) ∈ agenda.loose →
    subscriber < store.nextSubscription ∧ ¬store.Holds signal subscriber
  kept : ∀ signal subscriber, .attached signal subscriber true ∈ store.happenings →
    store.Holds signal subscriber ∨ Departed store.happenings signal subscriber ∨
    (signal, subscriber) ∈ agenda.loose
  closed : ∀ signal subscriber, .attached signal subscriber true ∈ store.happenings →
    store.Holds signal subscriber → (store.cell signal).isDestroyed = true → signal ∈ agenda.closing
  swept : ∀ earlier signal later, store.happenings = earlier ++ .emptied signal :: later →
    ∀ subscriber, .attached signal subscriber true ∈ earlier → ¬store.Holds signal subscriber
  fixed : ∀ signal content, .destroyed signal content ∈ store.happenings →
    signal < store.cells.size ∧ (store.cell signal).isDestroyed = true ∧
    (store.cell signal).content = content

/-- What a step leaves as it was when it subscribes nobody. -/
structure PartsTo (before after : Store ε (Observed κ υ)) (more : List (Happening κ)) : Prop where
  told : after.happenings = before.happenings ++ more
  next : after.nextSubscription = before.nextSubscription
  size : before.cells.size ≤ after.cells.size
  numbers : ∀ signal, (after.numbers signal).Sublist (before.numbers signal)
  nobody : ∀ signal subscriber live, .attached signal subscriber live ∉ more
  standing : ∀ signal < before.cells.size, (before.cell signal).isDestroyed = true →
    (after.cell signal).isDestroyed = true ∧ (after.cell signal).content =
    (before.cell signal).content

namespace PartsTo

variable {before after : Store ε (Observed κ υ)} {more : List (Happening κ)}
    {signal subscriber : Nat}

theorem held (parting : before.PartsTo after more) (holds : after.Holds signal subscriber) :
    before.Holds signal subscriber :=
  (parting.numbers signal).subset holds

theorem attached (parting : before.PartsTo after more) {live : Bool}
    (attached : .attached signal subscriber live ∈ after.happenings) :
    .attached signal subscriber live ∈ before.happenings :=
  (List.mem_append.mp (parting.told ▸ attached)).resolve_right
    (parting.nobody signal subscriber live)

end PartsTo

namespace InCustody

variable {agenda next : Agenda} {before after : Store ε (Observed κ υ)}

/-- A step that subscribes nobody, from what it says of those it takes off, drops and tears down. -/
theorem parted (custody : before.InCustody agenda) {more : List (Happening κ)}
    (parting : before.PartsTo after more)
    (once : (releases before.happenings ++ releases more ++ next.loose).Nodup)
    (gone : ∀ signal subscriber, Departed more signal subscriber →
      subscriber < before.nextSubscription ∧ ¬after.Holds signal subscriber)
    (dropped : ∀ signal subscriber, (signal, subscriber) ∈ next.loose →
      (signal, subscriber) ∈ agenda.loose ∨ before.Holds signal subscriber ∧
      ¬after.Holds signal subscriber)
    (kept : ∀ signal subscriber, before.Holds signal subscriber ∨
      (signal, subscriber) ∈ agenda.loose →
      after.Holds signal subscriber ∨ Departed more signal subscriber ∨
      (signal, subscriber) ∈ next.loose)
    (closed : ∀ signal subscriber, after.Holds signal subscriber →
      (after.cell signal).isDestroyed = true →
      ((before.cell signal).isDestroyed = true → signal ∈ agenda.closing) → signal ∈ next.closing)
    (swept : ∀ signal, .emptied signal ∈ more → ∀ subscriber, ¬after.Holds signal subscriber)
    (fixed : ∀ signal content, .destroyed signal content ∈ more →
      signal < after.cells.size ∧ (after.cell signal).isDestroyed = true ∧
      (after.cell signal).content = content) :
    after.InCustody next :=
  { distinct := fun signal => (custody.distinct signal).sublist (parting.numbers signal)
    numbered := by
      intro signal subscriber holds
      rw [parting.next]
      exact custody.numbered signal subscriber (parting.held holds)
    gone := by
      intro signal subscriber away
      rw [parting.next]
      rcases departed_append.mp (parting.told ▸ away) with older | late
      · obtain ⟨numbered, absent⟩ := custody.gone signal subscriber older
        exact ⟨numbered, fun holds => absent (parting.held holds)⟩
      · exact gone signal subscriber late
    once := by
      rw [parting.told, releases_append]
      exact once
    dropped := by
      intro signal subscriber loose
      rw [parting.next]
      rcases dropped signal subscriber loose with older | ⟨held, absent⟩
      · obtain ⟨numbered, absent⟩ := custody.dropped signal subscriber older
        exact ⟨numbered, fun holds => absent (parting.held holds)⟩
      · exact ⟨custody.numbered signal subscriber held, absent⟩
    kept := by
      intro signal subscriber attached
      rw [parting.told, departed_append]
      rcases custody.kept signal subscriber (parting.attached attached) with held | away | loose
      · exact (kept signal subscriber (.inl held)).imp_right (.imp_left .inr)
      · exact .inr (.inl (.inl away))
      · exact (kept signal subscriber (.inr loose)).imp_right (.imp_left .inr)
    closed := by
      intro signal subscriber attached holds destroyed
      refine closed signal subscriber holds destroyed fun destroyedBefore => ?_
      exact custody.closed signal subscriber (parting.attached attached)
        (parting.held holds) destroyedBefore
    swept := by
      intro earlier signal later split subscriber attached holds
      by_cases late : .emptied signal ∈ more
      · exact swept signal late subscriber holds
      · obtain ⟨between, front, _⟩ := split_of_append (parting.told ▸ split) late
        exact custody.swept earlier signal between front subscriber attached (parting.held holds)
    fixed := by
      intro signal content marked
      rcases List.mem_append.mp (parting.told ▸ marked) with older | late
      · obtain ⟨present, destroyed, same⟩ := custody.fixed signal content older
        obtain ⟨still, kept⟩ := parting.standing signal present destroyed
        exact ⟨Nat.lt_of_lt_of_le present parting.size, still, kept.trans same⟩
      · exact fixed signal content late }

theorem quiet (custody : before.InCustody agenda) {more : List (Happening κ)}
    (told : after.happenings = before.happenings ++ more)
    (reports : ∀ happening ∈ more, happening.IsReport)
    (numbers : ∀ signal, after.numbers signal = before.numbers signal)
    (next : after.nextSubscription = before.nextSubscription)
    (size : before.cells.size ≤ after.cells.size)
    (standing : ∀ signal < before.cells.size, (after.cell signal).isDestroyed =
      (before.cell signal).isDestroyed ∧
      ((before.cell signal).isDestroyed = true →
        (after.cell signal).content = (before.cell signal).content)) :
    after.InCustody agenda := by
  have holds : ∀ signal subscriber, after.Holds signal subscriber ↔
      before.Holds signal subscriber :=
    fun signal subscriber => by rw [Holds, numbers, Holds]
  have none : ∀ signal subscriber, ¬Departed more signal subscriber := by
    rintro signal subscriber (late | late)
    · exact reports _ late
    · exact reports _ late
  have parting : before.PartsTo after more :=
    { told := told
      next := next
      size := size
      numbers := fun signal => numbers signal ▸ List.Sublist.refl _
      nobody := fun _ _ _ late => reports _ late
      standing := by
        intro signal present destroyed
        obtain ⟨still, kept⟩ := standing signal present
        exact ⟨still.trans destroyed, kept destroyed⟩ }
  refine custody.parted parting ?once ?gone ?dropped ?kept ?closed ?swept ?fixed
  case once =>
    rw [releases_of_reports reports, List.append_nil]
    exact custody.once
  case gone => exact fun signal subscriber away => absurd away (none signal subscriber)
  case dropped => exact fun _ _ loose => .inl loose
  case kept => exact fun signal subscriber => .imp (holds signal subscriber).mpr .inr
  case closed =>
    intro signal subscriber held destroyed known
    rw [(standing signal ((holds signal subscriber).mp held).present).1] at destroyed
    exact known destroyed
  case swept => exact fun _ late => (reports _ late).elim
  case fixed => exact fun _ _ late => (reports _ late).elim

theorem report (custody : before.InCustody agenda) {happening : Happening κ}
    (report : happening.IsReport) :
    (before.told happening).InCustody agenda :=
  custody.quiet rfl (List.forall_mem_singleton.mpr report) (fun _ => rfl) rfl (Nat.le_refl _)
    fun _ _ => ⟨rfl, fun _ => rfl⟩

/-- Changes of one signal that leave its subscribers and its mark, and its content once it is
marked. -/
theorem modified (custody : before.InCustody agenda) {signal : Nat} {change : Cell ε → Cell ε}
    (subscribers : ∀ cell, (change cell).subscribers = cell.subscribers)
    (mark : ∀ cell, (change cell).isDestroyed = cell.isDestroyed)
    (content : (before.cell signal).isDestroyed = true →
      (change (before.cell signal)).content = (before.cell signal).content) :
    (before.modifyCell signal change).InCustody agenda := by
  refine custody.quiet (List.append_nil _).symm (List.forall_mem_nil _)
    (numbers_of_same subscribers signal · before)
    rfl (Nat.le_of_eq (size_modify_cell signal change before).symm) fun other _ => ?_
  rw [cell_modify_cell]
  split
  · rename_i here
    obtain ⟨rfl, _⟩ := here
    exact ⟨mark _, content⟩
  · exact ⟨rfl, fun _ => rfl⟩

theorem stored (custody : before.InCustody agenda) {signal : Nat} (content : Value)
    (alive : (before.cell signal).isDestroyed = false) :
    (before.stored signal content).InCustody agenda := by
  have changed : (before.modifyCell signal fun cell => { cell with content := content }).InCustody
      agenda :=
    custody.modified (fun _ => rfl) (fun _ => rfl) fun destroyed =>
      by rw [alive] at destroyed; cases destroyed
  unfold Store.stored
  split
  · exact changed.report trivial
  · exact changed

theorem created (custody : before.InCustody agenda) (content : Value)
    (onDestroy : Option (Script ε)) :
    (before.addCell (Cell.fresh content onDestroy)).2.InCustody agenda := by
  refine custody.quiet (List.append_nil _).symm (List.forall_mem_nil _) (fun signal => ?_) rfl
    (by simp [addCell]) fun signal present => ?_
  · rw [numbers, numbers, cell_add_cell]
    split
    · rename_i young
      simp [young, cell, Cell.fresh]
    · rfl
  · rw [cell_add_cell, if_neg (Nat.ne_of_lt present)]
    exact ⟨rfl, fun _ => rfl⟩

theorem rehosted (custody : before.InCustody agenda) (host : υ) :
    InCustody agenda { before with host := { before.host with host := host } } :=
  custody.quiet (List.append_nil _).symm (List.forall_mem_nil _) (fun _ => rfl) rfl (Nat.le_refl _)
    fun _ _ => ⟨rfl, fun _ => rfl⟩

end InCustody

section Subscribed

variable (signal : Nat) (reaction : Reaction ε) (release : Release ε)
    (store : Store ε (Observed κ υ))

theorem numbers_subscribed (other : Nat) :
    (store.subscribed signal reaction release).numbers other =
      store.numbers other ++ if signal = other ∧ other < store.cells.size then
        [store.nextSubscription] else [] := by
  change (store.modifyCell signal _).numbers other = _
  rw [numbers_modify_cell]
  split
  · simp [numbers]
  · simp

theorem holds_subscribed {other subscriber : Nat} :
    (store.subscribed signal reaction release).Holds other subscriber ↔
    store.Holds other subscriber ∨
      (signal = other ∧ other < store.cells.size ∧ subscriber = store.nextSubscription) := by
  rw [Holds, numbers_subscribed, List.mem_append]
  refine or_congr_right ?_
  split
  · rename_i here
    simp [here]
  · rename_i elsewhere
    simp only [List.not_mem_nil, false_iff]
    exact fun here => elsewhere ⟨here.1, here.2.1⟩

theorem cell_subscribed (other : Nat) :
    ((store.subscribed signal reaction release).cell other).content = (store.cell other).content ∧
      ((store.subscribed signal reaction release).cell other).isDestroyed =
      (store.cell other).isDestroyed := by
  change ((store.modifyCell signal _).cell other).content = _ ∧
    ((store.modifyCell signal _).cell other).isDestroyed = _
  rw [cell_modify_cell]
  split <;> exact ⟨rfl, rfl⟩

theorem size_subscribed :
    (store.subscribed signal reaction release).cells.size = store.cells.size :=
  size_modify_cell _ _ store

theorem happenings_subscribed : (store.subscribed signal reaction release).happenings =
    store.happenings ++ [Happening.attached signal store.nextSubscription (store.isAlive signal)] :=
  rfl

end Subscribed

theorem present_of_alive {signal : Nat} {store : Store ε υ} (alive : store.isAlive signal = true) :
    signal < store.cells.size ∧ (store.cell signal).isDestroyed = false := by
  unfold isAlive at alive
  cases found : store.cells[signal]? with
  | none =>
      rw [found] at alive
      cases alive
  | some cell =>
      rw [found] at alive
      refine ⟨(Array.getElem?_eq_some_iff.mp found).1, ?_⟩
      rw [Store.cell, found]
      exact Bool.not_eq_true' _ ▸ alive

theorem alive_of_present {signal : Nat} {store : Store ε υ} (present : signal < store.cells.size)
    (live : (store.cell signal).isDestroyed = false) : store.isAlive signal = true := by
  unfold isAlive
  rw [Store.cell, Array.getElem?_eq_getElem present] at live
  rw [Array.getElem?_eq_getElem present]
  exact Bool.not_eq_true' _ ▸ live

section Departed

variable (signal subscription : Nat) (store : Store ε (Observed κ υ))

theorem happenings_departed : (store.departed signal subscription).happenings =
    store.happenings ++ if subscription < store.nextSubscription then
      [.left signal subscription] else [] := by
  unfold departed
  split
  · rfl
  · exact (List.append_nil _).symm

theorem cells_departed : (store.departed signal subscription).cells =
    (store.removeSubscriber signal subscription).cells := by
  unfold departed
  split <;> rfl

theorem size_departed : (store.departed signal subscription).cells.size = store.cells.size := by
  rw [cells_departed]
  exact size_modify_cell _ _ store

theorem next_departed : (store.departed signal subscription).nextSubscription =
    store.nextSubscription := by
  unfold departed
  split <;> rfl

theorem cell_departed (other : Nat) : (store.departed signal subscription).cell other =
    (store.removeSubscriber signal subscription).cell other := by
  rw [cell, cells_departed]
  rfl

theorem numbers_departed (other : Nat) : (store.departed signal subscription).numbers other =
    if signal = other then (store.numbers other).filter (· != subscription)
    else store.numbers other := by
  rw [numbers, cell_departed, removeSubscriber, cell_modify_cell]
  by_cases here : signal = other
  · by_cases present : other < store.cells.size
    · rw [if_pos ⟨here, present⟩, if_pos here, numbers, List.filter_map]
      rfl
    · rw [if_neg fun both => present both.2, if_pos here, numbers_of_absent present]
      exact numbers_of_absent present
  · rw [if_neg fun both => here both.1, if_neg here]
    rfl

theorem holds_departed {other subscriber : Nat} :
    (store.departed signal subscription).Holds other subscriber ↔
    store.Holds other subscriber ∧ ¬(signal = other ∧ subscription = subscriber) := by
  rw [Holds, numbers_departed, Holds]
  split
  · rename_i here
    simp only [List.mem_filter, bne_iff_ne, here, true_and]
    exact and_congr_right fun _ => ne_comm
  · rename_i elsewhere
    simp [elsewhere]

theorem standing_departed (other : Nat) :
    ((store.departed signal subscription).cell other).content = (store.cell other).content ∧
      ((store.departed signal subscription).cell other).isDestroyed =
      (store.cell other).isDestroyed := by
  rw [cell_departed, removeSubscriber, cell_modify_cell]
  split <;> exact ⟨rfl, rfl⟩

theorem parting_departed : store.PartsTo (store.departed signal subscription)
    (if subscription < store.nextSubscription then [.left signal subscription] else []) where
  told := happenings_departed signal subscription store
  next := next_departed signal subscription store
  size := Nat.le_of_eq (size_departed signal subscription store).symm
  numbers := by
    intro other
    rw [numbers_departed]
    split
    · exact List.filter_sublist
    · exact List.Sublist.refl _
  nobody := by
    intro other subscriber live
    split <;> simp
  standing := by
    intro other _ destroyed
    obtain ⟨content, mark⟩ := standing_departed signal subscription store other
    exact ⟨mark.trans destroyed, content⟩

end Departed

theorem numbers_cleared (signal other : Nat) (store : Store ε (Observed κ υ)) :
    (store.cleared signal).numbers other = if signal = other then [] else store.numbers other := by
  change (store.modifyCell signal _).numbers other = _
  rw [numbers_modify_cell]
  by_cases here : signal = other
  · rw [if_pos here]
    by_cases present : other < store.cells.size
    · rw [if_pos ⟨here, present⟩]
      rfl
    · rw [if_neg fun both => present both.2, numbers_of_absent present]
  · rw [if_neg fun both => here both.1, if_neg here]

theorem happenings_cleared (signal : Nat) (store : Store ε (Observed κ υ)) :
    (store.cleared signal).happenings = store.happenings ++ [.emptied signal] :=
  rfl

theorem size_cleared (signal : Nat) (store : Store ε (Observed κ υ)) :
    (store.cleared signal).cells.size = store.cells.size :=
  size_modify_cell signal _ store

theorem cell_cleared (signal other : Nat) (store : Store ε (Observed κ υ)) :
    ((store.cleared signal).cell other).content = (store.cell other).content ∧
      ((store.cleared signal).cell other).isDestroyed = (store.cell other).isDestroyed := by
  change ((store.modifyCell signal _).cell other).content = _ ∧
    ((store.modifyCell signal _).cell other).isDestroyed = _
  rw [cell_modify_cell]
  split <;> exact ⟨rfl, rfl⟩

theorem holds_cleared {signal other subscriber : Nat} {store : Store ε (Observed κ υ)} :
    (store.cleared signal).Holds other subscriber ↔
    store.Holds other subscriber ∧ signal ≠ other := by
  rw [Holds, numbers_cleared, Holds]
  split
  · rename_i here
    simp [here]
  · rename_i elsewhere
    simp [elsewhere]

theorem parting_cleared (signal : Nat) (store : Store ε (Observed κ υ)) :
    store.PartsTo (store.cleared signal) [.emptied signal] where
  told := happenings_cleared signal store
  next := rfl
  size := Nat.le_of_eq (size_cleared signal store).symm
  numbers := by
    intro other
    rw [numbers_cleared]
    split
    · exact List.nil_sublist _
    · exact List.Sublist.refl _
  nobody := by simp
  standing := by
    intro other _ destroyed
    obtain ⟨content, mark⟩ := cell_cleared signal other store
    exact ⟨mark.trans destroyed, content⟩

theorem happenings_marked (signal : Nat) (store : Store ε (Observed κ υ)) :
    (store.marked signal).happenings = store.happenings ++
      if signal < store.cells.size then [.destroyed signal (store.cell signal).content]
      else [] := by
  unfold marked
  split
  · rfl
  · exact (List.append_nil _).symm

theorem cells_marked (signal : Nat) (store : Store ε (Observed κ υ)) : (store.marked signal).cells =
    (store.modifyCell signal fun cell =>
      { cell with isDestroyed := true, parent := none }).cells := by
  unfold marked
  split <;> rfl

theorem size_marked (signal : Nat) (store : Store ε (Observed κ υ)) :
    (store.marked signal).cells.size = store.cells.size := by
  rw [cells_marked]
  exact size_modify_cell _ _ store

theorem numbers_marked (signal other : Nat) (store : Store ε (Observed κ υ)) :
    (store.marked signal).numbers other = store.numbers other := by
  rw [numbers, cell, cells_marked]
  refine numbers_of_same ?_ signal other store
  exact fun _ => rfl

theorem cell_marked (signal other : Nat) (store : Store ε (Observed κ υ)) :
    ((store.marked signal).cell other).content = (store.cell other).content ∧
      ((store.marked signal).cell other).isDestroyed =
        if signal = other ∧ other < store.cells.size then true
        else (store.cell other).isDestroyed := by
  have changed : (store.marked signal).cell other =
      (store.modifyCell signal fun cell => { cell with isDestroyed := true, parent := none }).cell
      other := by
    rw [cell, cells_marked]
    rfl
  rw [changed, cell_modify_cell]
  split <;> exact ⟨rfl, rfl⟩

theorem parting_marked (signal : Nat) (store : Store ε (Observed κ υ)) :
    store.PartsTo (store.marked signal)
      (if signal < store.cells.size then [.destroyed signal (store.cell signal).content] else [])
      where
  told := happenings_marked signal store
  next := by
    unfold marked
    split <;> rfl
  size := Nat.le_of_eq (size_marked signal store).symm
  numbers := fun other => numbers_marked signal other store ▸ List.Sublist.refl _
  nobody := by
    intro other subscriber live
    split <;> simp
  standing := by
    intro other _ destroyed
    obtain ⟨content, mark⟩ := cell_marked signal other store
    rw [mark, destroyed]
    exact ⟨ite_self true, content⟩

theorem parting_released (signal subscriber : Nat) (store : Store ε (Observed κ υ)) :
    store.PartsTo (store.told (.released signal subscriber)) [.released signal subscriber] where
  told := rfl
  next := rfl
  size := Nat.le_refl _
  numbers := fun _ => List.Sublist.refl _
  nobody := by simp
  standing := fun _ _ destroyed => ⟨destroyed, rfl⟩

theorem happenings_stored (signal : Nat) (content : Value) (store : Store ε (Observed κ υ)) :
    (store.stored signal content).happenings = store.happenings ++
      if signal < store.cells.size then [.written signal content] else [] := by
  unfold stored
  split
  · rfl
  · exact (List.append_nil _).symm

theorem cells_stored (signal : Nat) (content : Value) (store : Store ε (Observed κ υ)) :
    (store.stored signal content).cells =
      (store.modifyCell signal fun cell => { cell with content := content }).cells := by
  unfold stored
  split <;> rfl

theorem size_stored (signal : Nat) (content : Value) (store : Store ε (Observed κ υ)) :
    (store.stored signal content).cells.size = store.cells.size := by
  rw [cells_stored]
  exact size_modify_cell _ _ store

theorem numbers_stored (signal other : Nat) (content : Value) (store : Store ε (Observed κ υ)) :
    (store.stored signal content).numbers other = store.numbers other := by
  rw [numbers, cell, cells_stored]
  refine numbers_of_same ?_ signal other store
  exact fun _ => rfl

theorem content_stored (signal other : Nat) (content : Value) (store : Store ε (Observed κ υ)) :
    ((store.stored signal content).cell other).content =
      if signal = other ∧ other < store.cells.size then content
      else (store.cell other).content := by
  have changed : (store.stored signal content).cell other =
      (store.modifyCell signal fun cell => { cell with content := content }).cell other := by
    rw [cell, cells_stored]
    rfl
  rw [changed, cell_modify_cell]
  split <;> rfl

namespace InCustody

variable {agenda : Agenda} {store : Store ε (Observed κ υ)}

/-- Whoever subscribed to a live signal has a number that was given. -/
theorem numbered_of_attached (custody : store.InCustody agenda) {signal subscriber : Nat}
    (attached : .attached signal subscriber true ∈ store.happenings) : subscriber <
    store.nextSubscription := by
  rcases custody.kept signal subscriber attached with held | departed | loose
  · exact custody.numbered signal subscriber held
  · exact (custody.gone signal subscriber departed).1
  · exact (custody.dropped signal subscriber loose).1

theorem subscribed (custody : store.InCustody agenda) (signal : Nat)
    (reaction : Reaction ε) (release : Release ε) :
    (store.subscribed signal reaction release).InCustody agenda := by
  have next : (store.subscribed signal reaction release).nextSubscription =
      store.nextSubscription + 1 := rfl
  have held : ∀ other subscriber, subscriber < store.nextSubscription →
      ((store.subscribed signal reaction release).Holds other subscriber ↔
        store.Holds other subscriber) := by
    intro other subscriber older
    rw [holds_subscribed]
    exact or_iff_left fun young => Nat.ne_of_lt older young.2.2
  have departed : ∀ other subscriber,
      Departed (store.subscribed signal reaction release).happenings other subscriber ↔
        Departed store.happenings other subscriber := by
    intro other subscriber
    simp [happenings_subscribed, Departed]
  have attached : ∀ other subscriber,
      .attached other subscriber true ∈ (store.subscribed signal reaction release).happenings →
        .attached other subscriber true ∈ store.happenings ∨
          (other = signal ∧ subscriber = store.nextSubscription ∧ store.isAlive signal = true) := by
    intro other subscriber member
    rw [happenings_subscribed, List.mem_append, List.mem_singleton] at member
    refine member.imp_right fun young => ?_
    obtain ⟨same, last, alive⟩ := Happening.attached.inj young
    exact ⟨same, last, alive.symm⟩
  exact
    { distinct := by
        intro other
        rw [numbers_subscribed]
        split
        · refine List.Nodup.append (custody.distinct other) (List.nodup_singleton _) ?_
          intro subscriber older young
          rw [List.mem_singleton.mp young] at older
          exact Nat.lt_irrefl _ (custody.numbered other _ older)
        · simpa using custody.distinct other
      numbered := by
        intro other subscriber holds
        rw [next]
        rcases (holds_subscribed signal reaction release store).mp holds with older | ⟨_, _, rfl⟩
        · exact Nat.lt_succ_of_lt (custody.numbered other subscriber older)
        · exact Nat.lt_succ_self _
      gone := by
        intro other subscriber away
        obtain ⟨older, absent⟩ := custody.gone other subscriber ((departed _ _).mp away)
        exact ⟨Nat.lt_succ_of_lt older, fun holds => absent ((held _ _ older).mp holds)⟩
      once := by
        rw [happenings_subscribed, releases_append]
        simpa [releases, Happening.released?, List.filterMap_cons] using custody.once
      dropped := by
        intro other subscriber loose
        obtain ⟨older, absent⟩ := custody.dropped other subscriber loose
        exact ⟨Nat.lt_succ_of_lt older, fun holds => absent ((held _ _ older).mp holds)⟩
      kept := by
        intro other subscriber member
        rw [departed]
        rcases attached other subscriber member with older | ⟨rfl, rfl, alive⟩
        · refine (custody.kept other subscriber older).imp_left fun holds => ?_
          exact (holds_subscribed signal reaction release store).mpr (.inl holds)
        · refine .inl ((holds_subscribed other reaction release store).mpr (.inr ?_))
          exact ⟨rfl, (present_of_alive alive).1, rfl⟩
      closed := by
        intro other subscriber member holds destroyed
        rw [(cell_subscribed signal reaction release store other).2] at destroyed
        rcases attached other subscriber member with older | ⟨rfl, rfl, alive⟩
        · have numbered := custody.numbered_of_attached older
          exact custody.closed other subscriber older ((held _ _ numbered).mp holds) destroyed
        · rw [(present_of_alive alive).2] at destroyed
          cases destroyed
      swept := by
        intro earlier other later split subscriber member
        rw [happenings_subscribed] at split
        obtain ⟨between, front, _⟩ := split_of_append split (by simp)
        have older : .attached other subscriber true ∈ store.happenings :=
          front ▸ List.mem_append_left _ member
        rw [held _ _ (custody.numbered_of_attached older)]
        exact custody.swept earlier other between front subscriber member
      fixed := by
        intro other content member
        have older : .destroyed other content ∈ store.happenings := by
          simpa [happenings_subscribed] using member
        obtain ⟨same, mark⟩ := cell_subscribed signal reaction release store other
        rw [size_subscribed, same, mark]
        exact custody.fixed other content older }

theorem departed (custody : store.InCustody agenda) (signal subscription : Nat) :
    (store.departed signal subscription).InCustody agenda := by
  have absent : ¬(store.departed signal subscription).Holds signal subscription :=
    fun holds => ((holds_departed signal subscription store).mp holds).2 ⟨rfl, rfl⟩
  refine custody.parted (parting_departed signal subscription store) ?once ?gone ?dropped
    ?kept ?closed ?swept ?fixed
  case once => split <;>
    simpa [releases, Happening.released?, List.filterMap_cons] using custody.once
  case gone =>
    intro other subscriber away
    split at away
    · rename_i given
      rcases away with left | released
      · cases List.mem_singleton.mp left
        exact ⟨given, absent⟩
      · cases List.mem_singleton.mp released
    · cases away <;> contradiction
  case dropped => exact fun _ _ loose => .inl loose
  case kept =>
    rintro other subscriber (held | loose)
    · by_cases this : signal = other ∧ subscription = subscriber
      · obtain ⟨rfl, rfl⟩ := this
        rw [if_pos (custody.numbered _ _ held)]
        exact .inr (.inl (.inl List.mem_cons_self))
      · exact .inl ((holds_departed signal subscription store).mpr ⟨held, this⟩)
    · exact .inr (.inr loose)
  case closed =>
    intro other subscriber _ destroyed known
    rw [(standing_departed signal subscription store other).2] at destroyed
    exact known destroyed
  case swept =>
    intro other late
    split at late <;> simp at late
  case fixed =>
    intro other content late
    split at late <;> simp at late

/-- Whoever is dropped has yet to be torn down, and a signal that holds nobody is closed. -/
theorem cleared (custody : store.InCustody agenda) (signal : Nat) :
    (store.cleared signal).InCustody
      { agenda with
        loose := enrolled signal (store.cell signal).subscribers ++ agenda.loose
        closing := agenda.closing.filter (· != signal) } := by
  have listed : ∀ other subscriber,
      (other, subscriber) ∈ enrolled signal (store.cell signal).subscribers ↔
        signal = other ∧ store.Holds other subscriber := by
    intro other subscriber
    rw [mem_enrolled, Holds, numbers]
    exact and_congr_right fun here => here ▸ Iff.rfl
  refine custody.parted (parting_cleared signal store) ?once ?gone ?dropped
    ?kept ?closed ?swept ?fixed
  case once =>
    -- who is held was neither torn down before nor dropped
    obtain ⟨torn, loose, apart⟩ := List.nodup_append.mp custody.once
    have fresh : (enrolled signal (store.cell signal).subscribers).Nodup := by
      have paired :=
        (custody.distinct signal).map fun _ _ same => (@Prod.mk.inj _ _ signal _ signal _ same).2
      rwa [numbers, List.map_map] at paired
    change (releases store.happenings ++ [] ++ _).Nodup
    rw [List.append_nil]
    refine List.nodup_append.mpr ⟨torn, List.nodup_append.mpr ⟨fresh, loose, ?_⟩, ?_⟩
    · rintro ⟨other, subscriber⟩ mine pair theirs rfl
      exact (custody.dropped other subscriber theirs).2 ((listed _ _).mp mine).2
    · rintro ⟨other, subscriber⟩ away pair member rfl
      rcases List.mem_append.mp member with mine | theirs
      · exact (custody.gone other subscriber (.inr (mem_releases.mp away))).2
          ((listed _ _).mp mine).2
      · exact apart _ away _ theirs rfl
  case gone => rintro other subscriber (late | late) <;> cases List.mem_singleton.mp late
  case dropped =>
    intro other subscriber loose
    rcases List.mem_append.mp loose with mine | theirs
    · obtain ⟨rfl, held⟩ := (listed _ _).mp mine
      exact .inr ⟨held, fun still => (holds_cleared.mp still).2 rfl⟩
    · exact .inl theirs
  case kept =>
    rintro other subscriber (held | loose)
    · by_cases here : signal = other
      · exact .inr (.inr (List.mem_append_left _ ((listed _ _).mpr ⟨here, held⟩)))
      · exact .inl (holds_cleared.mpr ⟨held, here⟩)
    · exact .inr (.inr (List.mem_append_right _ loose))
  case closed =>
    intro other subscriber holds destroyed known
    rw [(cell_cleared signal other store).2] at destroyed
    exact List.mem_filter.mpr ⟨known destroyed, bne_iff_ne.mpr (holds_cleared.mp holds).2.symm⟩
  case swept =>
    intro other late subscriber holds
    cases List.mem_singleton.mp late
    exact (holds_cleared.mp holds).2 rfl
  case fixed =>
    intro other content late
    cases List.mem_singleton.mp late

theorem marked (custody : store.InCustody agenda) (signal : Nat) :
    (store.marked signal).InCustody { agenda with closing := signal :: agenda.closing } := by
  refine custody.parted (parting_marked signal store) ?once ?gone ?dropped
    ?kept ?closed ?swept ?fixed
  case once => split <;>
    simpa [releases, Happening.released?, List.filterMap_cons] using custody.once
  case gone =>
    intro other subscriber away
    split at away <;> simp [Departed] at away
  case dropped => exact fun _ _ loose => .inl loose
  case kept =>
    rintro other subscriber (held | loose)
    · rw [Holds, numbers_marked]
      exact .inl held
    · exact .inr (.inr loose)
  case closed =>
    intro other subscriber _ destroyed known
    rw [(cell_marked signal other store).2] at destroyed
    split at destroyed
    · rename_i here
      exact here.1 ▸ List.mem_cons_self
    · exact List.mem_cons_of_mem _ (known destroyed)
  case swept =>
    intro other late
    split at late <;> simp at late
  case fixed =>
    intro other content late
    rw [size_marked, (cell_marked signal other store).1, (cell_marked signal other store).2]
    split at late
    · rename_i present
      cases List.mem_singleton.mp late
      exact ⟨present, if_pos ⟨rfl, present⟩, rfl⟩
    · cases late

/-- The next of those who are dropped is torn down. -/
theorem released {signal subscriber : Nat} {rest : List (Nat × Nat)}
    (custody : store.InCustody { agenda with loose := (signal, subscriber) :: rest }) :
    (store.told (.released signal subscriber)).InCustody { agenda with loose := rest } := by
  refine custody.parted (parting_released signal subscriber store) ?once ?gone ?dropped
    ?kept ?closed ?swept ?fixed
  case once =>
    rw [List.append_assoc]
    exact custody.once
  case gone =>
    rintro other number (late | late)
    · cases List.mem_singleton.mp late
    · cases List.mem_singleton.mp late
      exact custody.dropped signal subscriber List.mem_cons_self
  case dropped => exact fun _ _ loose => .inl (List.mem_cons_of_mem _ loose)
  case kept =>
    rintro other number (held | loose)
    · exact .inl held
    · rcases List.mem_cons.mp loose with same | loose
      · cases same
        exact .inr (.inl (.inr List.mem_cons_self))
      · exact .inr (.inr loose)
  case closed => exact fun _ _ _ destroyed known => known destroyed
  case swept =>
    intro other late
    cases List.mem_singleton.mp late
  case fixed =>
    intro other content late
    cases List.mem_singleton.mp late

end InCustody

end Store
end Signal
end Interplay
