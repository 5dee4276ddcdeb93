import Interplay.Proofs.Signal.Dues

/-!
Signals that serve their subscribers.

A register lists the subscriptions that were given and the rules by which derived signals follow
others.  Signals serve it if every subscription is in order and every derived signal holds what its
rule says.  In the middle of a round some subscribers are yet to be told, and some derived signals
may be stale.
-/

namespace Interplay

def Scalar.anonymous : Scalar → Scalar
  | nan _ => nan 0
  | other => other

namespace Value

mutual

def anonymous : Value → Value
  | scalar content => scalar content.anonymous
  | list items => list (anonymousItems items)
  | mapping entries => mapping (anonymousEntries entries)

def anonymousItems : List Value → List Value
  | [] => []
  | item :: rest => anonymous item :: anonymousItems rest

def anonymousEntries : List (Scalar × Value) → List (Scalar × Value)
  | [] => []
  | (key, content) :: rest => (key.anonymous, anonymous content) :: anonymousEntries rest

end

end Value

namespace Signal

open Store

/-- Host code that only looks on, and answers every content with the value of a function.  It may
make its not-a-numbers anew each time. -/
structure Computes (transform : Value → Script Note) (fn : Value → Value) : Prop where
  passive : ∀ content, (transform content).IsPassive
  answers : ∀ content fuel bench, ∃ answer last, run (fuel + 1)
    (transform content) bench = .done answer last ∧
    answer.content.anonymous = (fn content).anonymous

structure Rule where
  child : Nat
  parent : Nat
  fn : Value → Value

/-- The derived signal holds a value of the function at what its parent holds, or a content equal to
one. -/
def Rule.IsKept (rule : Rule) (store : Offered) : Prop :=
  ∃ answer : Value, answer.anonymous = (rule.fn (store.cell rule.parent).content).anonymous ∧
    Kept (store.cell rule.child).content answer

structure Register where
  rules : List Rule
  subscriptions : List Subscription
  /-- Signals, beside the numbers of the subscriptions that host code may end. -/
  handles : List (Nat × Nat)
  /-- Signals that host code has set itself. -/
  direct : List Nat

namespace Register

def empty : Register :=
  { rules := [], subscriptions := [], handles := [], direct := [] }

def ruled (rule : Rule) (register : Register) : Register :=
  { register with rules := rule :: register.rules }

def opened (subscription : Subscription) (register : Register) : Register :=
  { register with subscriptions := subscription :: register.subscriptions }

def handed (subscription : Subscription) (register : Register) : Register :=
  { register with handles := (subscription.signal, subscription.number) :: register.handles }

def set (signal : Nat) (register : Register) : Register :=
  { register with direct := signal :: register.direct }

def lineage (register : Register) : Lineage :=
  { derivations := register.rules.map fun rule => (rule.child, rule.parent),
    handles := register.handles }

/-- A record at a signal that feeds a derived one does so by its rule. -/
def Allows (register : Register) (signal size : Nat) (record : Subscriber Note) : Prop :=
  ∀ child transform, record.reaction = .feed child transform → signal < child ∧ child < size ∧
    ∃ fn, Computes transform fn ∧
      ∀ rule ∈ register.rules, rule.child = child → rule.parent = signal ∧ rule.fn = fn

theorem Allows.mono {register : Register} {signal size larger : Nat} {record : Subscriber Note}
    (allowed : register.Allows signal size record) (grows : size ≤ larger) :
    register.Allows signal larger record := by
  intro child transform feeds
  obtain ⟨younger, present, ruled⟩ := allowed child transform feeds
  exact ⟨younger, Nat.lt_of_lt_of_le present grows, ruled⟩

end Register

def Fed (records : List (Subscriber Note)) (child : Nat) : Prop :=
  ∃ record ∈ records, ∃ transform, record.reaction = .feed child transform

/-- How signals serve a register, while some subscribers are untold and some derived signals
stale. -/
structure Store.IsServing (register : Register) (untold : List (Nat × Nat)) (stale : Nat → Prop)
    (store : Offered) : Prop where
  passive : ∀ signal, (store.cell signal).IsPassive
  allowed : ∀ signal, ∀ record ∈ (store.cell signal).subscribers,
    register.Allows signal store.cells.size record
  listed : ∀ signal number, store.Holds signal number →
    ∃ subscription ∈ register.subscriptions, subscription.signal = signal ∧
    subscription.number = number
  orders : ∀ subscription ∈ register.subscriptions,
    subscription.InOrder ((subscription.signal, subscription.number) ∈ untold) store
  noticed : ∀ notice, .notified notice ∈ store.happenings →
    notice.subscriber < store.nextSubscription
  made : ∀ rule ∈ register.rules, rule.parent < rule.child ∧ rule.child < store.cells.size
  kept : ∀ rule ∈ register.rules, (store.cell rule.child).isDestroyed = false →
    stale rule.child ∨ rule.IsKept store

theorem Rule.IsKept.of_same {rule : Rule} {before after : Offered} (kept : rule.IsKept before)
    (child : (after.cell rule.child).content = (before.cell rule.child).content)
    (parent : (after.cell rule.parent).content = (before.cell rule.parent).content) :
    rule.IsKept after := by
  unfold IsKept
  rw [child, parent]
  exact kept

theorem Subscription.InOrder.congr {subscription : Subscription}
    {store : Offered} {owing later : Prop}
    (order : subscription.InOrder owing store) (same : owing ↔ later) :
    subscription.InOrder later store :=
  propext same ▸ order

/-- A signal takes what it is offered: whoever is subscribed to it is yet to be told. -/
theorem Subscription.InOrder.taken {subscription : Subscription}
    {untold : List (Nat × Nat)} {store : Offered}
    (order : subscription.InOrder ((subscription.signal, subscription.number) ∈ untold) store)
    {signal : Nat}
    (content : Value) (alive : store.isAlive signal = true)
    (apart : ∀ pair ∈ untold, pair.1 < signal)
    (differs : (store.cell signal).subscribers ≠ [] →
      (store.cell signal).content.same content = false) :
    subscription.InOrder ((subscription.signal, subscription.number) ∈
      enrolled signal (store.cell signal).subscribers ++ untold) (store.taken signal content) := by
  have told := happenings_taken alive content
  have rewritten := rewritten_taken signal content store
  have holds := holds_of_rewritten rewritten subscription.signal subscription.number
  by_cases attached : signal = subscription.signal ∧ store.Holds signal subscription.number
  · obtain ⟨rfl, held⟩ := attached
    have crowd : (store.cell subscription.signal).subscribers ≠ [] := by
      intro lonely
      rw [Holds, numbers, lonely] at held
      cases held
    refine order.offered (fun owed => Nat.lt_irrefl _ (apart _ owed)) told rfl
      (differs crowd) rewritten.size.symm
      rewritten.next.symm held (holds.mpr held)
        (content_taken (present_of_alive alive).1 content) ?_
    exact List.mem_append_left _ (mem_enrolled.mpr ⟨rfl, held⟩)
  · have owing : (subscription.signal, subscription.number) ∈ untold ↔
        (subscription.signal, subscription.number) ∈ enrolled signal
        (store.cell signal).subscribers ++ untold :=
      (List.mem_append.trans (or_iff_right fun owed => attached (mem_enrolled.mp owed))).symm
    refine (order.congr owing).quiet told ?_ (Nat.le_of_eq rewritten.size.symm)
      (Nat.le_of_eq rewritten.next.symm) holds ?_
    · intro happening listed
      rcases List.mem_cons.mp listed with rfl | last
      · refine
          { lasting := rfl, silent := rfl, stale := fun held => if_neg fun news => attached ?_ }
        have same : signal = subscription.signal := news.1
        exact ⟨same, same ▸ held⟩
      · obtain rfl := List.mem_singleton.mp last
        exact { lasting := rfl, silent := rfl, stale := fun _ => rfl }
    · intro matters
      refine congrArg Cell.content (cell_taken_of_ne (fun same => ?_) content store)
      rcases matters with held | owed
      · exact attached ⟨same.symm, same ▸ held⟩
      · exact Nat.ne_of_lt (apart _ (owing.mpr owed)) same

namespace Store.IsServing

variable {register : Register} {untold : List (Nat × Nat)} {stale fewer : Nat → Prop}
  {before after store : Offered} {more : List (Happening Offer)}

theorem numbered (serving : store.IsServing register untold stale) {signal number : Nat}
    (holds : store.Holds signal number) : number < store.nextSubscription := by
  obtain ⟨subscription, member, rfl, rfl⟩ := serving.listed signal number holds
  exact (serving.orders subscription member).numbered

/-- Derived signals are no longer stale once they hold what their rules say. -/
theorem freshen (serving : store.IsServing register untold stale)
    (settled : ∀ rule ∈ register.rules, (store.cell rule.child).isDestroyed = false →
      stale rule.child →
      fewer rule.child ∨ rule.IsKept store) : store.IsServing register untold fewer :=
  { serving with
    kept := fun rule member alive =>
      (serving.kept rule member alive).elim (settled rule member alive) .inr }

/-- A signal that host code sets itself may be stale. -/
theorem set {signal : Nat}
    (serving : store.IsServing register untold fun child => child ∈ register.direct) :
    store.IsServing (register.set signal) untold fun child => child ∈
    (register.set signal).direct :=
  { serving with
    allowed := serving.allowed
    kept := fun rule member alive => (serving.kept rule member alive).imp_left
      (List.mem_cons_of_mem signal) }

theorem handed {subscription : Subscription} (serving : store.IsServing register untold stale) :
    store.IsServing (register.handed subscription) untold stale :=
  { serving with allowed := serving.allowed }

/-- Changes that leave all contents, and may take away records and lives. -/
theorem shrink (serving : before.IsServing register untold stale) (size : before.cells.size ≤ after.cells.size)
    (next : before.nextSubscription = after.nextSubscription)
    (subscribers : ∀ signal, (after.cell signal).subscribers.Sublist (before.cell signal).subscribers)
    (onDestroy : ∀ signal, ∀ script ∈ (after.cell signal).onDestroy, script.IsPassive)
    (contents : ∀ signal < before.cells.size, (after.cell signal).content = (before.cell signal).content)
    (lives : ∀ signal < before.cells.size, (after.cell signal).isDestroyed = false →
      (before.cell signal).isDestroyed = false)
    (notices : ∀ notice, .notified notice ∈ after.happenings → .notified notice ∈ before.happenings)
    (orders : ∀ subscription ∈ register.subscriptions,
      subscription.InOrder ((subscription.signal, subscription.number) ∈ untold) after) :
    after.IsServing register untold stale where
  passive := fun signal =>
    { reactions := fun record member => (serving.passive signal).reactions record ((subscribers signal).subset member)
      releases := fun record member => (serving.passive signal).releases record ((subscribers signal).subset member)
      onDestroy := onDestroy signal }
  allowed := fun signal record member =>
    (serving.allowed signal record ((subscribers signal).subset member)).mono size
  listed := fun signal number holds =>
    serving.listed signal number (((subscribers signal).map Subscriber.number).subset holds)
  orders := orders
  noticed := fun notice member => next ▸ serving.noticed notice (notices notice member)
  made := by
    intro rule member
    obtain ⟨younger, present⟩ := serving.made rule member
    exact ⟨younger, Nat.lt_of_lt_of_le present size⟩
  kept := by
    intro rule member alive
    obtain ⟨younger, present⟩ := serving.made rule member
    refine (serving.kept rule member (lives rule.child present alive)).imp_right fun kept => ?_
    exact kept.of_same (contents rule.child present) (contents rule.parent (Nat.lt_trans younger present))

/-- Changes that are no matter to subscribers and derived signals. -/
theorem quiet (serving : before.IsServing register untold stale)
    (told : after.happenings = before.happenings ++ more)
    (silent : ∀ happening ∈ more, ∀ notice, happening ≠ .notified notice)
    (ignored : ∀ subscription ∈ register.subscriptions, ∀ happening ∈ more,
      subscription.Ignores (before.Holds subscription.signal subscription.number) happening)
    (size : before.cells.size ≤ after.cells.size)
      (next : before.nextSubscription = after.nextSubscription)
    (subscribers : ∀ signal, (after.cell signal).subscribers = (before.cell signal).subscribers)
    (onDestroy : ∀ signal, ∀ script ∈ (after.cell signal).onDestroy, script.IsPassive)
    (contents : ∀ signal < before.cells.size, (after.cell signal).content =
      (before.cell signal).content)
    (lives : ∀ signal < before.cells.size, (after.cell signal).isDestroyed = false →
      (before.cell signal).isDestroyed = false) : after.IsServing register untold stale := by
  have holds : ∀ signal number, after.Holds signal number ↔ before.Holds signal number := by
    intro signal number
    rw [Holds, numbers, subscribers, Holds, numbers]
  refine serving.shrink size next (fun signal => ?_) onDestroy contents lives ?_ ?_
  · rw [subscribers]
  · intro notice member
    rw [told] at member
    exact (List.mem_append.mp member).resolve_right fun late => silent _ late notice rfl
  · intro subscription member
    have order := serving.orders subscription member
    exact order.quiet told (ignored subscription member) size (Nat.le_of_eq next) (holds _ _)
      fun _ => contents _ order.present

theorem rehosted (serving : store.IsServing register untold stale) (host : Journal) :
    (store.rehosted host).IsServing register untold stale :=
  serving.quiet (List.append_nil _).symm (List.forall_mem_nil _)
    (fun _ _ => List.forall_mem_nil _) (Nat.le_refl _)
    rfl (fun _ => rfl) (fun signal => (serving.passive signal).onDestroy)
      (fun _ _ => rfl) fun _ _ => id

theorem told (serving : store.IsServing register untold stale) {happening : Happening Offer}
    (silent : ∀ notice, happening ≠ .notified notice)
    (ignored : ∀ subscription ∈ register.subscriptions,
      subscription.Ignores (store.Holds subscription.signal subscription.number) happening) :
    (store.told happening).IsServing register untold stale :=
  serving.quiet rfl (List.forall_mem_singleton.mpr silent)
    (fun subscription member => List.forall_mem_singleton.mpr (ignored subscription member))
    (Nat.le_refl _) rfl
    (fun _ => rfl) (fun signal => (serving.passive signal).onDestroy) (fun _ _ => rfl) fun _ _ => id

theorem created (serving : store.IsServing register untold stale) (content : Value)
    {onDestroy : Option (Script Note)} (passive : ∀ script ∈ onDestroy, script.IsPassive) :
    (store.addCell (Cell.fresh content onDestroy)).2.IsServing register untold stale := by
  have young : (store.cell store.cells.size) = Cell.fresh .null none := by simp [cell]
  refine serving.quiet (List.append_nil _).symm (List.forall_mem_nil _)
    (fun _ _ => List.forall_mem_nil _) (by simp [addCell]) rfl ?_ ?_ ?_ ?_
  · intro signal
    rw [cell_add_cell]
    split
    · rename_i same
      rw [same, young]
      rfl
    · rfl
  · intro signal
    rw [cell_add_cell]
    split
    · exact passive
    · exact (serving.passive signal).onDestroy
  · intro signal present
    rw [cell_add_cell, if_neg (Nat.ne_of_lt present)]
  · intro signal present
    rw [cell_add_cell, if_neg (Nat.ne_of_lt present)]
    exact id

theorem claiming (serving : store.IsServing register untold stale)
    (signal : Nat) (claim : Nat × Nat) :
    (store.claiming signal claim).IsServing register untold stale := by
  refine serving.quiet (List.append_nil _).symm (List.forall_mem_nil _)
    (fun _ _ => List.forall_mem_nil _) ?_ rfl ?_ ?_ ?_ ?_
  · exact Nat.le_of_eq (size_modify_cell signal _ store).symm
  · exact fun other => subscribers_claiming signal other claim store
  · intro other
    rw [on_destroy_claiming]
    exact (serving.passive other).onDestroy
  · intro other _
    rw [Store.claiming, cell_modify_cell]
    split <;> rfl
  · exact fun other _ alive => destroyed_claiming signal other claim store ▸ alive

/-- A mark is no matter to anybody but the derived signal that gets it. -/
theorem marked (serving : store.IsServing register untold stale) (signal : Nat) :
    (store.marked signal).IsServing register untold stale := by
  have cells : ∀ other, (store.marked signal).cell other = (store.felled signal).cell other := by
    intro other
    rw [cell, cells_marked]
    rfl
  have parting := parting_marked signal store
  refine serving.quiet parting.told ?_ ?_ parting.size parting.next.symm ?_ ?_ ?_ ?_
  · exact forall_mem_choice (by simp)
  · exact fun _ _ => forall_mem_choice { lasting := rfl, silent := rfl, stale := fun _ => rfl }
  · exact fun other => by rw [cells, subscribers_felled]
  · intro other
    rw [cells, on_destroy_felled]
    exact (serving.passive other).onDestroy
  · exact fun other _ => by rw [cells, content_felled]
  · intro other _ alive
    rw [cells, felled, cell_modify_cell] at alive
    split at alive
    · cases alive
    · exact alive

theorem departed (serving : store.IsServing register [] stale) (signal number : Nat) :
    (store.departed signal number).IsServing register [] stale := by
  have size := size_departed signal number store
  apply serving.shrink (Nat.le_of_eq size.symm) (next_departed signal number store).symm
  case subscribers =>
    intro other
    rw [cell_departed, removeSubscriber, cell_modify_cell]
    split
    · exact List.filter_sublist
    · exact List.Sublist.refl _
  case onDestroy =>
    intro other
    rw [cell_departed, on_destroy_removed]
    exact (serving.passive other).onDestroy
  case contents => exact fun other _ => (standing_departed signal number store other).1
  case lives => exact fun other _ alive => (standing_departed signal number store other).2 ▸ alive
  case notices =>
    intro notice member
    rw [happenings_departed] at member
    refine (List.mem_append.mp member).resolve_right fun late => ?_
    split at late
    · cases List.mem_singleton.mp late
    · cases late
  case orders =>
    intro subscription member
    have order := serving.orders subscription member
    have told := happenings_departed signal number store
    by_cases own : signal = subscription.signal ∧ number = subscription.number
    · obtain ⟨rfl, rfl⟩ := own
      rw [if_pos order.numbered] at told
      refine order.ended List.not_mem_nil told ?_ rfl size.symm (next_departed _ _ store).symm ?_
      · simp [Happening.ends]
      · rw [holds_departed]
        exact fun held => held.2 ⟨rfl, rfl⟩
    · refine order.quiet told ?_ (Nat.le_of_eq size.symm)
        (Nat.le_of_eq (next_departed _ _ store).symm) ?_ ?_
      · exact forall_mem_choice
          { lasting := by simpa [Happening.ends] using own, silent := rfl, stale := fun _ => rfl }
      · rw [holds_departed]
        exact and_iff_left own
      · exact fun _ => (standing_departed signal number store _).1

theorem cleared (serving : store.IsServing register [] stale) (signal : Nat) :
    (store.cleared signal).IsServing register [] stale := by
  have size := size_cleared signal store
  have cells : ∀ other, (store.cleared signal).cell other = (store.emptied signal).cell other := fun _ => rfl
  apply serving.shrink (Nat.le_of_eq size.symm) rfl
  case subscribers =>
    intro other
    rw [cells, emptied, cell_modify_cell]
    split
    · exact List.nil_sublist _
    · exact List.Sublist.refl _
  case onDestroy =>
    intro other
    rw [cells, on_destroy_emptied]
    exact (serving.passive other).onDestroy
  case contents => exact fun other _ => (cell_cleared signal other store).1
  case lives => exact fun other _ alive => (cell_cleared signal other store).2 ▸ alive
  case notices =>
    intro notice member
    rw [happenings_cleared] at member
    refine (List.mem_append.mp member).resolve_right fun late => ?_
    cases List.mem_singleton.mp late
  case orders =>
    intro subscription member
    have order := serving.orders subscription member
    by_cases own : signal = subscription.signal
    · subst own
      refine order.ended List.not_mem_nil (happenings_cleared _ store) ?_ rfl size.symm rfl ?_
      · simp [Happening.ends]
      · rw [holds_cleared]
        exact fun held => held.2 rfl
    · refine order.quiet (happenings_cleared signal store) ?_ (Nat.le_of_eq size.symm) (Nat.le_refl _) ?_ ?_
      · refine List.forall_mem_singleton.mpr ?_
        exact { lasting := by simpa [Happening.ends] using own, silent := rfl, stale := fun _ => rfl }
      · rw [holds_cleared]
        exact and_iff_left own
      · exact fun _ => (cell_cleared signal _ store).1

/-- A subscriber of a round is told the content of his signal. -/
theorem notified {signal number : Nat}
    (serving : store.IsServing register ((signal, number) :: untold) stale)
    (absent : (signal, number) ∉ untold) (given : number < store.nextSubscription) (since : Nat) :
    (store.told (.notified
      { signal := signal, subscriber := number, content := (store.cell signal).content,
        since := since })).IsServing register untold stale where
  passive := serving.passive
  allowed := serving.allowed
  listed := serving.listed
  orders := by
    intro subscription member
    have order := serving.orders subscription member
    by_cases own : signal = subscription.signal ∧ number = subscription.number
    · obtain ⟨rfl, rfl⟩ := own
      exact order.notified List.mem_cons_self absent rfl rfl rfl rfl rfl rfl
    · have elsewhere : (subscription.signal, subscription.number) ≠ (signal, number) :=
        fun same => own ⟨(congrArg Prod.fst same).symm, (congrArg Prod.snd same).symm⟩
      have owing : (subscription.signal, subscription.number) ∈ (signal, number) :: untold ↔
          (subscription.signal, subscription.number) ∈ untold :=
        List.mem_cons.trans (or_iff_right elsewhere)
      refine (order.congr owing).quiet rfl ?_ (Nat.le_refl _) (Nat.le_refl _) Iff.rfl fun _ => rfl
      exact List.forall_mem_singleton.mpr
        { lasting := rfl, silent := if_neg own, stale := fun _ => rfl }
  noticed := by
    intro notice member
    rcases List.mem_append.mp member with old | new
    · exact serving.noticed notice old
    · cases List.mem_singleton.mp new
      exact given
  made := serving.made
  kept := serving.kept

/-- A signal gives a new subscription, and tells the subscriber its content. -/
theorem opened (serving : store.IsServing register [] stale) {signal : Nat}
    (alive : store.isAlive signal = true)
    {reaction : Reaction Note} {release : Release Note} (reacts : reaction.IsPassive)
    (releases : release.IsPassive) (allowed : register.Allows signal store.cells.size
      { number := store.nextSubscription, reaction := reaction, release := release })
      (since : Nat) :
    ((store.subscribed signal reaction release).told (.notified
      { signal := signal
        subscriber := store.nextSubscription
        content := (store.cell signal).content
        since := since })).IsServing (register.opened (store.opening signal)) [] stale := by
  obtain ⟨present, _⟩ := present_of_alive alive
  have size := size_subscribed signal reaction release store
  have contents := fun other => (cell_subscribed signal reaction release store other).1
  constructor
  case passive => exact passive_joined serving.passive reacts releases
  case allowed =>
    intro other record member
    change Register.Allows _ _ (store.subscribed signal reaction release).cells.size _
    rw [size]
    rcases mem_joined member with older | ⟨rfl, rfl⟩
    · exact serving.allowed other record older
    · exact allowed
  case listed =>
    intro other number holds
    rcases (holds_subscribed signal reaction release store).mp holds with older | ⟨rfl, _, rfl⟩
    · obtain ⟨subscription, member, named⟩ := serving.listed other number older
      exact ⟨subscription, List.mem_cons_of_mem _ member, named⟩
    · exact ⟨_, List.mem_cons_self, rfl, rfl⟩
  case orders =>
    intro subscription member
    rcases List.mem_cons.mp member with rfl | older
    · refine opening_in_order present (store.isAlive signal) since serving.noticed ?_ ?_
        ?_ ?_ ?_ List.not_mem_nil
      · exact List.append_assoc _ _ _
      · exact size.symm
      · rfl
      · exact (holds_subscribed signal reaction release store).mpr (.inr ⟨rfl, present, rfl⟩)
      · exact contents signal
    · have order := serving.orders subscription older
      have elsewhere :
          ¬(signal = subscription.signal ∧ store.nextSubscription = subscription.number) :=
        fun own => Nat.ne_of_lt order.numbered own.2.symm
      refine order.quiet (List.append_assoc _ _ _) ?_ (Nat.le_of_eq size.symm)
        (Nat.le_succ _) ?_ fun _ => contents _
      · intro happening listed
        rcases List.mem_cons.mp listed with rfl | last
        · exact { lasting := rfl, silent := rfl, stale := fun _ => rfl }
        · obtain rfl := List.mem_singleton.mp last
          exact { lasting := rfl, silent := if_neg elsewhere, stale := fun _ => rfl }
      · refine (holds_subscribed signal reaction release store).trans
          (or_iff_left fun young => elsewhere ?_)
        exact ⟨young.1, young.2.2.symm⟩
  case noticed =>
    intro notice member
    rcases List.mem_append.mp member with old | new
    · refine Nat.lt_succ_of_lt (serving.noticed notice ?_)
      exact (List.mem_append.mp old).resolve_right fun late => nomatch List.mem_singleton.mp late
    · cases List.mem_singleton.mp new
      exact Nat.lt_succ_self _
  case made =>
    intro rule member
    change _ ∧ rule.child < (store.subscribed signal reaction release).cells.size
    rw [size]
    exact serving.made rule member
  case kept =>
    intro rule member living
    have known := (cell_subscribed signal reaction release store rule.child).2
    refine (serving.kept rule member (known ▸ living)).imp_right fun kept => ?_
    exact kept.of_same (contents _) (contents _)

/-- A derived signal gets its rule, and may be stale. -/
theorem ruled (serving : store.IsServing register untold stale) {rule : Rule}
    (younger : rule.parent < rule.child)
    (present : rule.child < store.cells.size)
    (unfed : ∀ signal, ¬Fed (store.cell signal).subscribers rule.child) :
    store.IsServing (register.ruled rule) untold fun child => stale child ∨ child = rule.child :=
  { serving with
    allowed := by
      intro signal record member child transform feeds
      obtain ⟨young, there, fn, computes, unique⟩ :=
        serving.allowed signal record member child transform feeds
      refine ⟨young, there, fn, computes, fun other listed same => ?_⟩
      rcases List.mem_cons.mp listed with rfl | older
      · exact absurd ⟨record, member, transform, same ▸ feeds⟩ (unfed signal)
      · exact unique other older same
    orders := serving.orders
    made := by
      intro other listed
      rcases List.mem_cons.mp listed with rfl | older
      · exact ⟨younger, present⟩
      · exact serving.made other older
    kept := by
      intro other listed alive
      rcases List.mem_cons.mp listed with rfl | older
      · exact .inl (.inr rfl)
      · exact (serving.kept other older alive).imp_left .inl }

/-- A signal is offered a content that equals its own. -/
theorem declined (serving : store.IsServing register untold stale) {signal : Nat} {content : Value}
    (alive : store.isAlive signal = true)
    (equal : (store.cell signal).content.same content = true) :
    (store.offered signal content).IsServing register untold stale := by
  rw [Store.offered, if_pos alive]
  refine serving.told (by simp) fun subscription _ =>
    { lasting := rfl, silent := rfl, stale := fun _ => ?_ }
  simp [Happening.news?, equal]

/-- A signal is offered a content that differs from its own, or that nobody compares, and takes it.
All its subscribers are yet to be told, and the signals that they feed are stale. -/
theorem taken (serving : store.IsServing register untold stale) {signal : Nat} (content : Value)
    (alive : store.isAlive signal = true) (apart : ∀ pair ∈ untold, pair.1 < signal) (own : stale signal)
    (differs : (store.cell signal).subscribers ≠ [] → (store.cell signal).content.same content = false)
    (fed : ∀ rule ∈ register.rules, rule.parent = signal → (store.cell rule.child).isDestroyed = false →
      Fed (store.cell signal).subscribers rule.child) :
    (store.taken signal content).IsServing register (enrolled signal (store.cell signal).subscribers ++ untold)
      fun child => stale child ∨ Fed (store.cell signal).subscribers child := by
  have told := happenings_taken alive content
  have rewritten := rewritten_taken signal content store
  constructor
  case passive =>
    intro other
    constructor
    case reactions => exact rewritten.subscribers other ▸ (serving.passive other).reactions
    case releases => exact rewritten.subscribers other ▸ (serving.passive other).releases
    case onDestroy => exact rewritten.on_destroy other ▸ (serving.passive other).onDestroy
  case allowed =>
    intro other record member
    rw [rewritten.size]
    exact serving.allowed other record (rewritten.subscribers other ▸ member)
  case listed =>
    exact fun other number held => serving.listed other number ((holds_of_rewritten rewritten _ _).mp held)
  case orders => exact fun subscription member => (serving.orders subscription member).taken content alive apart differs
  case noticed =>
    intro notice member
    rw [told] at member
    rw [rewritten.next]
    refine serving.noticed notice ((List.mem_append.mp member).resolve_right fun late => ?_)
    simp at late
  case made => exact rewritten.size ▸ serving.made
  case kept =>
    intro rule member alive
    rw [rewritten.is_destroyed] at alive
    by_cases child : rule.child = signal
    · exact .inl (.inl (child ▸ own))
    by_cases parent : rule.parent = signal
    · exact .inl (.inr (fed rule member parent alive))
    rcases serving.kept rule member alive with awaited | kept
    · exact .inl (.inl awaited)
    · exact .inr (kept.of_same (congrArg Cell.content (cell_taken_of_ne child content store))
        (congrArg Cell.content (cell_taken_of_ne parent content store)))

end Store.IsServing
end Signal
end Interplay
