import Interplay.Proofs.Signal.Rounds

/-!
Observed runs proceed in order.

Every operation of host code, callbacks included, leads from an orderly store to an orderly one and
only adds to what has happened.  Operations that call back in the middle of their work take up the
rest of it as an agenda, and what they call back keeps every agenda.
-/

namespace Interplay
namespace Signal

open Run

variable {ε κ υ α β : Type}

/-- Happenings that signals report of themselves while nobody is torn down. -/
def Happening.IsRoutine : Happening κ → Prop
  | released _ _ => False
  | own _ => False
  | _ => True

namespace Store

/-- What a step adds to a store if nobody is torn down in it and its surroundings stay. -/
structure Extends (before after : Store ε (Observed κ υ)) (more : List (Happening κ)) : Prop where
  told : after.happenings = before.happenings ++ more
  routine : ∀ happening ∈ more, happening.IsRoutine
  size : before.cells.size ≤ after.cells.size
  host : after.host.host = before.host.host
  next : before.nextSubscription ≤ after.nextSubscription
  /-- At most one subscriber comes, with a number that nobody had. -/
  joined : ∀ signal subscriber live, .attached signal subscriber live ∈ more →
    more = [.attached signal subscriber live] ∧ subscriber = before.nextSubscription ∧
      subscriber < after.nextSubscription
  held : ∀ signal subscriber, subscriber ∈ (after.cell signal).subscribers →
    subscriber ∈ (before.cell signal).subscribers ∨
      subscriber.number = before.nextSubscription ∧
      ∃ live, .attached signal subscriber.number live ∈ more
  ended : ∀ signal, (after.cell signal).isDestroyed = true ↔
    (before.cell signal).isDestroyed = true ∨ ∃ content, .destroyed signal content ∈ more

def announcing : Option κ → Store ε (Observed κ υ) → Store ε (Observed κ υ)
  | none, store => store
  | some event, store => store.told (.own event)

def rehost (host : υ) (store : Store ε (Observed κ υ)) : Store ε (Observed κ υ) :=
  { store with host := { store.host with host := host } }

end Store

/-- What a teardown announces before anything else, if calls of scripts do. -/
def Release.opening (called : Script ε → Option κ) : Release ε → Option κ
  | nothing => none
  | call run => called run
  | destroy target => called (.destroy target .done)

/-- What surroundings demand of a store.  Whatever signals do by themselves respects it, but calls
and teardowns are announced, and the law may speak of the announcements. -/
structure Law (ε κ υ : Type) [HasLog υ] where
  holds : Store ε (Observed κ υ) → Prop
  /-- What a call of a script announces before anything else. -/
  opening : Script ε → Option κ
  /-- What is known of a subscriber once he subscribed to a signal. -/
  knows : List (Happening κ) → Nat → Subscriber ε → Prop
  grows : ∀ {before after : Store ε (Observed κ υ)} {more : List (Happening κ)}, holds before →
    before.Extends after more → holds after
  logged : ∀ {store : Store ε (Observed κ υ)} level source message, holds store →
    holds (store.rehost (HasLog.log level source message store.host.host))
  held : ∀ {store : Store ε (Observed κ υ)} {signal : Nat} {subscriber : Subscriber ε},
    holds store →
    subscriber ∈ (store.cell signal).subscribers → knows store.happenings signal subscriber
  recalls : ∀ {store : Store ε (Observed κ υ)} {earlier : List (Happening κ)} {signal : Nat}
    {subscriber : Subscriber ε}, holds store → knows earlier signal subscriber →
    earlier <+: store.happenings →
      knows store.happenings signal subscriber
  enters : ∀ {store : Store ε (Observed κ υ)} script, holds store →
    holds (store.announcing (opening script))
  /-- Whoever is torn down calls what he releases at once. -/
  releases : ∀ {store : Store ε (Observed κ υ)} {signal : Nat} {subscriber : Subscriber ε},
    holds store →
    knows store.happenings signal subscriber →
      holds ((store.told (.released signal subscriber.number)).announcing
        (subscriber.release.opening opening))

/-- Surroundings that demand nothing. -/
def Law.silent [HasLog υ] : Law ε κ υ where
  holds _ := True
  opening _ := none
  knows _ _ _ := True
  grows _ _ := trivial
  logged _ _ _ _ := trivial
  held _ _ := trivial
  recalls _ _ _ := trivial
  enters _ _ := trivial
  releases _ _ := trivial

namespace Store

theorem mem_subscribed {signal other : Nat} {reaction : Reaction ε} {release : Release ε}
    {store : Store ε (Observed κ υ)} {subscriber : Subscriber ε}
    (member : subscriber ∈ ((store.subscribed signal reaction release).cell other).subscribers) :
    subscriber ∈ (store.cell other).subscribers ∨
      signal = other ∧ subscriber = { number := store.nextSubscription, reaction := reaction, release := release } := by
  change subscriber ∈ ((store.modifyCell signal _).cell other).subscribers at member
  rw [cell_modify_cell] at member
  split at member
  · rename_i here
    exact (List.mem_append.mp member).imp_right fun young => ⟨here.1, List.mem_singleton.mp young⟩
  · exact .inl member

namespace Extends

variable {before after : Store ε (Observed κ υ)} {more : List (Happening κ)}

/-- A signal that keeps its mark, in a step that marks nobody. -/
theorem ended_of_same {signal : Nat}
    (same : (after.cell signal).isDestroyed = (before.cell signal).isDestroyed)
    (nobody : ∀ content, .destroyed signal content ∉ more) :
    (after.cell signal).isDestroyed = true ↔
      (before.cell signal).isDestroyed = true ∨ ∃ content, .destroyed signal content ∈ more := by
  rw [same]
  exact (or_iff_left (not_exists.mpr nobody)).symm

theorem parted (told : after.happenings = before.happenings ++ more)
    (routine : ∀ happening ∈ more, happening.IsRoutine)
    (nobody : ∀ signal subscriber live, .attached signal subscriber live ∉ more)
    (size : before.cells.size ≤ after.cells.size) (host : after.host.host = before.host.host)
    (next : after.nextSubscription = before.nextSubscription)
    (held : ∀ signal, (after.cell signal).subscribers ⊆ (before.cell signal).subscribers)
    (ended : ∀ signal, (after.cell signal).isDestroyed = true ↔
      (before.cell signal).isDestroyed = true ∨ ∃ content, .destroyed signal content ∈ more) :
    before.Extends after more where
  told := told
  routine := routine
  size := size
  host := host
  next := Nat.le_of_eq next.symm
  joined := fun signal subscriber live member => absurd member (nobody signal subscriber live)
  held := fun signal _ member => .inl (held signal member)
  ended := ended

/-- A step that tells something and changes nothing else. -/
theorem reported (store : Store ε (Observed κ υ)) {happening : Happening κ}
    (routine : happening.IsRoutine)
    (nobody : ∀ signal subscriber live, happening ≠ .attached signal subscriber live)
    (never : ∀ signal content, happening ≠ .destroyed signal content) :
    store.Extends (store.told happening) [happening] :=
  parted rfl (List.forall_mem_singleton.mpr routine)
    (fun signal subscriber live member => nobody signal subscriber live
      (List.mem_singleton.mp member).symm)
    (Nat.le_refl _) rfl rfl (fun _ => List.Subset.refl _)
    fun signal => ended_of_same rfl fun content member => never signal content
      (List.mem_singleton.mp member).symm

theorem stored (signal : Nat) (content : Value) (store : Store ε (Observed κ υ)) :
    store.Extends (store.stored signal content)
      (if signal < store.cells.size then [.written signal content] else []) := by
  have cell : ∀ other, ((store.stored signal content).cell other).subscribers =
      (store.cell other).subscribers ∧
      ((store.stored signal content).cell other).isDestroyed = (store.cell other).isDestroyed := by
    intro other
    have changed : (store.stored signal content).cell other =
        (store.modifyCell signal fun cell => { cell with content := content }).cell other := by
      rw [Store.cell, cells_stored]
      rfl
    rw [changed, cell_modify_cell]
    split <;> exact ⟨rfl, rfl⟩
  refine parted (happenings_stored signal content store) (forall_mem_choice trivial) ?_
    (Nat.le_of_eq (size_stored signal content store).symm) ?_ ?_ (fun other => ?_) fun other => ?_
  · intro other subscriber live
    split <;> simp
  · unfold Store.stored
    split <;> rfl
  · unfold Store.stored
    split <;> rfl
  · rw [(cell other).1]
    exact List.Subset.refl _
  · refine ended_of_same (cell other).2 fun found => ?_
    split <;> simp

theorem subscribed (signal : Nat) (reaction : Reaction ε) (release : Release ε)
    (store : Store ε (Observed κ υ)) :
    store.Extends (store.subscribed signal reaction release)
      [.attached signal store.nextSubscription (store.isAlive signal)] where
  told := happenings_subscribed signal reaction release store
  routine := List.forall_mem_singleton.mpr trivial
  size := Nat.le_of_eq (size_subscribed signal reaction release store).symm
  host := rfl
  next := Nat.le_succ _
  joined := by
    intro other subscriber live member
    cases List.mem_singleton.mp member
    exact ⟨rfl, rfl, Nat.lt_succ_self _⟩
  held := by
    intro other subscriber member
    refine (mem_subscribed member).imp_right ?_
    rintro ⟨rfl, rfl⟩
    exact ⟨rfl, _, List.mem_cons_self⟩
  ended := fun other =>
    ended_of_same (cell_subscribed signal reaction release store other).2 fun content => by simp

theorem departed (signal subscription : Nat) (store : Store ε (Observed κ υ)) :
    store.Extends (store.departed signal subscription)
      (if subscription < store.nextSubscription then [.left signal subscription] else []) := by
  have parting := parting_departed signal subscription store
  refine parted parting.told (forall_mem_choice trivial) parting.nobody parting.size ?_ parting.next
    (fun other => ?_)
    fun other => ended_of_same (standing_departed signal subscription store other).2
      fun content => ?_
  · unfold Store.departed
    split <;> rfl
  · rw [cell_departed, removeSubscriber, cell_modify_cell]
    split
    · exact fun subscriber member => (List.mem_filter.mp member).1
    · exact List.Subset.refl _
  · split <;> simp

theorem cleared (signal : Nat) (store : Store ε (Observed κ υ)) :
    store.Extends (store.cleared signal) [.emptied signal] := by
  have parting := parting_cleared signal store
  refine parted parting.told (List.forall_mem_singleton.mpr trivial) parting.nobody
    parting.size rfl parting.next
    (fun other => ?_) fun other => ended_of_same
    (cell_cleared signal other store).2 fun content => by simp
  change ((store.modifyCell signal _).cell other).subscribers ⊆ _
  rw [cell_modify_cell]
  split
  · exact List.nil_subset _
  · exact List.Subset.refl _

theorem marked (signal : Nat) (store : Store ε (Observed κ υ)) :
    store.Extends (store.marked signal)
      (if signal < store.cells.size then [.destroyed signal (store.cell signal).content]
        else []) := by
  have parting := parting_marked signal store
  refine parted parting.told (forall_mem_choice trivial) parting.nobody parting.size ?_ parting.next
    (fun other => ?_)
    fun other => ?_
  · unfold Store.marked
    split <;> rfl
  · rw [Store.cell, cells_marked]
    change ((store.modifyCell signal _).cell other).subscribers ⊆ _
    rw [cell_modify_cell]
    split <;> exact List.Subset.refl _
  · rw [(cell_marked signal other store).2]
    split
    · rename_i here
      obtain ⟨rfl, present⟩ := here
      rw [if_pos present]
      exact iff_of_true rfl (.inr ⟨_, List.mem_cons_self⟩)
    · rename_i elsewhere
      refine (or_iff_left ?_).symm
      rintro ⟨content, member⟩
      split at member
      · cases List.mem_singleton.mp member
        exact elsewhere ⟨rfl, by assumption⟩
      · cases member

theorem created (content : Value) (onDestroy : Option (Script ε)) (store : Store ε (Observed κ υ)) :
    store.Extends (store.addCell (Cell.fresh content onDestroy)).2 [] := by
  refine parted (List.append_nil _).symm (List.forall_mem_nil _)
    (fun _ _ _ => List.not_mem_nil) (by simp [addCell])
    rfl rfl (fun other => ?_) fun other => ended_of_same ?_ fun _ => List.not_mem_nil
  · rw [cell_add_cell]
    split
    · exact List.nil_subset _
    · exact List.Subset.refl _
  · rw [cell_add_cell]
    split
    · rename_i young
      simp [young, Store.cell, Cell.fresh]
    · rfl

theorem followed (signal : Nat) (parent : Option (Nat × Nat)) (store : Store ε (Observed κ υ)) :
    store.Extends (store.modifyCell signal fun cell => { cell with parent := parent }) [] := by
  refine parted (List.append_nil _).symm (List.forall_mem_nil _) (fun _ _ _ => List.not_mem_nil)
    (Nat.le_of_eq (size_modify_cell _ _ store).symm) rfl rfl (fun other => ?_)
    fun other => ended_of_same ?_ fun _ => List.not_mem_nil
  · rw [cell_modify_cell]
    split <;> exact List.Subset.refl _
  · rw [cell_modify_cell]
    split <;> rfl

end Extends

variable [HasLog υ]

omit [HasLog υ] in
theorem InTurn.announced {agenda : Agenda} {store : Store ε (Observed κ υ)}
    (turn : store.InTurn agenda) (event : κ) :
    (store.told (.own event)).InTurn agenda :=
  turn.quiet rfl (List.forall_mem_singleton.mpr trivial) (fun _ => id) (fun _ _ => .inl)
    (Nat.le_refl _) fun _ _ => rfl

omit [HasLog υ] in
theorem InCustody.announced {agenda : Agenda} {store : Store ε (Observed κ υ)}
    (custody : store.InCustody agenda) (event : κ) : (store.told (.own event)).InCustody agenda :=
  custody.report (show Happening.IsReport (.own event) from trivial)

/-- Everybody is held or accounted for, everybody was told or has his turn to come, and the law
holds. -/
structure IsOrderly (law : Law ε κ υ) (agenda : Agenda) (store : Store ε (Observed κ υ)) :
    Prop where
  custody : store.InCustody agenda
  turn : store.InTurn agenda
  lawful : law.holds store

namespace IsOrderly

variable {law : Law ε κ υ} {agenda : Agenda} {store : Store ε (Observed κ υ)}

theorem stored (orderly : store.IsOrderly law agenda) {signal : Nat} (content : Value)
    (alive : (store.cell signal).isDestroyed = false) :
    (store.stored signal content).IsOrderly law
      { agenda with
        pending := enrolled signal (store.cell signal).subscribers ++ agenda.pending } where
  custody := { orderly.custody.stored content alive with }
  turn := orderly.turn.stored signal content
  lawful := law.grows orderly.lawful (.stored signal content store)

/-- What is known of a subscriber who comes is up to the law alone. -/
theorem joined {signal : Nat} {reaction : Reaction ε} {release : Release ε}
    (custody : store.InCustody agenda)
    (turn : store.InTurn agenda) (lawful : law.holds (store.subscribed signal reaction release)) :
    (store.subscribed signal reaction release).IsOrderly law
      { agenda with pending := (signal, store.nextSubscription) :: agenda.pending } where
  custody := { custody.subscribed signal reaction release with }
  turn := by
    refine turn.quiet (happenings_subscribed signal reaction release store)
      (List.forall_mem_singleton.mpr trivial)
      (fun pair waiting => List.mem_cons_of_mem _ waiting) ?_
      (Nat.le_of_eq (size_subscribed signal reaction release store).symm)
      fun other _ => (cell_subscribed signal reaction release store other).1
    intro other subscriber holds
    refine ((holds_subscribed signal reaction release store).mp holds).imp_right ?_
    rintro ⟨rfl, _, rfl⟩
    exact List.mem_cons_self
  lawful := lawful

theorem subscribed (orderly : store.IsOrderly law agenda) (signal : Nat)
    (reaction : Reaction ε) (release : Release ε) :
    (store.subscribed signal reaction release).IsOrderly law
      { agenda with pending := (signal, store.nextSubscription) :: agenda.pending } :=
  joined orderly.custody orderly.turn
    (law.grows orderly.lawful (.subscribed signal reaction release store))

theorem notified {notice : Notice} {rest : List (Nat × Nat)}
    (orderly : store.IsOrderly law
      { agenda with pending := (notice.signal, notice.subscriber) :: rest })
    (timely : notice.IsTimely store.happenings)
    (right : notice.content = (store.cell notice.signal).content ∨
      notice.IsOvertaken store.happenings) :
    (store.told (.notified notice)).IsOrderly law { agenda with pending := rest } where
  custody := by
    have reported :=
      orderly.custody.report (show Happening.IsReport (.notified notice) from trivial)
    exact { reported with }
  turn := orderly.turn.notified timely right
  lawful := law.grows orderly.lawful
    (.reported store trivial (fun _ _ _ same => by cases same) fun _ _ same => by cases same)

/-- A step that subscribes nobody, tells nobody anything and changes no content. -/
theorem parted {after : Store ε (Observed κ υ)} {next : Agenda} {more : List (Happening κ)}
    (orderly : store.IsOrderly law agenda) (parting : store.PartsTo after more)
    (custody : after.InCustody next)
    (pending : next.pending = agenda.pending) (silent : ∀ happening ∈ more, happening.IsSilent)
    (extends_ : store.Extends after more)
    (content : ∀ signal, (after.cell signal).content = (store.cell signal).content) :
    after.IsOrderly law next where
  custody := custody
  turn := orderly.turn.quiet parting.told silent (fun _ waiting => pending ▸ waiting)
    (fun _ _ holds => .inl (parting.held holds)) parting.size fun signal _ => content signal
  lawful := law.grows orderly.lawful extends_

theorem departed (orderly : store.IsOrderly law agenda) (signal subscription : Nat) :
    (store.departed signal subscription).IsOrderly law agenda :=
  orderly.parted (parting_departed signal subscription store)
    (orderly.custody.departed signal subscription) rfl
    (forall_mem_choice trivial) (.departed signal subscription store)
    fun other => (standing_departed signal subscription store other).1

theorem cleared (orderly : store.IsOrderly law agenda) (signal : Nat) :
    (store.cleared signal).IsOrderly law
      { agenda with
        loose := enrolled signal (store.cell signal).subscribers ++ agenda.loose
        closing := agenda.closing.filter (· != signal) } :=
  orderly.parted (parting_cleared signal store) (orderly.custody.cleared signal) rfl
    (List.forall_mem_singleton.mpr trivial) (.cleared signal store) fun other =>
      (cell_cleared signal other store).1

theorem marked (orderly : store.IsOrderly law agenda) (signal : Nat) :
    (store.marked signal).IsOrderly law { agenda with closing := signal :: agenda.closing } :=
  orderly.parted (parting_marked signal store) (orderly.custody.marked signal) rfl
    (forall_mem_choice trivial)
    (.marked signal store) fun other => (cell_marked signal other store).1

/-- What surroundings announce is up to the law alone. -/
theorem announcing {event : Option κ} (custody : store.InCustody agenda)
    (turn : store.InTurn agenda)
    (lawful : law.holds (store.announcing event)) :
    (store.announcing event).IsOrderly law agenda := by
  cases event with
  | none => exact ⟨custody, turn, lawful⟩
  | some event => exact ⟨custody.announced event, turn.announced event, lawful⟩

/-- The next of those who are dropped is torn down. -/
theorem released {signal : Nat} {subscriber : Subscriber ε} {rest : List (Nat × Nat)}
    (orderly : store.IsOrderly law { agenda with loose := (signal, subscriber.number) :: rest })
    (known : law.knows store.happenings signal subscriber) :
    ((store.told (.released signal subscriber.number)).announcing
      (subscriber.release.opening law.opening)).IsOrderly law { agenda with loose := rest } := by
  have turn := orderly.turn.quiet (parting_released signal subscriber.number store).told
    (List.forall_mem_singleton.mpr trivial) (fun _ => id) (fun _ _ => .inl)
    (Nat.le_refl _) fun _ _ => rfl
  exact announcing orderly.custody.released { turn with } (law.releases orderly.lawful known)

theorem created (orderly : store.IsOrderly law agenda) (content : Value)
    (onDestroy : Option (Script ε)) :
    (store.addCell (Cell.fresh content onDestroy)).2.IsOrderly law agenda where
  custody := orderly.custody.created content onDestroy
  turn := by
    refine orderly.turn.quiet (List.append_nil _).symm (List.forall_mem_nil _)
      (fun _ => id) ?_ (by simp [addCell]) ?_
    · intro signal subscriber holds
      rw [Holds, numbers, cell_add_cell] at holds
      split at holds
      · cases holds
      · exact .inl holds
    · intro signal present
      rw [cell_add_cell, if_neg (Nat.ne_of_lt present)]
  lawful := law.grows orderly.lawful (.created content onDestroy store)

theorem rehosted (orderly : store.IsOrderly law agenda) {host : υ}
    (lawful : law.holds (store.rehost host)) :
    (store.rehost host).IsOrderly law agenda where
  custody := orderly.custody.rehosted host
  turn := orderly.turn.quiet (List.append_nil _).symm (List.forall_mem_nil _)
    (fun _ => id) (fun _ _ => .inl) (Nat.le_refl _) fun _ _ => rfl
  lawful := lawful

theorem followed (orderly : store.IsOrderly law agenda) (signal : Nat)
    (parent : Option (Nat × Nat)) :
    (store.modifyCell signal fun cell => { cell with parent := parent }).IsOrderly law agenda where
  custody := orderly.custody.modified (fun _ => rfl) (fun _ => rfl) fun _ => rfl
  turn := by
    refine orderly.turn.quiet (List.append_nil _).symm (List.forall_mem_nil _) (fun _ => id) ?_
      (Nat.le_of_eq (size_modify_cell _ _ store).symm) fun other _ => ?_
    · intro other subscriber holds
      rw [Holds, numbers_of_same] at holds
      · exact .inl holds
      · exact fun _ => rfl
    · rw [cell_modify_cell]
      split <;> rfl
  lawful := law.grows orderly.lawful (.followed signal parent store)

/-- It is no mistake to expect signals to drop their subscribers. -/
theorem closing (orderly : store.IsOrderly law agenda) {closing : List Nat}
    (more : ∀ signal ∈ agenda.closing, signal ∈ closing) : store.IsOrderly law
    { agenda with closing := closing } where
  custody :=
    { orderly.custody with
      closed := fun signal subscriber attached holds destroyed =>
        more signal (orderly.custody.closed signal subscriber attached holds destroyed) }
  turn := { orderly.turn with }
  lawful := orderly.lawful

/-- Where nobody subscribed yet and nothing happened, everything is in order. -/
theorem of_untouched (untold : store.happenings = [])
    (unheard : ∀ signal, store.numbers signal = [])
    (lawful : law.holds store) : store.IsOrderly law .nothing := by
  have nothing : ∀ happening, happening ∉ store.happenings := by
    intro happening
    rw [untold]
    exact List.not_mem_nil
  have nobody : ∀ signal subscriber, ¬store.Holds signal subscriber := by
    intro signal subscriber
    rw [Holds, unheard]
    exact List.not_mem_nil
  have inside : ∀ {happening earlier later}, store.happenings = earlier ++ happening :: later →
      False :=
    fun split => nothing _ (split ▸ List.mem_append_right _ List.mem_cons_self)
  exact
    { custody :=
        { distinct := fun signal => unheard signal ▸ List.nodup_nil
          numbered := fun signal subscriber holds => absurd holds (nobody signal subscriber)
          gone := fun signal subscriber away => absurd away (not_or.mpr ⟨nothing _, nothing _⟩)
          once := by
            rw [untold]
            exact List.nodup_nil
          dropped := fun signal subscriber loose => absurd loose List.not_mem_nil
          kept := fun signal subscriber attached => absurd attached (nothing _)
          closed := fun signal subscriber attached => absurd attached (nothing _)
          swept := fun _ _ _ split => (inside split).elim
          fixed := fun signal content marked => absurd marked (nothing _) }
      turn :=
        { timely := fun _ _ _ split => (inside split).elim
          written := fun signal content member => absurd member (nothing _)
          current := fun _ _ _ _ split => (inside split).elim
          served := fun signal subscriber holds => absurd holds (nobody signal subscriber) }
      lawful := lawful }

end IsOrderly
end Store

section Lawful

variable [HasLog υ]

/-- Wherever a run stops, the store is in order again, and nothing that happened is taken back. -/
def LeadsFrom (law : Law ε κ υ) (agenda : Agenda) (start : Store ε (Observed κ υ))
    (run : Run (Store ε (Observed κ υ)) α) : Prop :=
  ∀ last, (run start).state? = some last → last.IsOrderly law agenda ∧
    start.happenings <+: last.happenings

def Proceeds (law : Law ε κ υ) (run : Run (Store ε (Observed κ υ)) α) : Prop :=
  ∀ agenda (start : Store ε (Observed κ υ)), start.IsOrderly law agenda →
    LeadsFrom law agenda start run

section Leading

variable {law : Law ε κ υ} {agenda : Agenda} {start : Store ε (Observed κ υ)}

theorem leads_from_pure (value : α) (orderly : start.IsOrderly law agenda) :
    LeadsFrom law agenda start (pure value) := by
  intro last left
  cases left
  exact ⟨orderly, List.prefix_refl _⟩

theorem leads_from_modify {change : Store ε (Observed κ υ) → Store ε (Observed κ υ)}
    (orderly : (change start).IsOrderly law agenda)
    (grown : start.happenings <+: (change start).happenings) :
    LeadsFrom law agenda start (Run.modify change) := by
  intro last left
  cases left
  exact ⟨orderly, grown⟩

theorem leads_from_get_bind
    {next : Store ε (Observed κ υ) → Run (Store ε (Observed κ υ)) α}
    (leads : LeadsFrom law agenda start (next start)) :
    LeadsFrom law agenda start (Run.get >>= next) :=
  leads

theorem leads_from_modify_bind {change : Store ε (Observed κ υ) → Store ε (Observed κ υ)}
    {next : Unit → Run (Store ε (Observed κ υ)) α}
    (grown : start.happenings <+: (change start).happenings)
    (rest : LeadsFrom law agenda (change start) (next ())) :
    LeadsFrom law agenda start (Run.modify change >>= next) := by
  intro last left
  obtain ⟨orderly, onward⟩ := rest last left
  exact ⟨orderly, grown.trans onward⟩

theorem leads_from_choose {test : Prop} [Decidable test]
    {run alternative : Run (Store ε (Observed κ υ)) α}
    (chosen : test → LeadsFrom law agenda start run)
    (refused : ¬test → LeadsFrom law agenda start alternative) :
    LeadsFrom law agenda start (if test then run else alternative) := by
  by_cases holds : test
  · rw [if_pos holds]
    exact chosen holds
  · rw [if_neg holds]
    exact refused holds

/-- A part that never fails may leave another agenda to the rest, and another law. -/
theorem leads_from_reached {other : Law ε κ υ} {middle : Agenda}
    {first : Run (Store ε (Observed κ υ)) α}
    {next : α → Run (Store ε (Observed κ υ)) β} (leads : LeadsFrom other middle start first)
    (never : NeverFails first)
    (continues : ∀ value reached, reached.IsOrderly other middle →
      start.happenings <+: reached.happenings →
      LeadsFrom law agenda reached (next value)) : LeadsFrom law agenda start (first >>= next) := by
  intro last left
  obtain ⟨value, reached, done, left⟩ := reached_of_bind never left
  obtain ⟨orderly, grown⟩ := leads reached (congrArg Result.state? done)
  obtain ⟨settled, onward⟩ := continues value reached orderly grown last left
  exact ⟨settled, grown.trans onward⟩

theorem leads_from_bind {first : Run (Store ε (Observed κ υ)) α}
    {next : α → Run (Store ε (Observed κ υ)) β}
    (leads : LeadsFrom law agenda start first) (continues : ∀ value, Proceeds law (next value)) :
    LeadsFrom law agenda start (first >>= next) := by
  intro last left
  rcases state_of_bind_cases left with ⟨value, middle, reached, left⟩ | ⟨failure, failed⟩
  · obtain ⟨settled, grown⟩ := leads middle (congrArg Result.state? reached)
    obtain ⟨settled, onward⟩ := continues value agenda middle settled last left
    exact ⟨settled, grown.trans onward⟩
  · exact leads last (congrArg Result.state? failed)

theorem leads_from_attempt {run : Run (Store ε (Observed κ υ)) α}
    (leads : LeadsFrom law agenda start run) :
    LeadsFrom law agenda start (Run.attempt run) := by
  intro last left
  rw [state_attempt] at left
  exact leads last left

end Leading

namespace Proceeds

variable {law : Law ε κ υ}

theorem pure (value : α) : Proceeds law (Pure.pure value : Run (Store ε (Observed κ υ)) α) :=
  fun _ _ orderly => leads_from_pure value orderly

theorem raise (failure : Failure) :
    Proceeds law (Run.raise failure : Run (Store ε (Observed κ υ)) α) := by
  intro agenda start orderly last left
  cases left
  exact ⟨orderly, List.prefix_refl _⟩

theorem exhaust : Proceeds law (Run.exhaust : Run (Store ε (Observed κ υ)) α) := by
  intro agenda start orderly last left
  cases left

theorem of_except (outcome : Except Failure α) :
    Proceeds law (Run.ofExcept outcome : Run (Store ε (Observed κ υ)) α) := by
  cases outcome with
  | ok value => exact pure value
  | error failure => exact raise failure

theorem bind {run : Run (Store ε (Observed κ υ)) α} {next : α → Run (Store ε (Observed κ υ)) β}
    (first : Proceeds law run) (continues : ∀ value, Proceeds law (next value)) :
    Proceeds law (run >>= next) :=
  fun agenda start orderly => leads_from_bind (first agenda start orderly) continues

theorem get_bind {next : Store ε (Observed κ υ) → Run (Store ε (Observed κ υ)) α}
    (continues : ∀ store, Proceeds law (next store)) : Proceeds law (Run.get >>= next) :=
  fun agenda start orderly => continues start agenda start orderly

theorem attempt {run : Run (Store ε (Observed κ υ)) α} (proceeds : Proceeds law run) :
    Proceeds law (Run.attempt run) :=
  fun agenda start orderly => leads_from_attempt (proceeds agenda start orderly)

theorem for_each {step : α → Run (Store ε (Observed κ υ)) Unit}
    (proceeds : ∀ item, Proceeds law (step item))
    (items : List α) : Proceeds law (Run.forEach step items) := by
  induction items with
  | nil => exact pure ()
  | cons item rest ih => exact bind (proceeds item) fun _ => ih

theorem rehost {change : υ → υ}
    (keeps : ∀ store, law.holds store → law.holds (store.rehost (change store.host.host))) :
    Proceeds law (Run.modify (Store.mapHost (Observed.modify change)) : Run
      (Store ε (Observed κ υ)) Unit) :=
  fun _ start orderly => leads_from_modify (orderly.rehosted (keeps start orderly.lawful))
    (List.prefix_refl _)

/-- Runs in the surroundings alone, with changes that the law allows. -/
theorem aside {body : Run (Store ε υ) α}
    (apart : ∀ start last, (body start).state? = some last →
      last.cells = start.cells ∧ last.nextSubscription = start.nextSubscription)
    (keeps : ∀ (store : Store ε (Observed κ υ)) after, law.holds store →
      (body (store.mapHost Observed.host)).state? = some after →
      law.holds (store.rehost after.host)) :
    Proceeds law (Signal.aside body : Run (Store ε (Observed κ υ)) α) := by
  intro agenda start orderly last left
  have settled : ∀ after, (body (start.mapHost Observed.host)).state? = some after →
      after.mapHost
        (fun host => ({ host := host, happenings := start.happenings } : Observed κ υ)) = last →
      last.IsOrderly law agenda ∧ start.happenings <+: last.happenings := by
    rintro after reached rfl
    obtain ⟨cells, next⟩ := apart _ after reached
    rw [Store.mapHost, cells, next]
    exact ⟨orderly.rehosted (keeps start after orderly.lawful reached), List.prefix_refl _⟩
  unfold Signal.aside at left
  cases reached : body (start.mapHost Observed.host) with
  | done value after =>
      rw [reached] at left settled
      exact settled after rfl (Option.some.inj left)
  | raised failure after =>
      rw [reached] at left settled
      exact settled after rfl (Option.some.inj left)
  | exhausted =>
      rw [reached] at left
      cases left

/-- A body with a change of the surroundings before it and another one after it, however it ends. -/
theorem within {body : Run (Store ε (Observed κ υ)) α} {enter leave : υ → υ}
    (proceeds : Proceeds law body)
    (enters : ∀ store, law.holds store → law.holds (store.rehost (enter store.host.host)))
    (leaves : ∀ store, law.holds store → law.holds (store.rehost (leave store.host.host))) :
    Proceeds law (Signal.within (Observed.modify enter) (Observed.modify leave) body) := by
  intro agenda start orderly last left
  have entered := orderly.rehosted (enters start orderly.lawful)
  unfold Signal.within Run.ensuring at left
  have reached : ∃ middle, (body (start.mapHost (Observed.modify enter))).state? = some middle ∧
      middle.mapHost (Observed.modify leave) = last := by
    cases ended : body (start.mapHost (Observed.modify enter)) with
    | done value middle =>
        rw [ended] at left
        exact ⟨middle, rfl, Option.some.inj left⟩
    | raised failure middle =>
        rw [ended] at left
        exact ⟨middle, rfl, Option.some.inj left⟩
    | exhausted =>
        rw [ended] at left
        cases left
  obtain ⟨middle, inside, rfl⟩ := reached
  obtain ⟨settled, grown⟩ := proceeds agenda _ entered middle inside
  exact ⟨settled.rehosted (leaves middle settled.lawful), grown⟩

theorem followed_by {final : Run (Store ε (Observed κ υ)) Unit}
    {body : Run (Store ε (Observed κ υ)) α}
    (last : Proceeds law final) (proceeds : Proceeds law body) : Proceeds law
    (Run.followedBy final body) := by
  intro agenda start orderly after left
  unfold Run.followedBy at left
  have continued : ∀ {middle : Store ε (Observed κ υ)} {next : Unit →
      Run (Store ε (Observed κ υ)) α},
      (∀ value, Proceeds law (next value)) → (body start).state? = some middle →
      (Run.bind final next middle).state? = some after →
      after.IsOrderly law agenda ∧ start.happenings <+: after.happenings := by
    intro middle next nexts inside left
    obtain ⟨settled, grown⟩ := proceeds agenda start orderly middle inside
    obtain ⟨settled, onward⟩ := (Proceeds.bind last nexts) agenda middle settled after left
    exact ⟨settled, grown.trans onward⟩
  cases ended : body start with
  | done value middle =>
      rw [ended] at left continued
      exact continued (fun _ => Proceeds.pure value) rfl left
  | raised failure middle =>
      rw [ended] at left continued
      exact continued (fun _ => Proceeds.raise failure) rfl left
  | exhausted =>
      rw [ended] at left
      cases left

end Proceeds

section Operations

variable {law : Law ε κ υ}

theorem proceeds_unsubscribe (signal subscription : Nat) :
    Proceeds law (observedUnsubscribe signal subscription : Run (Store ε (Observed κ υ)) Unit) := by
  intro agenda start orderly
  refine leads_from_modify (orderly.departed signal subscription) ?_
  rw [Store.happenings_departed]
  exact List.prefix_append _ _

theorem proceeds_detach (parent : Option (Nat × Nat)) :
    Proceeds law (observedDetach parent : Run (Store ε (Observed κ υ)) Unit) := by
  cases parent with
  | none => exact Proceeds.pure ()
  | some parent => exact proceeds_unsubscribe parent.1 parent.2

omit [HasLog υ] in
theorem detach_never_fails (parent : Option (Nat × Nat)) :
    NeverFails (observedDetach parent : Run (Store ε (Observed κ υ)) Unit) := by
  intro start failure last failed
  cases parent <;> cases failed

theorem proceeds_create (content : Value) (onDestroy : Option (Script ε)) :
    Proceeds law (create content onDestroy : Run (Store ε (Observed κ υ)) Nat) := by
  intro agenda start orderly last left
  cases left
  exact ⟨orderly.created content onDestroy, List.prefix_refl _⟩

theorem leads_from_protected {agenda : Agenda} {start : Store ε (Observed κ υ)} {message : String}
    {body : Run (Store ε (Observed κ υ)) Unit} (leads : LeadsFrom law agenda start body) :
    LeadsFrom law agenda start (protectedCall message body) := by
  refine leads_from_bind (leads_from_attempt leads) fun outcome => ?_
  cases outcome with
  | ok _ => exact Proceeds.pure ()
  | error _ =>
      intro agenda start orderly
      exact leads_from_modify (orderly.rehosted (law.logged .error .signal message orderly.lawful))
        (List.prefix_refl _)

theorem proceeds_protected (message : String) {body : Run (Store ε (Observed κ υ)) Unit}
    (proceeds : Proceeds law body) : Proceeds law (protectedCall message body) :=
  fun agenda start orderly => leads_from_protected (proceeds agenda start orderly)

section Callers

variable {call : Caller ε (Observed κ υ)}

/-- A caller announces what the law demands and then keeps every agenda. -/
def Answers (law : Law ε κ υ) (call : Caller ε (Observed κ υ)) : Prop :=
  ∀ script agenda start, (start.announcing (law.opening script)).IsOrderly law agenda →
    LeadsFrom law agenda start (call script)

theorem Answers.proceeds (answers : Answers law call) (script : Script ε) :
    Proceeds law (call script) :=
  fun agenda start orderly => answers script agenda start
    (.announcing orderly.custody orderly.turn (law.enters script orderly.lawful))

/-- Where nothing has to be announced, it is enough to keep every agenda. -/
theorem Answers.of_proceeds (quiet : ∀ script, law.opening script = none)
    (proceeds : ∀ script, Proceeds law (call script)) :
    Answers law call := by
  intro script agenda start orderly
  rw [quiet] at orderly
  exact proceeds script agenda start orderly

variable (calls : Answers law call)

include calls

theorem proceeds_react (content : Value) (reaction : Reaction ε) :
    Proceeds law (react call content reaction) := by
  cases reaction with
  | call run => exact Proceeds.bind (calls.proceeds _) fun _ => Proceeds.pure ()
  | feed target transform =>
      exact Proceeds.bind (calls.proceeds _) fun _ => Proceeds.bind (calls.proceeds _)
        fun _ => Proceeds.pure ()

theorem leads_from_release {agenda : Agenda} {start : Store ε (Observed κ υ)} (release : Release ε)
    (orderly : (start.announcing (release.opening law.opening)).IsOrderly law agenda) :
    LeadsFrom law agenda start (Signal.release call release) := by
  cases release with
  | nothing => exact leads_from_pure () orderly
  | call run => exact leads_from_bind (calls run agenda start orderly) fun _ => Proceeds.pure ()
  | destroy target => exact leads_from_bind (calls _ agenda start orderly) fun _ => Proceeds.pure ()

/-- A round tells everybody in turn, each before his own callbacks run. -/
theorem leads_from_round {agenda : Agenda} {signal : Nat} {content : Value}
    {begun : List (Happening κ)}
    {subscribers : List (Subscriber ε)} {start : Store ε (Observed κ υ)}
    (orderly : start.IsOrderly law
      { agenda with
        pending := enrolled signal subscribers ++ agenda.pending })
    (grown : begun ++ [Happening.written signal content] <+: start.happenings)
    (staying : ∀ subscriber ∈ subscribers,
      ¬Departed (begun ++ [Happening.written signal content]) signal subscriber.number) :
    LeadsFrom law agenda start
      (Run.forEach (notify call signal content (begun ++ [Happening.written signal content]).length)
        subscribers) := by
  induction subscribers generalizing start with
  | nil => exact leads_from_pure () orderly
  | cons first rest ih =>
      let notice : Notice :=
        { signal := signal, subscriber := first.number, content := content
          since := (begun ++ [Happening.written signal content]).length }
      obtain ⟨more, since⟩ := grown
      have round : start.happenings.take notice.since = begun ++
          [Happening.written signal content] := by
        rw [← since]
        exact List.take_left' rfl
      have timely : notice.IsTimely start.happenings :=
        ⟨.inl ⟨begun, round⟩, round ▸ staying first List.mem_cons_self⟩
      have right : content = (start.cell signal).content ∨ notice.IsOvertaken start.happenings := by
        by_cases overtaken : ∃ other, Happening.written signal other ∈ more
        · have passed : start.happenings.drop notice.since = more := by
            rw [← since]
            exact List.drop_left' rfl
          exact .inr (passed.symm ▸ overtaken : ∃ other, .written signal other ∈
            start.happenings.drop notice.since)
        · left
          refine (orderly.turn.current begun signal content more ?_ (not_exists.mp overtaken)).symm
          rw [← since, List.append_assoc]
          rfl
      have told := @Store.IsOrderly.notified _ _ _ _ law agenda start notice _ orderly timely right
      have called :=
        proceeds_protected "Error in signal subscriber"
          (proceeds_react calls content first.reaction)
      have leads : LeadsFrom law
          { agenda with pending := enrolled signal rest ++ agenda.pending } start
          (notify call signal content
            (begun ++ [Happening.written signal content]).length first) := by
        intro last left
        obtain ⟨settled, onward⟩ := called _ _ told last left
        exact ⟨settled, (List.prefix_append _ _).trans onward⟩
      refine leads_from_reached leads (protected_never_fails _ _) fun _ reached settled onward => ?_
      refine ih settled ?_ fun subscriber member => staying subscriber
        (List.mem_cons_of_mem _ member)
      exact List.IsPrefix.trans ⟨more, since⟩ onward

theorem proceeds_write (signal : Nat) (content : Value) :
    Proceeds law (observedWrite call signal content) := by
  intro agenda start orderly
  change LeadsFrom law agenda start (if (start.cell signal).isDestroyed then _ else _)
  refine leads_from_choose (fun _ => leads_from_pure () orderly) fun live => ?_
  have alive : (start.cell signal).isDestroyed = false := Bool.eq_false_iff.mpr live
  have stored := orderly.stored content alive
  have grown : start.happenings <+: (start.stored signal content).happenings :=
    Store.happenings_stored signal content start ▸ List.prefix_append _ _
  refine leads_from_choose (fun alone => ?_) fun crowd => ?_
  · have nobody : (start.cell signal).subscribers = [] := List.isEmpty_iff.mp alone
    rw [nobody] at stored
    exact leads_from_modify stored grown
  refine leads_from_choose (fun _ => leads_from_pure () orderly) fun _ =>
    leads_from_modify_bind grown ?_
  -- somebody is held, so the signal is there and the write is on record
  have present : signal < start.cells.size := by
    obtain ⟨subscriber, member⟩ :=
      List.exists_mem_of_ne_nil _ fun nobody => crowd (List.isEmpty_iff.mpr nobody)
    exact Store.Holds.present (List.mem_map_of_mem member : start.Holds signal subscriber.number)
  have told : (start.stored signal content).happenings = start.happenings ++
      [Happening.written signal content] := by
    rw [Store.happenings_stored, if_pos present]
  have recorded : start.happenings ++ [Happening.written signal content] <+:
      (start.stored signal content).happenings := told ▸ List.prefix_refl _
  rw [told]
  refine leads_from_round calls stored recorded fun subscriber member away => ?_
  rcases departed_append.mp away with away | late
  · exact (orderly.custody.gone signal _ away).2 (List.mem_map_of_mem member)
  · simp [Departed] at late

/-- Once somebody is subscribed, the content is replayed to him. -/
theorem leads_from_attach {agenda : Agenda} {signal : Nat}
    {reaction : Reaction ε} {release : Release ε} {start : Store ε (Observed κ υ)}
    (joined : (start.subscribed signal reaction release).IsOrderly law
      { agenda with pending := (signal, start.nextSubscription) :: agenda.pending })
    (staying : ¬Departed start.happenings signal start.nextSubscription) :
    LeadsFrom law agenda start (observedAttach call signal reaction release) := by
  let notice : Notice :=
    { signal := signal, subscriber := start.nextSubscription, content := (start.cell signal).content
      since := start.happenings.length }
  have timely : notice.IsTimely (start.subscribed signal reaction release).happenings := by
    rw [Store.happenings_subscribed]
    refine ⟨.inr ⟨_, List.drop_left' rfl⟩, ?_⟩
    rw [List.take_left' rfl]
    exact staying
  have right : notice.content = ((start.subscribed signal reaction release).cell signal).content :=
    (Store.cell_subscribed signal reaction release start signal).1.symm
  have told := @Store.IsOrderly.notified _ _ _ _ law agenda _ notice _ joined timely (.inl right)
  have replayed := Proceeds.bind (proceeds_protected "Error in initial subscriber notification"
    (proceeds_react calls (start.cell signal).content reaction)) fun _ =>
      Proceeds.pure start.nextSubscription
  intro last left
  obtain ⟨settled, onward⟩ := replayed agenda _ told last left
  refine ⟨settled, List.IsPrefix.trans ?_ onward⟩
  exact (List.prefix_append _ _).trans (List.prefix_append _ _)

theorem proceeds_attach (signal : Nat) (reaction : Reaction ε) (release : Release ε) :
    Proceeds law (observedAttach call signal reaction release) := fun _ _ orderly =>
  leads_from_attach calls (orderly.subscribed signal reaction release) fun away =>
    Nat.lt_irrefl _ (orderly.custody.gone _ _ away).1

/-- Everybody who was dropped is torn down in turn. -/
theorem leads_from_discharges {agenda : Agenda} {message : String} {signal : Nat}
    {subscribers : List (Subscriber ε)} {start : Store ε (Observed κ υ)}
    (orderly : start.IsOrderly law
      { agenda with loose := enrolled signal subscribers ++ agenda.loose })
    (known : ∀ subscriber ∈ subscribers, law.knows start.happenings signal subscriber) :
    LeadsFrom law agenda start (Run.forEach (discharge call message signal) subscribers) := by
  induction subscribers generalizing start with
  | nil => exact leads_from_pure () orderly
  | cons first rest ih =>
      have told := @Store.IsOrderly.released _ _ _ _ law agenda start signal first _ orderly
        (known first List.mem_cons_self)
      have released := leads_from_release calls first.release told
      have leads : LeadsFrom law
          { agenda with loose := enrolled signal rest ++ agenda.loose } start
          (discharge call message signal first) := by
        refine leads_from_protected fun last left => ?_
        obtain ⟨settled, onward⟩ := released last left
        exact ⟨settled, (List.prefix_append _ _).trans onward⟩
      refine leads_from_reached leads (protected_never_fails _ _)
        fun _ reached settled onward => ih settled ?_
      exact fun subscriber member =>
        law.recalls settled.lawful (known subscriber (List.mem_cons_of_mem _ member)) onward

theorem leads_from_tear_down {agenda : Agenda} {signal : Nat} {message : String}
    {start : Store ε (Observed κ υ)}
    (orderly : start.IsOrderly law { agenda with closing := signal :: agenda.closing }) :
    LeadsFrom law agenda start (observedTearDown call signal message) := by
  have dropped := (orderly.cleared signal).closing fun other member => by
    obtain ⟨listed, different⟩ := List.mem_filter.mp member
    exact (List.mem_cons.mp listed).resolve_left (bne_iff_ne.mp different)
  have known : ∀ subscriber ∈ (start.cell signal).subscribers,
      law.knows (start.cleared signal).happenings signal subscriber := fun subscriber member =>
    law.recalls dropped.lawful (law.held orderly.lawful member) (List.prefix_append _ _)
  have discharged : LeadsFrom law agenda (start.cleared signal)
      (Run.forEach (discharge call message signal) (start.cell signal).subscribers) :=
    leads_from_discharges calls dropped known
  intro last left
  obtain ⟨settled, onward⟩ := discharged last left
  exact ⟨settled, (List.prefix_append _ _).trans onward⟩

theorem proceeds_tear_down (signal : Nat) (message : String) :
    Proceeds law (observedTearDown call signal message) :=
  fun _ _ orderly => leads_from_tear_down calls
    (orderly.closing fun _ => List.mem_cons_of_mem signal)

theorem proceeds_on_destroy (script : Option (Script ε)) :
    Proceeds law (runOnDestroy call script) := by
  cases script with
  | none => exact Proceeds.pure ()
  | some script =>
      exact proceeds_protected _ (Proceeds.bind (calls.proceeds script) fun _ => Proceeds.pure ())

omit calls in
theorem observed_tear_down_never_fails (signal : Nat) (message : String) :
    NeverFails (observedTearDown call signal message) :=
  fun _ => for_each_never_fails (fun _ => protected_never_fails message _) _ _

theorem proceeds_destroy (signal : Nat) : Proceeds law (observedDestroy call signal) := by
  intro agenda start orderly
  change LeadsFrom law agenda start (if (start.cell signal).isDestroyed then _ else _)
  refine leads_from_choose (fun _ => leads_from_pure () orderly) fun _ => ?_
  have grown : start.happenings <+: (start.marked signal).happenings :=
    Store.happenings_marked signal start ▸ List.prefix_append _ _
  refine leads_from_modify_bind grown ?_
  refine leads_from_reached (proceeds_detach _ _ _ (orderly.marked signal)) (detach_never_fails _)
    fun _ detached settled _ => ?_
  refine leads_from_reached (leads_from_tear_down calls settled)
    (observed_tear_down_never_fails signal _)
    fun _ torn settled _ => ?_
  exact proceeds_on_destroy calls _ agenda torn settled

theorem proceeds_derive (signal : Nat) (transform : Value → Script ε) :
    Proceeds law (observedDerive call signal transform) := by
  refine Proceeds.get_bind fun store => ?_
  refine Proceeds.bind (calls.proceeds _) fun answer => ?_
  refine Proceeds.bind (proceeds_create answer.content none) fun target => ?_
  refine Proceeds.bind (proceeds_attach calls signal _ _) fun subscription => ?_
  refine Proceeds.bind (fun agenda start orderly => ?_) fun _ => Proceeds.pure target
  exact leads_from_modify (orderly.followed target _) (List.prefix_refl _)

theorem proceeds_script {perform : ε → Run (Store ε (Observed κ υ)) Value}
    (performs : ∀ effect, Proceeds law (perform effect)) (script : Script ε) :
    Proceeds law (observedScript call perform script) := by
  induction script using Script.steps with
  | finish answer => exact Proceeds.pure answer
  | fail failure => exact Proceeds.raise failure
  | create content onDestroy next ih => exact Proceeds.bind (proceeds_create content onDestroy) ih
  | read signal next ih => exact Proceeds.get_bind fun store => ih _
  | isDestroyed signal next ih => exact Proceeds.get_bind fun store => ih _
  | write signal content next ih =>
      exact Proceeds.bind (proceeds_write calls signal content) fun _ => ih
  | subscribe signal notify teardown next ih =>
      exact Proceeds.bind (proceeds_attach calls signal _ _) ih
  | unsubscribe signal subscription next ih =>
      exact Proceeds.bind (proceeds_unsubscribe signal subscription) fun _ => ih
  | derive signal transform next ih =>
      exact Proceeds.bind (proceeds_derive calls signal transform).attempt ih
  | destroy signal next ih => exact Proceeds.bind (proceeds_destroy calls signal) fun _ => ih
  | clean signal next ih => exact Proceeds.bind (proceeds_tear_down calls signal _) fun _ => ih
  | perform effect next ih => exact Proceeds.bind (performs effect).attempt ih

end Callers
end Operations
end Lawful

/-- Every observed run proceeds in order, however callbacks nest. -/
theorem proceeds_observed (fuel : Nat) (script : Script Note) :
    Proceeds Law.silent (observed fuel script) := by
  induction fuel generalizing script with
  | zero => exact Proceeds.exhaust
  | succ fuel ih =>
      refine proceeds_script (.of_proceeds (fun _ => rfl) ih)
        (fun note => Proceeds.aside ?_ fun _ _ _ _ => trivial) script
      intro store last left
      cases left
      exact ⟨rfl, rfl⟩

end Signal
end Interplay
