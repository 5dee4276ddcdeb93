import Interplay.Proofs.Signal.Chronicle
import Mathlib.Data.List.Nodup

/-!
Lives of signals and of their records.

Whatever callbacks do, the teardown of a record runs at most once, and so does what a signal does on
its own destruction.  A signal that is destroyed runs the teardowns of all its records in order
before its destruction is over, and from the moment it is marked its content stays as it is.  The
proof follows a run from one moment to a later one: a record that is torn down was subscribed, or is
younger than the run, and is not subscribed any more.
-/

namespace Interplay
namespace Signal

def Event.released? : Event → Option Nat
  | released record => some record
  | _ => none

def Event.ended? : Event → Option Nat
  | ended signal => some signal
  | _ => none

/-- Signals that are destroyed stay so, and keep their content. -/
def Standing.Keeps (earlier later : Standing) : Prop :=
  ∀ (signal : Nat) content, earlier[signal]? = some (content, true) →
    later[signal]? = some (content, true)

def Standing.IsDestroyed (signal : Nat) (standing : Standing) : Prop :=
  ∃ content, standing[signal]? = some (content, true)

namespace History

/-- The records whose teardown was run, in order. -/
def releases (history : History) : List Nat :=
  history.filterMap fun moment => moment.event.released?

def endings (history : History) : List Nat :=
  history.filterMap fun moment => moment.event.ended?

/-- The destruction of a signal comes to an end, and until then all records that it had are torn
down in order. -/
def DestructionsEnd (history : History) : Prop :=
  ∀ before after signal records standing,
    history = before ++ { event := .destroyed signal records, standing := standing } :: after →
      ∃ inside rest last, after = inside ++ { event := .returned signal, standing := last } ::
      rest ∧
        (releases inside).filter (· ∈ records) = records

def DestructionsMark (history : History) : Prop :=
  ∀ moment ∈ history, ∀ signal records, moment.event = .destroyed signal records →
    signal < moment.standing.length → moment.standing.IsDestroyed signal

structure IsLawful (history : History) : Prop where
  teardowns : (releases history).Nodup
  endings : (History.endings history).Nodup
  destructions : history.DestructionsEnd
  marks : history.DestructionsMark
  fixed : history.Pairwise fun earlier later => earlier.standing.Keeps later.standing

@[simp] theorem releases_nil : releases [] = [] := rfl

@[simp] theorem releases_append (first second : History) :
    releases (first ++ second) = releases first ++ releases second :=
  List.filterMap_append

@[simp] theorem endings_nil : History.endings [] = [] := rfl

@[simp] theorem endings_append (first second : History) :
    History.endings (first ++ second) = History.endings first ++ History.endings second :=
  List.filterMap_append

theorem destructions_end_append {first second : History} (one : first.DestructionsEnd)
    (two : second.DestructionsEnd) :
    DestructionsEnd (first ++ second) := by
  intro before after signal records standing split
  rcases List.append_eq_append_iff.mp split with ⟨between, rfl, tail⟩ | ⟨between, front, tail⟩
  · exact two between after signal records standing tail
  · cases between with
    | nil => exact two [] after signal records standing tail.symm
    | cons moment between =>
        obtain ⟨rfl, rfl⟩ := List.cons.inj tail
        obtain ⟨inside, rest, last, rfl, torn⟩ := one before between signal records standing front
        exact ⟨inside, rest ++ second, last, by simp, torn⟩

theorem destructions_end_of_quiet {moment : Moment}
    (quiet : ∀ signal records, moment.event ≠ .destroyed signal records) :
    DestructionsEnd [moment] := by
  intro before after signal records standing split
  cases before with
  | nil =>
      obtain ⟨rfl, _⟩ := List.cons.inj split
      exact absurd rfl (quiet signal records)
  | cons first rest =>
      have impossible := congrArg List.length split
      simp at impossible

theorem IsLawful.append {first second : History} (one : first.IsLawful) (two : second.IsLawful)
    (torn : ∀ record ∈ releases first, record ∉ releases second)
    (ended : ∀ signal ∈ History.endings first, signal ∉ History.endings second)
    (fixed : ∀ earlier ∈ first, ∀ later ∈ second, earlier.standing.Keeps later.standing) :
    IsLawful (first ++ second) where
  teardowns := by
    rw [releases_append]
    exact List.Nodup.append one.teardowns two.teardowns torn
  endings := by
    rw [endings_append]
    exact List.Nodup.append one.endings two.endings ended
  destructions := destructions_end_append one.destructions two.destructions
  marks := by
    intro moment member
    rcases List.mem_append.mp member with member | member
    · exact one.marks moment member
    · exact two.marks moment member
  fixed := List.pairwise_append.mpr ⟨one.fixed, two.fixed, fixed⟩

end History

namespace Standing

theorem Keeps.refl (standing : Standing) : standing.Keeps standing :=
  fun _ _ found => found

theorem Keeps.trans {first second third : Standing} (one : first.Keeps second)
    (two : second.Keeps third) :
    first.Keeps third :=
  fun signal content found => two signal content (one signal content found)

theorem Keeps.is_destroyed {first second : Standing} {signal : Nat} (keeps : first.Keeps second)
    (destroyed : first.IsDestroyed signal) : second.IsDestroyed signal :=
  ⟨destroyed.choose, keeps signal _ destroyed.choose_spec⟩

end Standing

namespace Chronicled

/-- A subscription is held by a signal. -/
def Holds (store : Chronicled) (signal record : Nat) : Prop :=
  record ∈ (store.cell signal).subscribers.map Subscriber.number

/-- Every subscription is held once at most, and was numbered before. -/
structure IsSound (store : Chronicled) : Prop where
  apart : ∀ first second record, store.Holds first record →
    store.Holds second record → first = second
  distinct : ∀ signal, ((store.cell signal).subscribers.map Subscriber.number).Nodup
  numbered : ∀ signal record, store.Holds signal record → record < store.nextSubscription

theorem standing_getElem? (store : Chronicled) (signal : Nat) :
    store.standing[signal]? = (store.cells[signal]?).map fun cell =>
      (cell.content, cell.isDestroyed) := by
  simp [standing]

@[simp] theorem standing_told (event : Event) (store : Chronicled) :
    (store.told event).standing = store.standing := rfl

theorem is_destroyed_of_cell {store : Chronicled} {signal : Nat}
    (present : signal < store.cells.size)
    (destroyed : (store.cell signal).isDestroyed = true) : store.standing.IsDestroyed signal := by
  rw [Store.cell, Array.getElem?_eq_getElem present] at destroyed
  refine ⟨store.cells[signal].content, ?_⟩
  rw [standing_getElem?, Array.getElem?_eq_getElem present, Option.map_some]
  exact congrArg (fun flag => some (_, flag)) destroyed

theorem not_is_destroyed_of_cell {store : Chronicled} {signal : Nat}
    (alive : (store.cell signal).isDestroyed = false) : ¬store.standing.IsDestroyed signal := by
  rintro ⟨content, found⟩
  rw [standing_getElem?] at found
  obtain ⟨cell, present, same⟩ := Option.map_eq_some_iff.mp found
  rw [Store.cell, present, Option.getD_some] at alive
  rw [alive] at same
  cases same

end Chronicled

namespace Chronicled

/-- What happens from one moment of a run to a later one, written down as a history.  Records that
are about to be torn down are no longer held; `loose` are those, and `closing` are the signals that
are about to do what they do on destruction. -/
structure Passage (loose closing : List Nat) (before after : Chronicled) (history : History) :
    Prop where
  told : after.history = before.history ++ history
  sound : after.IsSound
  later : before.nextSubscription ≤ after.nextSubscription
  keeps : before.standing.Keeps after.standing
  held : ∀ signal record, after.Holds signal record →
    (∃ holder, before.Holds holder record) ∨ before.nextSubscription ≤ record
  torn : ∀ record ∈ history.releases,
    record ∈ loose ∨ (∃ holder, before.Holds holder record) ∨ before.nextSubscription ≤ record
  gone : ∀ record ∈ history.releases, record < after.nextSubscription ∧
    ∀ signal, ¬after.Holds signal record
  ended : ∀ signal ∈ history.endings,
    (signal ∈ closing ∨ ¬before.standing.IsDestroyed signal) ∧ after.standing.IsDestroyed signal
  between : ∀ moment ∈ history, before.standing.Keeps moment.standing ∧
    moment.standing.Keeps after.standing
  lawful : history.IsLawful

namespace Passage

variable {loose closing : List Nat} {before middle after : Chronicled} {history further : History}

theorem silent (told : after.history = before.history) (sound : after.IsSound)
    (later : before.nextSubscription ≤ after.nextSubscription)
    (keeps : before.standing.Keeps after.standing)
    (held : ∀ signal record, after.Holds signal record →
      (∃ holder, before.Holds holder record) ∨ before.nextSubscription ≤ record) :
    Passage [] [] before after [] where
  told := by simpa using told
  sound := sound
  later := later
  keeps := keeps
  held := held
  torn := nofun
  gone := nofun
  ended := nofun
  between := nofun
  lawful :=
    { teardowns := List.nodup_nil
      endings := List.nodup_nil
      destructions := by
        intro first last signal records standing split
        cases first <;> cases split
      marks := nofun
      fixed := List.Pairwise.nil }

theorem refl (sound : before.IsSound) : Passage [] [] before before [] :=
  silent rfl sound (Nat.le_refl _) (.refl _) fun signal _ holds => .inl ⟨signal, holds⟩

/-- A record that was given and is held by nobody is not held again. -/
theorem stays_absent (passage : Passage loose closing before after history) {record : Nat}
    (given : record < before.nextSubscription) (absent : ∀ signal, ¬before.Holds signal record)
    (signal : Nat) :
    ¬after.Holds signal record := by
  intro holds
  rcases passage.held signal record holds with ⟨holder, holds⟩ | young
  · exact absent holder holds
  · exact Nat.not_lt_of_le young given

theorem spares (passage : Passage loose closing before after history) {record : Nat}
    (given : record < before.nextSubscription) (absent : ∀ signal, ¬before.Holds signal record)
    (strange : record ∉ loose) : record ∉ history.releases := by
  intro torn
  rcases passage.torn record torn with inside | ⟨holder, holds⟩ | young
  · exact strange inside
  · exact absent holder holds
  · exact Nat.not_lt_of_le young given

theorem trans {more others : List Nat} (first : Passage loose closing before middle history)
    (second : Passage more others middle after further)
    (apart : ∀ record ∈ more, record ∉ history.releases)
    (distinct : ∀ signal ∈ others, signal ∉ history.endings) :
    Passage (loose ++ more) (closing ++ others) before after (history ++ further) where
  told := by rw [second.told, first.told, List.append_assoc]
  sound := second.sound
  later := Nat.le_trans first.later second.later
  keeps := first.keeps.trans second.keeps
  held := by
    intro signal record holds
    rcases second.held signal record holds with ⟨holder, holds⟩ | young
    · exact first.held holder record holds
    · exact .inr (Nat.le_trans first.later young)
  torn := by
    intro record member
    rw [History.releases_append, List.mem_append] at member
    rcases member with member | member
    · rcases first.torn record member with inside | held
      · exact .inl (List.mem_append_left _ inside)
      · exact .inr held
    · rcases second.torn record member with inside | ⟨holder, holds⟩ | young
      · exact .inl (List.mem_append_right _ inside)
      · exact .inr (first.held holder record holds)
      · exact .inr (.inr (Nat.le_trans first.later young))
  gone := by
    intro record member
    rw [History.releases_append, List.mem_append] at member
    rcases member with member | member
    · obtain ⟨given, absent⟩ := first.gone record member
      exact ⟨Nat.lt_of_lt_of_le given second.later, second.stays_absent given absent⟩
    · exact second.gone record member
  ended := by
    intro signal member
    rw [History.endings_append, List.mem_append] at member
    rcases member with member | member
    · obtain ⟨started, destroyed⟩ := first.ended signal member
      exact ⟨started.imp_left (List.mem_append_left _), second.keeps.is_destroyed destroyed⟩
    · obtain ⟨started, destroyed⟩ := second.ended signal member
      refine ⟨?_, destroyed⟩
      rcases started with inside | alive
      · exact .inl (List.mem_append_right _ inside)
      · exact .inr fun already => alive (first.keeps.is_destroyed already)
  between := by
    intro moment member
    rcases List.mem_append.mp member with member | member
    · exact ⟨(first.between moment member).1, (first.between moment member).2.trans second.keeps⟩
    · exact ⟨first.keeps.trans (second.between moment member).1, (second.between moment member).2⟩
  lawful := by
    refine first.lawful.append second.lawful (fun record torn => ?_) (fun signal one two => ?_)
      fun earlier one later two => ?_
    -- what was torn down is neither held afterwards nor numbered again
    · obtain ⟨given, absent⟩ := first.gone record torn
      exact second.spares given absent fun inside => apart record inside torn
    · rcases (second.ended signal two).1 with inside | alive
      · exact distinct signal inside one
      · exact alive (first.ended signal one).2
    · exact (first.between earlier one).2.trans (second.between later two).1

theorem then_plain (first : Passage loose closing before middle history)
    (second : Passage [] [] middle after further) : Passage loose closing before after
    (history ++ further) := by
  have whole := first.trans second nofun nofun
  rwa [List.append_nil, List.append_nil] at whole

/-- Records that were held and signals that were alive need no mention. -/
theorem settled (passage : Passage loose closing before after history)
    (held : ∀ record ∈ loose, ∃ holder, before.Holds holder record)
    (alive : ∀ signal ∈ closing, ¬before.standing.IsDestroyed signal) : Passage []
    [] before after history :=
  { passage with
    torn := fun record member => .inr <| (passage.torn record member).elim
      (fun listed => .inl (held record listed)) id
    ended := fun signal member =>
      ⟨.inr ((passage.ended signal member).1.elim (alive signal) id),
        (passage.ended signal member).2⟩ }

end Passage

theorem is_sound_told (event : Event) {store : Chronicled} (sound : store.IsSound) :
    (store.told event).IsSound :=
  ⟨sound.apart, sound.distinct, sound.numbered⟩

theorem passage_told {store : Chronicled} (sound : store.IsSound) {event : Event}
    (quiet : ∀ signal records, event ≠ .destroyed signal records)
    (released : ∀ record, event = .released record →
      record < store.nextSubscription ∧ ∀ signal, ¬store.Holds signal record)
    (ended : ∀ signal, event = .ended signal → store.standing.IsDestroyed signal) :
    Passage event.released?.toList event.ended?.toList store (store.told event)
      [{ event := event, standing := store.standing }] where
  told := rfl
  sound := is_sound_told event sound
  later := Nat.le_refl _
  keeps := .refl _
  held := fun signal _ holds => .inl ⟨signal, holds⟩
  torn := by
    intro record member
    refine .inl ?_
    cases event <;> simp_all [History.releases, Event.released?]
  gone := by
    intro record member
    have same : event = .released record := by
      cases event <;> simp_all [History.releases, Event.released?]
    exact released record same
  ended := by
    intro signal member
    have same : event = .ended signal := by
      cases event <;> simp_all [History.endings, Event.ended?]
    subst same
    exact ⟨.inl (by simp [Event.ended?]), ended signal rfl⟩
  between := by
    intro moment member
    obtain rfl := List.mem_singleton.mp member
    exact ⟨.refl _, .refl _⟩
  lawful :=
    { teardowns := by cases event <;> simp [History.releases, Event.released?]
      endings := by cases event <;> simp [History.endings, Event.ended?]
      destructions := History.destructions_end_of_quiet quiet
      marks := by
        intro moment member signal records same
        obtain rfl := List.mem_singleton.mp member
        exact absurd same (quiet signal records)
      fixed := List.pairwise_singleton _ _ }

theorem passage_destroyed {store after : Chronicled} {signal : Nat}
    {records : List Nat} {inside : History}
    {last : Standing} {closing : List Nat}
    (marked : signal < store.standing.length → store.standing.IsDestroyed signal)
    (passage : Passage [] closing (store.told (.destroyed signal records)) after
      (inside ++ [{ event := .returned signal, standing := last }]))
    (torn : inside.releases.filter (· ∈ records) = records) :
    Passage [] closing store after
      ({ event := .destroyed signal records, standing := store.standing } ::
      (inside ++ [{ event := .returned signal, standing := last }])) where
  told := by
    rw [passage.told]
    simp [told, history]
  sound := passage.sound
  later := passage.later
  keeps := passage.keeps
  held := passage.held
  torn := passage.torn
  gone := passage.gone
  ended := passage.ended
  between := by
    intro moment member
    rcases List.mem_cons.mp member with rfl | member
    · exact ⟨.refl _, passage.keeps⟩
    · exact passage.between moment member
  lawful :=
    { teardowns := passage.lawful.teardowns
      endings := passage.lawful.endings
      destructions := by
        intro first rest other others standing split
        cases first with
        | nil =>
            obtain ⟨same, rfl⟩ := List.cons.inj split
            cases same
            exact ⟨inside, [], last, rfl, torn⟩
        | cons moment first =>
            exact passage.lawful.destructions first rest other others standing
              (List.cons.inj split).2
      marks := by
        intro moment member other others same
        rcases List.mem_cons.mp member with rfl | member
        · cases same
          exact marked
        · exact passage.lawful.marks moment member other others same
      fixed := List.pairwise_cons.mpr
        ⟨fun moment member => (passage.between moment member).1, passage.lawful.fixed⟩ }

/-- Changes of one signal that attach nothing to it, and leave content and mark alone once it is
destroyed. -/
theorem passage_modify_cell {store : Chronicled} (sound : store.IsSound) {signal : Nat}
    {change : Cell Note → Cell Note} (kept : (store.cell signal).isDestroyed = true →
      (change (store.cell signal)).content = (store.cell signal).content ∧
        (change (store.cell signal)).isDestroyed = true)
    (fewer : (change (store.cell signal)).subscribers.Sublist (store.cell signal).subscribers) :
    Passage [] [] store (store.modifyCell signal change) [] := by
  have fewerHeld : ∀ other,
      (((store.modifyCell signal change).cell other).subscribers.map Subscriber.number).Sublist
      ((store.cell other).subscribers.map Subscriber.number) := by
    intro other
    rw [Store.cell_modify_cell]
    split
    · rename_i same
      obtain ⟨rfl, _⟩ := same
      exact fewer.map _
    · exact List.Sublist.refl _
  refine Passage.silent rfl ⟨?_, ?_, ?_⟩ (Nat.le_refl _) ?_ ?_
  · intro first second record one two
    exact sound.apart first second record ((fewerHeld first).subset one)
      ((fewerHeld second).subset two)
  · exact fun other => (sound.distinct other).sublist (fewerHeld other)
  · exact fun other record holds => sound.numbered other record ((fewerHeld other).subset holds)
  · intro other content found
    rw [standing_getElem?] at found ⊢
    obtain ⟨cell, present, same⟩ := Option.map_eq_some_iff.mp found
    simp only [Store.modifyCell, Array.getElem?_modify, present]
    by_cases equal : signal = other
    · subst equal
      have here : store.cell signal = cell := by rw [Store.cell, present, Option.getD_some]
      rw [here] at kept
      obtain ⟨rfl, marked⟩ := Prod.mk.inj same
      obtain ⟨sameContent, stillMarked⟩ := kept marked
      simp [sameContent, stillMarked]
    · simp [equal, same]
  · exact fun other record holds => .inl ⟨other, (fewerHeld other).subset holds⟩

def attached (signal : Nat) (reaction : Reaction Note) (release : Release Note)
    (store : Chronicled) : Chronicled :=
  { store.modifyCell signal (fun cell =>
      { cell with subscribers := cell.subscribers ++
          [{ number := store.nextSubscription, reaction := reaction, release := release }] }) with
    nextSubscription := store.nextSubscription + 1 }

theorem passage_attached {store : Chronicled} (sound : store.IsSound) (signal : Nat)
    (reaction : Reaction Note)
    (release : Release Note) : Passage [] [] store (store.attached signal reaction release) [] := by
  have numbers : ∀ other,
      ((store.attached signal reaction release).cell other).subscribers.map Subscriber.number =
      (store.cell other).subscribers.map Subscriber.number ++
        if signal = other ∧ other < store.cells.size then [store.nextSubscription] else [] := by
    intro other
    change ((store.modifyCell signal _).cell other).subscribers.map Subscriber.number = _
    rw [Store.cell_modify_cell]
    split
    · simp
    · simp
  have holds : ∀ other record, (store.attached signal reaction release).Holds other record →
      store.Holds other record ∨ (signal = other ∧ record = store.nextSubscription) := by
    intro other record member
    unfold Holds at member
    rw [numbers, List.mem_append] at member
    refine member.imp_right fun young => ?_
    split at young
    · rename_i here
      exact ⟨here.1, List.mem_singleton.mp young⟩
    · cases young
  refine Passage.silent rfl ⟨?_, ?_, ?_⟩ (Nat.le_succ _) ?_ ?_
  · intro first second record one two
    rcases holds first record one with one | ⟨here, young⟩
    · rcases holds second record two with two | ⟨_, young⟩
      · exact sound.apart first second record one two
      · exact absurd (sound.numbered first record one) (by omega)
    · rcases holds second record two with two | ⟨there, _⟩
      · exact absurd (sound.numbered second record two) (by omega)
      · exact here.symm.trans there
  · intro other
    rw [numbers]
    split
    · refine List.Nodup.append (sound.distinct other) (List.nodup_singleton _) ?_
      intro record old young
      exact absurd (sound.numbered other record old) (by rw [List.mem_singleton.mp young]; omega)
    · simpa using sound.distinct other
  · intro other record member
    rcases holds other record member with old | ⟨_, young⟩
    · exact Nat.lt_succ_of_lt (sound.numbered other record old)
    · exact young ▸ Nat.lt_succ_self _
  · intro other content found
    rw [standing_getElem?] at found ⊢
    obtain ⟨cell, present, same⟩ := Option.map_eq_some_iff.mp found
    simp only [attached, Store.modifyCell, Array.getElem?_modify, present]
    by_cases equal : signal = other
    · simp [equal, same]
    · simp [equal, same]
  · intro other record member
    rcases holds other record member with old | ⟨_, young⟩
    · exact .inl ⟨other, old⟩
    · exact .inr (by omega)

theorem passage_create {store : Chronicled} (sound : store.IsSound) (content : Value)
    (onDestroy : Option (Script Note)) :
    Passage [] [] store (store.addCell (Cell.fresh content onDestroy)).2 [] := by
  have holds : ∀ other record, Holds (store.addCell (Cell.fresh content onDestroy)).2 other record →
      store.Holds other record := by
    intro other record member
    unfold Holds Store.cell at member ⊢
    rw [Store.addCell, Array.getElem?_push] at member
    split at member
    · cases member
    · exact member
  refine Passage.silent rfl ⟨?_, ?_, ?_⟩ (Nat.le_refl _) ?_
    fun other record member => .inl ⟨other, holds other record member⟩
  · exact fun first second record one two => sound.apart first second record
      (holds _ _ one) (holds _ _ two)
  · intro other
    have old := sound.distinct other
    unfold Store.cell at old ⊢
    rw [Store.addCell, Array.getElem?_push]
    split
    · exact List.nodup_nil
    · exact old
  · exact fun other record member => sound.numbered other record (holds _ _ member)
  · intro other marked found
    rw [standing_getElem?] at found ⊢
    obtain ⟨cell, present, same⟩ := Option.map_eq_some_iff.mp found
    have inside := (Array.getElem?_eq_some_iff.mp present).1
    rw [Store.addCell, Array.getElem?_push, if_neg (Nat.ne_of_lt inside), present]
    exact congrArg some same

theorem passage_journal {store : Chronicled} (sound : store.IsSound) (journal : Journal) :
    Passage [] [] store { store with host := { store.host with journal := journal } } [] :=
  Passage.silent rfl ⟨sound.apart, sound.distinct, sound.numbered⟩ (Nat.le_refl _) (.refl _)
    fun signal _ holds => .inl ⟨signal, holds⟩

end Chronicled

open Chronicled

def PassesFrom {α : Type} (start : Chronicled) (run : Run Chronicled α) : Prop :=
  ∀ last, (run start).state? = some last → ∃ history, Passage [] [] start last history

def Passes {α : Type} (run : Run Chronicled α) : Prop :=
  ∀ start : Chronicled, start.IsSound → PassesFrom start run

namespace Passes

variable {α β : Type}

theorem pure (value : α) : Passes (Pure.pure value) := by
  intro start sound last left
  cases left
  exact ⟨[], .refl sound⟩

theorem raise (failure : Failure) : Passes (Run.raise failure : Run Chronicled α) := by
  intro start sound last left
  cases left
  exact ⟨[], .refl sound⟩

theorem modify {change : Chronicled → Chronicled}
    (passage : ∀ store : Chronicled, store.IsSound →
      ∃ history, Passage [] [] store (change store) history) :
    Passes (Run.modify change) := by
  intro start sound last left
  cases left
  exact passage start sound

theorem attempt {run : Run Chronicled α} (passes : Passes run) : Passes (Run.attempt run) := by
  intro start sound last left
  rw [Run.state_attempt] at left
  exact passes start sound last left

end Passes

theorem passes_from_bind {α β : Type} {start : Chronicled} {run : Run Chronicled α}
    {next : α → Run Chronicled β} (first : PassesFrom start run)
    (continues : ∀ value middle, run start = .done value middle → middle.IsSound →
      PassesFrom middle (next value)) :
    PassesFrom start (run >>= next) := by
  intro last left
  rcases Run.state_of_bind_cases left with ⟨value, middle, reached, left⟩ | ⟨failure, failed⟩
  · obtain ⟨history, passage⟩ := first middle (congrArg Result.state? reached)
    obtain ⟨further, rest⟩ := continues value middle reached passage.sound last left
    exact ⟨history ++ further, passage.then_plain rest⟩
  · exact first last (congrArg Result.state? failed)

namespace Passes

variable {α β : Type}

theorem bind {run : Run Chronicled α} {next : α → Run Chronicled β} (first : Passes run)
    (continues : ∀ value, Passes (next value)) : Passes (run >>= next) :=
  fun start sound => passes_from_bind (first start sound) fun value middle _ sound =>
    continues value middle sound

theorem get_bind {next : Chronicled → Run Chronicled α}
    (continues : ∀ store : Chronicled, store.IsSound → PassesFrom store (next store)) :
    Passes (Run.get >>= next) :=
  continues

theorem for_each {step : α → Run Chronicled Unit}
    (passes : ∀ item, Passes (step item)) (items : List α) :
    Passes (Run.forEach step items) := by
  induction items with
  | nil => exact Passes.pure ()
  | cons item rest ih => exact bind (passes item) fun _ => ih

theorem operation : Passes (tell .operation) :=
  modify fun _ sound => ⟨_, @passage_told _ sound .operation nofun nofun nofun⟩

end Passes

end Signal
end Interplay
