import Interplay.Proofs.Signal.Lifetime

/-!
Destruction of signals.

Every operation of host code is a passage from one moment to a later one, callbacks included, by
induction on how deep callbacks nest.  Tearing down walks over subscribers that are held no longer,
so nothing that a callback does can reach them a second time.
-/

namespace Interplay
namespace Signal

open Chronicled Run

theorem passes_protected (message : String) {body : Run Chronicled Unit} (passes : Passes body) :
    Passes (protectedCall message body) := by
  refine Passes.bind passes.attempt fun outcome => ?_
  cases outcome with
  | ok _ => exact Passes.pure ()
  | error _ => exact Passes.modify fun store sound => ⟨[], passage_journal sound _⟩

theorem passes_unsubscribe (signal subscription : Nat) :
    Passes (unsubscribe signal subscription : Run Chronicled Unit) :=
  Passes.modify fun _ sound =>
    ⟨[], passage_modify_cell sound (fun destroyed => ⟨rfl, destroyed⟩) List.filter_sublist⟩

theorem passes_create (content : Value) (onDestroy : Option (Script Note)) :
    Passes (create content onDestroy : Run Chronicled Nat) := by
  intro start sound last left
  cases left
  exact ⟨[], passage_create sound content onDestroy⟩

theorem record_eq_number {subscriber : Subscriber Note} {record : Nat}
    (known : subscriber.record? = some record) :
    record = subscriber.number := by
  unfold Subscriber.record? at known
  split at known <;> cases known <;> rfl

theorem records_cons (first : Subscriber Note) (rest : List (Subscriber Note)) :
    (first :: rest).filterMap Subscriber.record? = first.record?.toList ++
    rest.filterMap Subscriber.record? := by
  rw [List.filterMap_cons]
  cases first.record? <;> rfl

theorem number_of_record {subscribers : List (Subscriber Note)} {record : Nat}
    (member : record ∈ subscribers.filterMap Subscriber.record?) : record ∈
    subscribers.map Subscriber.number := by
  obtain ⟨subscriber, listed, known⟩ := List.mem_filterMap.mp member
  exact List.mem_map.mpr ⟨subscriber, listed, (record_eq_number known).symm⟩

/-- The wanted ones come in order where strange ones stand between the first of them and the
rest. -/
theorem filter_wanted {first more further rest : List Nat}
    (strange : ∀ record ∈ more, record ∉ first ++ rest)
    (apart : ∀ record ∈ further, record ∉ first) (served : further.filter (· ∈ rest) = rest) :
    (first ++ more ++ further).filter (· ∈ first ++ rest) = first ++ rest := by
  have kept : first.filter (· ∈ first ++ rest) = first := by
    rw [List.filter_eq_self]
    exact fun record member => decide_eq_true (List.mem_append_left _ member)
  have dropped : more.filter (· ∈ first ++ rest) = [] := by
    rw [List.filter_eq_nil_iff]
    exact fun record member => by simpa using strange record member
  have onward : further.filter (· ∈ first ++ rest) = further.filter (· ∈ rest) :=
    List.filter_congr fun record member => by simp [apart record member]
  calc (first ++ more ++ further).filter (· ∈ first ++ rest)
      = first.filter (· ∈ first ++ rest) ++ more.filter (· ∈ first ++ rest) ++
          further.filter (· ∈ first ++ rest) := by rw [List.filter_append, List.filter_append]
    _ = first ++ [] ++ further.filter (· ∈ rest) := by rw [kept, dropped, onward]
    _ = first ++ rest := by rw [List.append_nil, served]

section Callers

variable {call : Caller Note Chronicle} (calls : ∀ script, Passes (call script))

include calls

theorem passes_react (content : Value) (reaction : Reaction Note) :
    Passes (react call content reaction) := by
  cases reaction with
  | call run => exact Passes.bind (calls _) fun _ => Passes.pure ()
  | feed target transform =>
      exact Passes.bind (calls _) fun _ => Passes.bind (calls _) fun _ => Passes.pure ()

theorem passes_release (release : Release Note) : Passes (Signal.release call release) := by
  cases release with
  | nothing => exact Passes.pure ()
  | call run => exact Passes.bind (calls run) fun _ => Passes.pure ()
  | destroy target => exact Passes.bind (calls _) fun _ => Passes.pure ()

theorem passes_write (signal : Nat) (content : Value) : Passes (write call signal content) := by
  refine Passes.get_bind fun store sound => ?_
  dsimp only
  by_cases destroyed : (store.cell signal).isDestroyed
  · simp only [destroyed, if_true]
    exact Passes.pure () store sound
  have stored : PassesFrom store
      (Run.modify (Store.modifyCell signal fun cell => { cell with content := content })) := by
    intro last left
    cases left
    exact ⟨[], passage_modify_cell sound
      (fun marked => absurd marked destroyed) (List.Sublist.refl _)⟩
  by_cases alone : (store.cell signal).subscribers.isEmpty
  · simp only [destroyed, alone, if_true]
    exact stored
  by_cases equal : (store.cell signal).content.same content
  · simp only [destroyed, alone, equal, if_true]
    exact Passes.pure () store sound
  simp only [destroyed, alone, equal]
  refine passes_from_bind stored fun _ middle _ sound => ?_
  exact Passes.for_each
    (fun subscriber => passes_protected _ (passes_react calls content _)) _ middle sound

theorem passes_attach (signal : Nat) (reaction : Reaction Note) (release : Release Note) :
    Passes (attach call signal reaction release) := by
  refine Passes.get_bind fun store sound => ?_
  have added : PassesFrom store (Run.modify fun _ => store.attached signal reaction release) := by
    intro last left
    cases left
    exact ⟨[], passage_attached sound signal reaction release⟩
  refine @passes_from_bind _ _ store _ _ added fun _ middle _ sound => ?_
  exact Passes.bind (passes_protected _ (passes_react calls _ reaction))
    (fun _ => Passes.pure _) middle sound

theorem passes_derive (signal : Nat) (transform : Value → Script Note) :
    Passes (derive call signal transform) := by
  refine Passes.get_bind fun store sound => ?_
  refine Passes.bind (calls _) (fun answer => ?_) store sound
  refine Passes.bind (passes_create answer.content none) fun target => ?_
  refine Passes.bind (passes_attach calls signal _ _) fun subscription => ?_
  refine Passes.bind (Passes.modify fun store sound => ?_) fun _ => Passes.pure target
  exact ⟨[], passage_modify_cell sound (fun destroyed => ⟨rfl, destroyed⟩) (List.Sublist.refl _)⟩

/-- A subscriber that is held no longer is torn down: its own record first, and then what that leads
to. -/
theorem passage_of_release (message : String) {subscriber : Subscriber Note}
    {start last : Chronicled}
    (sound : start.IsSound) (numbered : subscriber.number < start.nextSubscription)
    (loose : ∀ signal, ¬start.Holds signal subscriber.number)
    (left : (protectedCall message (recordedRelease call subscriber) start).state? = some last) :
    ∃ history more, Passage subscriber.record?.toList [] start last history ∧
      history.releases = subscriber.record?.toList ++ more ∧
      ∀ record ∈ more, (∃ holder, start.Holds holder record) ∨ start.nextSubscription ≤ record := by
  have released := passes_protected message (passes_release calls subscriber.release)
  unfold recordedRelease at left
  cases known : subscriber.record? with
  | none =>
      rw [known] at left
      obtain ⟨history, passage⟩ := released start sound last left
      exact ⟨history, history.releases, passage, rfl, fun record member =>
        (passage.torn record member).resolve_left nofun⟩
  | some record =>
      rw [known] at left
      obtain rfl := record_eq_number known
      have told := @passage_told _ sound (.released subscriber.number) nofun
        (by rintro record ⟨⟩; exact ⟨numbered, loose⟩) nofun
      obtain ⟨history, passage⟩ := released _ told.sound last left
      exact ⟨_, history.releases, told.then_plain passage, rfl, fun record member =>
        (passage.torn record member).resolve_left nofun⟩

/-- Subscribers that are held no longer are torn down in order. -/
theorem passage_of_releases (message : String) {subscribers : List (Subscriber Note)}
    {start last : Chronicled}
    (sound : start.IsSound) (distinct : (subscribers.map Subscriber.number).Nodup)
    (numbered : ∀ subscriber ∈ subscribers, subscriber.number < start.nextSubscription)
    (loose : ∀ subscriber ∈ subscribers, ∀ signal, ¬start.Holds signal subscriber.number)
    (left : (Run.forEach (fun subscriber => protectedCall message (recordedRelease call subscriber))
      subscribers start).state? = some last) :
    ∃ history, Passage (subscribers.filterMap Subscriber.record?) [] start last history ∧
      history.releases.filter (· ∈ subscribers.filterMap Subscriber.record?) =
        subscribers.filterMap Subscriber.record? := by
  induction subscribers generalizing start with
  | nil =>
      cases left
      exact ⟨[], .refl sound, rfl⟩
  | cons first rest ih =>
      obtain ⟨firstAbsent, restDistinct⟩ := List.nodup_cons.mp distinct
      have own : ∀ record ∈ first.record?.toList, record = first.number :=
        fun record member => record_eq_number (Option.mem_toList.mp member)
      have later : ∀ subscriber ∈ rest, subscriber ∈ first :: rest :=
        fun _ => List.mem_cons_of_mem first
      obtain ⟨_, middle, reached, remaining⟩ :=
        reached_of_bind (protected_never_fails message _) left
      obtain ⟨history, more, passage, released, outside⟩ :=
        passage_of_release calls message sound (numbered first List.mem_cons_self)
          (loose first List.mem_cons_self) (congrArg Result.state? reached)
      obtain ⟨further, tail, torn⟩ := ih passage.sound restDistinct
        (fun subscriber member => Nat.lt_of_lt_of_le
          (numbered subscriber (later subscriber member)) passage.later)
        (fun subscriber member => passage.stays_absent
          (numbered subscriber (later subscriber member))
          (loose subscriber (later subscriber member)))
        remaining
      -- what the first teardown leads to was held or is younger, so it is none of these records
      have strange : ∀ record ∈ more, record ∉ (first :: rest).filterMap Subscriber.record? := by
        intro record member listed
        obtain ⟨subscriber, inside, rfl⟩ := List.mem_map.mp (number_of_record listed)
        rcases outside _ member with ⟨holder, holds⟩ | young
        · exact loose subscriber inside holder holds
        · exact Nat.not_lt_of_le young (numbered subscriber inside)
      rw [records_cons] at strange ⊢
      have firstOnly : ∀ record ∈ first.record?.toList, record ∉
          rest.filterMap Subscriber.record? :=
        fun record mine listed => firstAbsent (own record mine ▸ number_of_record listed)
      have apart : ∀ record ∈ rest.filterMap Subscriber.record?, record ∉ history.releases := by
        intro record member already
        rw [released, List.mem_append] at already
        rcases already with mine | onward
        · exact firstOnly record mine member
        · exact strange record onward (List.mem_append_right _ member)
      have parted : ∀ record ∈ further.releases, record ∉ first.record?.toList := by
        intro record member mine
        obtain ⟨given, absent⟩ := passage.gone record (released ▸ List.mem_append_left _ mine)
        exact tail.spares given absent (firstOnly record mine) member
      refine ⟨history ++ further, passage.trans tail apart nofun, ?_⟩
      rw [History.releases_append, released]
      exact filter_wanted strange parted torn

/-- Tearing down a signal runs the teardowns of all its records, once each and in order. -/
theorem passage_of_tear_down (signal : Nat) (message : String)
    {start last : Chronicled} (sound : start.IsSound)
    (left : (recordedTearDown call signal message start).state? = some last) :
    ∃ history, Passage [] [] start last history ∧
      history.releases.filter (· ∈ (start.cell signal).records) = (start.cell signal).records := by
  have dropped : Passage [] [] start
      (start.modifyCell signal fun cell => { cell with subscribers := [] }) [] :=
    passage_modify_cell sound (fun destroyed => ⟨rfl, destroyed⟩) (List.nil_sublist _)
  have held : ∀ subscriber ∈ (start.cell signal).subscribers,
      start.Holds signal subscriber.number :=
    fun subscriber member => List.mem_map_of_mem member
  have loose : ∀ subscriber ∈ (start.cell signal).subscribers, ∀ other,
      ¬Holds (start.modifyCell signal fun cell => { cell with subscribers := [] })
        other subscriber.number := by
    intro subscriber member other holds
    unfold Holds at holds
    rw [Store.cell_modify_cell] at holds
    split at holds
    · cases holds
    · rename_i different
      have same := sound.apart signal other _ (held subscriber member) holds
      subst same
      -- a signal that is not there has no subscribers
      have absent : start.cells[signal]? = none := by
        rw [Array.getElem?_eq_none_iff]
        simpa using different
      rw [Store.cell, absent] at member
      cases member
  obtain ⟨history, passage, torn⟩ :=
    passage_of_releases calls message dropped.sound (sound.distinct signal)
    (fun subscriber member => sound.numbered signal _ (held subscriber member)) loose left
  refine ⟨history, ?_, torn⟩
  refine (dropped.trans passage (fun _ _ => List.not_mem_nil) (List.forall_mem_nil _)).settled
    (fun record listed => ?_) (List.forall_mem_nil _)
  obtain ⟨subscriber, member, known⟩ := List.mem_filterMap.mp listed
  exact ⟨signal, record_eq_number known ▸ held subscriber member⟩

omit calls in
theorem tear_down_never_fails (signal : Nat) (message : String) :
    NeverFails (recordedTearDown call signal message) :=
  fun _ => for_each_never_fails (fun _ => protected_never_fails message _) _ _

omit calls in
theorem on_destroy_never_fails (signal : Nat) (script : Option (Script Note)) :
    NeverFails (recordedOnDestroy call signal script) := by
  cases script with
  | none =>
      intro start failure last ended
      cases ended
  | some script => exact protected_never_fails _ _

theorem passage_of_on_destroy {signal : Nat} {script : Option (Script Note)}
    {start last : Chronicled}
    (sound : start.IsSound) (destroyed : script.isSome → start.standing.IsDestroyed signal)
    (left : (recordedOnDestroy call signal script start).state? = some last) :
    ∃ history closing, Passage [] closing start last history ∧
      ∀ other ∈ closing, other = signal ∧ script.isSome := by
  cases script with
  | none =>
      cases left
      exact ⟨[], [], .refl sound, nofun⟩
  | some script =>
      have told := @passage_told _ sound (.ended signal) nofun nofun
        (by rintro other ⟨⟩; exact destroyed rfl)
      have called : Passes
          (protectedCall "Error in signal on_destroy callback" (do let _ ← call script; pure ())) :=
        passes_protected _ (Passes.bind (calls script) fun _ => Passes.pure ())
      obtain ⟨history, passage⟩ := called _ told.sound last left
      exact ⟨_, _, told.then_plain passage, fun other mine => ⟨List.mem_singleton.mp mine, rfl⟩⟩

/-- What happens from the moment a signal is marked and off its parent. -/
theorem passage_of_destruction {signal : Nat} {script : Option (Script Note)}
    {marked last : Chronicled}
    (sound : marked.IsSound)
    (mark : signal < marked.cells.size → marked.standing.IsDestroyed signal)
    (present : script.isSome → signal < marked.cells.size)
    (left : ((do
      tellDestroyed signal
      recordedTearDown call signal "Error in signal destroy callback"
      recordedOnDestroy call signal script
      tell (.returned signal) : Run Chronicled Unit) marked).state? = some last) :
    ∃ history closing, Passage [] closing marked last history ∧
      ∀ other ∈ closing, other = signal := by
  let told := marked.told (.destroyed signal (marked.cell signal).records)
  have toldSound : told.IsSound := is_sound_told _ sound
  change ((recordedTearDown call signal "Error in signal destroy callback" >>= fun _ => _)
    told).state? = some last at left
  obtain ⟨_, torn, reached, left⟩ := reached_of_bind (tear_down_never_fails signal _) left
  obtain ⟨history, tearing, inOrder⟩ :=
    passage_of_tear_down calls signal _ toldSound (congrArg Result.state? reached)
  obtain ⟨_, ended, reached, left⟩ := reached_of_bind (on_destroy_never_fails signal script) left
  have destroyed : script.isSome → torn.standing.IsDestroyed signal :=
    fun some => tearing.keeps.is_destroyed (mark (present some))
  obtain ⟨further, closing, ending, own⟩ :=
    passage_of_on_destroy calls tearing.sound destroyed (congrArg Result.state? reached)
  cases left
  have returned := @passage_told _ ending.sound (.returned signal) nofun nofun nofun
  have inside : Passage [] closing told ended (history ++ further) := by
    refine tearing.trans ending nofun fun other mine already => ?_
    obtain ⟨rfl, some⟩ := own other mine
    exact (tearing.ended other already).1.resolve_left nofun (mark (present some))
  refine ⟨_, closing, passage_destroyed ?_ (inside.then_plain returned) ?_,
    fun other mine => (own other mine).1⟩
  · intro here
    exact mark (by simpa [standing] using here)
  · -- a record that was torn down is not held any more, so the last callback cannot reach it
    have strange : further.releases.filter (· ∈ (marked.cell signal).records) = [] := by
      rw [List.filter_eq_nil_iff]
      intro record member listed
      have before : record ∈ history.releases := by
        have kept : record ∈ history.releases.filter (· ∈ (marked.cell signal).records) :=
          inOrder.symm ▸ of_decide_eq_true listed
        exact (List.mem_filter.mp kept).1
      obtain ⟨given, absent⟩ := tearing.gone record before
      exact ending.spares given absent List.not_mem_nil member
    rw [History.releases_append, List.filter_append, strange, List.append_nil]
    exact inOrder

omit calls in
/-- Leaving a parent is a passage that fails nowhere and makes no signals. -/
theorem reached_of_detach {parent : Option (Nat × Nat)} {next : Run Chronicled Unit}
    {start last : Chronicled}
    (sound : start.IsSound) (left : ((detach parent >>= fun _ => next) start).state? = some last) :
    ∃ marked, Passage [] [] start marked [] ∧ marked.cells.size = start.cells.size ∧
      (next marked).state? = some last := by
  cases parent with
  | none => exact ⟨start, .refl sound, rfl, left⟩
  | some parent =>
      exact ⟨start.removeSubscriber parent.1 parent.2,
        passage_modify_cell sound (fun destroyed => ⟨rfl, destroyed⟩) List.filter_sublist,
        Array.size_modify, left⟩

theorem passes_destroy (signal : Nat) : Passes (recordedDestroy call signal) := by
  refine Passes.get_bind fun start sound => ?_
  dsimp only
  by_cases destroyed : (start.cell signal).isDestroyed
  · simp only [destroyed, if_true]
    exact Passes.pure () start sound
  simp only [destroyed]
  have alive : ¬start.standing.IsDestroyed signal :=
    not_is_destroyed_of_cell (Bool.eq_false_iff.mpr destroyed)
  have marking : Passage [] [] start
      (start.modifyCell signal fun cell => { cell with isDestroyed := true, parent := none }) [] :=
    passage_modify_cell sound (fun already => absurd already destroyed) (List.Sublist.refl _)
  intro last left
  obtain ⟨marked, detaching, size, left⟩ := reached_of_detach marking.sound left
  have sameSize : marked.cells.size = start.cells.size := size.trans Array.size_modify
  have mark : signal < marked.cells.size → marked.standing.IsDestroyed signal := by
    intro present
    rw [sameSize] at present
    refine detaching.keeps.is_destroyed (is_destroyed_of_cell ?_ ?_)
    · simpa [Store.modifyCell] using present
    · rw [Store.cell_modify_cell, if_pos ⟨rfl, present⟩]
  have present : (start.cell signal).onDestroy.isSome → signal < marked.cells.size := by
    intro some
    rw [sameSize]
    by_contra absent
    rw [Store.cell, Array.getElem?_eq_none_iff.mpr (Nat.le_of_not_lt absent)] at some
    cases some
  obtain ⟨history, closing, passage, own⟩ :=
    passage_of_destruction calls detaching.sound mark present left
  refine ⟨history, ((marking.then_plain detaching).trans passage (List.forall_mem_nil _) ?_).settled
    (List.forall_mem_nil _) ?_⟩
  · exact fun _ _ => List.not_mem_nil
  intro other mine
  exact own other mine ▸ alive

theorem passes_script {perform : Note → Run Chronicled Value}
    (performs : ∀ note, Passes (perform note))
    (script : Script Note) : Passes (recordedScript call perform script) := by
  induction script using Script.steps with
  | finish answer => exact Passes.pure answer
  | fail failure => exact Passes.raise failure
  | create content onDestroy next ih =>
      exact Passes.bind .operation fun _ => Passes.bind (passes_create content onDestroy) ih
  | read signal next ih =>
      exact Passes.bind .operation fun _ => Passes.get_bind fun store sound => ih _ store sound
  | isDestroyed signal next ih =>
      exact Passes.bind .operation fun _ => Passes.get_bind fun store sound => ih _ store sound
  | write signal content next ih =>
      exact Passes.bind .operation fun _ => Passes.bind
        (passes_write calls signal content) fun _ => ih
  | subscribe signal notify teardown next ih =>
      exact Passes.bind .operation fun _ => Passes.bind (passes_attach calls signal _ _) ih
  | unsubscribe signal subscription next ih =>
      exact Passes.bind .operation fun _ => Passes.bind
        (passes_unsubscribe signal subscription) fun _ => ih
  | derive signal transform next ih =>
      exact Passes.bind .operation fun _ => Passes.bind
        (passes_derive calls signal transform).attempt ih
  | destroy signal next ih =>
      exact Passes.bind .operation fun _ => Passes.bind (passes_destroy calls signal) fun _ => ih
  | clean signal next ih =>
      refine Passes.bind .operation fun _ => Passes.bind
        (fun start sound last left => ?_) fun _ => ih
      obtain ⟨history, passage, _⟩ := passage_of_tear_down calls signal _ sound left
      exact ⟨history, passage⟩
  | perform effect next ih =>
      exact Passes.bind .operation fun _ => Passes.bind (performs effect).attempt ih

end Callers

theorem passes_note (note : Note) : Passes (recordedNote note) := by
  intro start sound last left
  cases left
  exact ⟨[], passage_journal sound _⟩

/-- Every run is a passage, however callbacks nest. -/
theorem passes_recorded (fuel : Nat) (script : Script Note) : Passes (recorded fuel script) := by
  induction fuel generalizing script with
  | zero => exact nofun
  | succ fuel ih => exact passes_script ih passes_note script

theorem is_sound_empty : Chronicled.empty.IsSound := by
  have nothing : ∀ signal, (Chronicled.empty.cell signal).subscribers = [] := fun _ => rfl
  refine ⟨?_, ?_, ?_⟩
  · intro first second record one
    rw [Holds, nothing] at one
    cases one
  · intro signal
    rw [nothing]
    exact List.nodup_nil
  · intro signal record holds
    rw [Holds, nothing] at holds
    cases holds

/-- A signal with a derived one.  Its first teardown cleans and destroys the signal again and
subscribes to it once more before it fails, and the derived signal destroys its parent while it
follows it. -/
def tangled : Script Note :=
  .create (.int 1) (some (.destroy 0 .done)) fun source =>
  .subscribe source (fun _ => .done)
    (some (.clean source (.destroy source (.subscribe source (fun _ => .done) (some .done) fun _ =>
      .write source (.int 7) (.fail (.mishap .notWritable)))))) fun _ =>
  .derive source (fun content => .ofValue content) fun _ =>
  .subscribe 1 (fun content => if content.isTrue then .done else .destroy source .done)
    (some (.destroy source .done)) fun _ =>
  .write source (.int 0) <|
  .destroy source <|
  .write source (.int 9) .done

/-- All three records of the entangled signals are torn down, once each. -/
example : (match recorded 8 tangled Chronicled.empty with
    | .done _ last => last.history.releases
    | _ => []) = [0, 1, 2] := by
  rfl

end Signal
end Interplay
