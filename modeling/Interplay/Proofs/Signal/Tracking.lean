import Interplay.Proofs.Run.Tracking
import Interplay.Signal.Store

/-!
Signals under two ways to run callbacks.

Signal operations call back whatever is attached to the signals.  If the callbacks that host code
may attach track each other under two callers, then so does every operation and every script, and an
invariant that survives the changes of the signals themselves survives the whole script.  Host code
may be told to spare signals: to write, in all that it does, attaches or returns, no signals but
free ones.
-/

namespace Interplay
namespace Signal

open Run

variable {ε υ : Type}

/-- Scripts that write to free signals only.  What they make is free. -/
inductive Script.Spares (free : Nat → Prop) : Script ε → Prop
  | finish {answer : Answer ε} (cleanup : ∀ script, answer = .cleanup script → script.Spares free)
      (deferred : ∀ script, answer = .deferred script → script.Spares free) :
      Spares free (.finish answer)
  | fail (failure : Failure) : Spares free (.fail failure)
  | create {content : Value} {onDestroy : Option (Script ε)} {next : Nat → Script ε}
      (destroyed : ∀ script, onDestroy = some script → script.Spares free)
      (continues : ∀ number, free number → (next number).Spares free) : Spares free
      (.create content onDestroy next)
  | read {signal : Nat} {next : Value → Script ε}
      (continues : ∀ content, (next content).Spares free) :
      Spares free (.read signal next)
  | isDestroyed {signal : Nat} {next : Bool → Script ε}
      (continues : ∀ flag, (next flag).Spares free) :
      Spares free (.isDestroyed signal next)
  | write {signal : Nat} {content : Value} {next : Script ε} (permitted : free signal)
      (continues : next.Spares free) : Spares free (.write signal content next)
  | subscribe {signal : Nat} {notify : Value → Script ε}
      {teardown : Option (Script ε)} {next : Nat → Script ε}
      (notified : ∀ content, (notify content).Spares free)
      (released : ∀ script, teardown = some script → script.Spares free)
      (continues : ∀ number, (next number).Spares free) : Spares free
      (.subscribe signal notify teardown next)
  | unsubscribe {signal subscription : Nat} {next : Script ε} (continues : next.Spares free) :
      Spares free (.unsubscribe signal subscription next)
  | derive {signal : Nat} {transform : Value → Script ε} {next : Except Failure Nat → Script ε}
      (transformed : ∀ content, (transform content).Spares free)
      (continues : ∀ number, free number → (next (.ok number)).Spares free)
      (fails : ∀ failure, (next (.error failure)).Spares free) : Spares free
      (.derive signal transform next)
  | destroy {signal : Nat} {next : Script ε} (continues : next.Spares free) :
      Spares free (.destroy signal next)
  | clean {signal : Nat} {next : Script ε} (continues : next.Spares free) :
      Spares free (.clean signal next)
  | perform {effect : ε} {next : Except Failure Value → Script ε}
      (continues : ∀ outcome, (next outcome).Spares free) : Spares free (.perform effect next)

variable {free : Nat → Prop}

mutual

theorem Script.spares_of_free (all : ∀ number, free number) :
    (script : Script ε) → script.Spares free
  | .finish answer => (answer.spares_of_free all).elim .finish
  | .fail failure => .fail failure
  | .create _ none next =>
    .create nofun fun number _ => (next number).spares_of_free all
  | .create _ (some onDestroy) next =>
    .create (fun _ same => by cases same; exact onDestroy.spares_of_free all)
      fun number _ => (next number).spares_of_free all
  | .read _ next => .read fun content => (next content).spares_of_free all
  | .isDestroyed _ next => .isDestroyed fun flag => (next flag).spares_of_free all
  | .write signal _ next => .write (all signal) (next.spares_of_free all)
  | .subscribe _ notify none next =>
    .subscribe (fun content => (notify content).spares_of_free all) nofun
      fun number => (next number).spares_of_free all
  | .subscribe _ notify (some teardown) next =>
    .subscribe (fun content => (notify content).spares_of_free all)
      (fun _ same => by cases same; exact teardown.spares_of_free all) fun number =>
        (next number).spares_of_free all
  | .unsubscribe _ _ next => .unsubscribe (next.spares_of_free all)
  | .derive _ transform next =>
    .derive (fun content => (transform content).spares_of_free all)
      (fun number _ => (next (.ok number)).spares_of_free all) fun failure =>
        (next (.error failure)).spares_of_free all
  | .destroy _ next => .destroy (next.spares_of_free all)
  | .clean _ next => .clean (next.spares_of_free all)
  | .perform _ next => .perform fun outcome => (next outcome).spares_of_free all

theorem Answer.spares_of_free (all : ∀ number, free number) : (answer : Answer ε) →
    (∀ script, answer = .cleanup script → script.Spares free) ∧
      ∀ script, answer = .deferred script → script.Spares free
  | .value _ => ⟨nofun, nofun⟩
  | .cleanup script => ⟨fun _ same => by cases same; exact script.spares_of_free all, nofun⟩
  | .promise _ => ⟨nofun, nofun⟩
  | .deferred script => ⟨nofun, fun _ same => by cases same; exact script.spares_of_free all⟩

end

/-- What is returned to be run later spares signals too. -/
structure Answer.Spares (free : Nat → Prop) (answer : Answer ε) : Prop where
  cleanup : ∀ script, answer = .cleanup script → script.Spares free
  deferred : ∀ script, answer = .deferred script → script.Spares free

theorem spares_done : (Script.done : Script ε).Spares free :=
  .finish nofun nofun

def Reaction.Spares (free : Nat → Prop) : Reaction ε → Prop
  | .call run => ∀ content, (run content).Spares free
  | .feed target transform => free target ∧ ∀ content, (transform content).Spares free

def Release.Spares (free : Nat → Prop) : Release ε → Prop
  | .nothing => True
  | .call run => run.Spares free
  | .destroy _ => True

theorem Release.spares_teardown : {teardown : Option (Script ε)} →
    (∀ script, teardown = some script → script.Spares free) →
      Release.Spares free (match teardown with
        | none => .nothing
        | some script => .call script)
  | none, _ => trivial
  | some script, released => released script rfl

/-- Everything attached to a signal spares signals. -/
structure Cell.Spares (free : Nat → Prop) (cell : Cell ε) : Prop where
  reactions : ∀ subscriber ∈ cell.subscribers, subscriber.reaction.Spares free
  releases : ∀ subscriber ∈ cell.subscribers, subscriber.release.Spares free
  onDestroy : ∀ script, cell.onDestroy = some script → script.Spares free

/-- An invariant that is kept by everything that may happen to signals as long as the others are
spared. -/
structure Upheld [HasLog υ] (free : Nat → Prop) (invariant : Store ε υ → Prop) : Prop where
  logged : ∀ store message, invariant store →
    invariant { store with host := HasLog.log .error .signal message store.host }
  numbered : ∀ store number, invariant store → invariant { store with nextSubscription := number }
  stored : ∀ store signal, invariant store → (store.cell signal).Spares free
  changed : ∀ store signal change, invariant store →
    (∀ cell : Cell ε, cell.Spares free → (change cell).Spares free) →
    (∀ cell : Cell ε, (change cell).content = cell.content) →
    invariant (store.modifyCell signal change)
  written : ∀ store signal content, invariant store → free signal →
    invariant (store.modifyCell signal fun cell => { cell with content := content })
  added : ∀ store content onDestroy, invariant store →
    (∀ script, onDestroy = some script → script.Spares free) →
    invariant (store.addCell (Cell.fresh content onDestroy)).2
  fresh : ∀ store, invariant store → free store.cells.size

section Operations

variable [HasLog υ] {lost : Prop} {invariant : Store ε υ → Prop} {first second : Caller ε υ}

/-- Callbacks that track each other under two callers, with answers that spare signals. -/
structure Serves (lost : Prop) (free : Nat → Prop) (invariant : Store ε υ → Prop)
    (first second : Caller ε υ) :
    Prop where
  tracks : ∀ script, script.Spares free → Tracks lost invariant (first script) (second script)
  yields : ∀ script, script.Spares free → Yields invariant (Answer.Spares free) (first script)

theorem tracks_protected (upheld : Upheld free invariant) (message : String)
    {body other : Run (Store ε υ) Unit} (tracks : Tracks lost invariant body other) :
    Tracks lost invariant (protectedCall message body) (protectedCall message other) := by
  refine tracks_bind (tracks_attempt tracks) fun outcome => ?_
  cases outcome with
  | ok => exact tracks_pure ()
  | error failure => exact tracks_modify fun store holds => upheld.logged store message holds

omit [HasLog υ] in
theorem tracks_react (serves : Serves lost free invariant first second)
    (content : Value) {reaction : Reaction ε} (spares : reaction.Spares free) :
    Tracks lost invariant (react first content reaction) (react second content reaction) := by
  cases reaction with
  | call run => exact tracks_bind (serves.tracks _ (spares content)) fun _ => tracks_pure ()
  | feed target transform =>
      refine tracks_bind (serves.tracks _ (spares.2 content)) fun answer => ?_
      exact tracks_bind (serves.tracks _ (.write spares.1 spares_done)) fun _ => tracks_pure ()

omit [HasLog υ] in
theorem tracks_release (serves : Serves lost free invariant first second) {released : Release ε}
    (spares : released.Spares free) :
    Tracks lost invariant (release first released) (release second released) := by
  cases released with
  | nothing => exact tracks_pure ()
  | call run => exact tracks_bind (serves.tracks _ spares) fun _ => tracks_pure ()
  | destroy target =>
      exact tracks_bind (serves.tracks _ (.destroy spares_done)) fun _ => tracks_pure ()

/-- A write tracks wherever the new content is one that the invariant can live with. -/
theorem tracks_write_at (upheld : Upheld free invariant)
    (serves : Serves lost free invariant first second)
    {store : Store ε υ} (holds : invariant store) (signal : Nat) {content : Value}
    (fits : invariant (store.modifyCell signal fun cell => { cell with content := content })) :
    (write first signal content store).Tracks lost invariant
    (write second signal content store) := by
  change ((if (store.cell signal).isDestroyed then _ else _ : Run (Store ε υ) Unit) store).Tracks
    lost invariant _
  refine tracks_if (fun _ => tracks_pure () store holds) fun _ => ?_
  refine tracks_if (fun _ => ⟨rfl, fits⟩) fun _ => tracks_if
    (fun _ => tracks_pure () store holds) fun _ => ?_
  refine tracks_for_each (fun subscriber member => tracks_protected upheld _ ?_) _ fits
  exact tracks_react serves content ((upheld.stored store signal holds).reactions subscriber member)

theorem tracks_write (upheld : Upheld free invariant)
    (serves : Serves lost free invariant first second)
    {signal : Nat} (permitted : free signal) (content : Value) :
    Tracks lost invariant (write first signal content) (write second signal content) :=
  fun store holds => tracks_write_at upheld serves holds signal
    (upheld.written store signal content holds permitted)

theorem tracks_create (upheld : Upheld free invariant) (content : Value)
    {onDestroy : Option (Script ε)}
    (spares : ∀ script, onDestroy = some script → script.Spares free) :
    Tracks lost invariant (create content onDestroy) (create content onDestroy) :=
  fun store holds => ⟨rfl, upheld.added store content onDestroy holds spares⟩

theorem yields_create (upheld : Upheld free invariant) (content : Value)
    (onDestroy : Option (Script ε)) :
    Yields invariant free (create content onDestroy) := by
  intro store number after holds ended
  cases ended
  exact upheld.fresh store holds

theorem tracks_attach (upheld : Upheld free invariant)
    (serves : Serves lost free invariant first second)
    (signal : Nat) {reaction : Reaction ε} {release : Release ε} (reacts : reaction.Spares free)
    (releases : release.Spares free) :
    Tracks lost invariant (attach first signal reaction release)
      (attach second signal reaction release) := by
  refine tracks_get_bind fun store holds => ?_
  refine tracks_bind (tracks_modify fun state holds => ?_) (fun _ => ?_) store holds
  · refine upheld.numbered _ _
      (upheld.changed state signal _ holds (fun cell spares => ?_) fun _ => rfl)
    refine ⟨fun subscriber member => ?_, fun subscriber member => ?_, spares.onDestroy⟩
    · rcases List.mem_append.mp member with before | added
      · exact spares.reactions subscriber before
      · obtain rfl := List.mem_singleton.mp added
        exact reacts
    · rcases List.mem_append.mp member with before | added
      · exact spares.releases subscriber before
      · obtain rfl := List.mem_singleton.mp added
        exact releases
  · refine tracks_bind (tracks_protected upheld _ ?_) fun _ => tracks_pure _
    exact tracks_react serves _ reacts

theorem tracks_unsubscribe (upheld : Upheld free invariant) (signal subscription : Nat) :
    Tracks lost invariant (unsubscribe signal subscription) (unsubscribe signal subscription) := by
  refine tracks_modify fun store holds => upheld.changed store signal _ holds
    (fun cell spares => ?_) fun _ => rfl
  exact ⟨fun subscriber member => spares.reactions subscriber (List.mem_filter.mp member).1,
    fun subscriber member => spares.releases subscriber (List.mem_filter.mp member).1,
    spares.onDestroy⟩

theorem tracks_tear_down (upheld : Upheld free invariant)
    (serves : Serves lost free invariant first second) (signal : Nat) (message : String) :
    Tracks lost invariant (tearDown first signal message) (tearDown second signal message) := by
  refine tracks_get_bind fun store holds => ?_
  refine tracks_bind (tracks_modify fun state holds => ?_) (fun _ => ?_) store holds
  · refine upheld.changed state signal _ holds (fun cell spares => ?_) fun _ => rfl
    exact ⟨fun _ member => (by cases member), fun _ member => (by cases member), spares.onDestroy⟩
  · refine tracks_for_each fun subscriber member => tracks_protected upheld _ ?_
    exact tracks_release serves ((upheld.stored store signal holds).releases subscriber member)

theorem tracks_destroy (upheld : Upheld free invariant)
    (serves : Serves lost free invariant first second)
    (signal : Nat) : Tracks lost invariant (destroy first signal) (destroy second signal) := by
  refine tracks_get_bind fun store holds => ?_
  refine tracks_if (fun _ => tracks_pure () store holds) fun _ => ?_
  refine tracks_bind (tracks_modify fun state holds => ?_) (fun _ => ?_) store holds
  · exact upheld.changed state signal _ holds
      (fun cell spares => ⟨spares.reactions, spares.releases, spares.onDestroy⟩)
      fun _ => rfl
  refine tracks_bind ?_ fun _ => tracks_bind (tracks_tear_down upheld serves signal _) fun _ => ?_
  · cases (store.cell signal).parent with
    | none => exact tracks_pure ()
    | some parent => exact tracks_unsubscribe upheld _ _
  · cases attached : (store.cell signal).onDestroy with
    | none => exact tracks_pure ()
    | some script =>
        refine tracks_protected upheld _
          (tracks_bind (serves.tracks script ?_) fun _ => tracks_pure ())
        exact (upheld.stored store signal holds).onDestroy script attached

theorem derive_serves (upheld : Upheld free invariant)
    (serves : Serves lost free invariant first second)
    (signal : Nat) {transform : Value → Script ε}
    (spares : ∀ content, (transform content).Spares free) :
    Tracks lost invariant (derive first signal transform) (derive second signal transform) ∧
      Yields invariant free (derive first signal transform) := by
  have made : ∀ content : Value, Tracks lost invariant (create content (none : Option (Script ε)))
      (create content none) := fun content => tracks_create upheld content nofun
  have follows : ∀ target, free target → Tracks lost invariant
      (attach first signal (.feed target transform) (.destroy target))
      (attach second signal (.feed target transform) (.destroy target)) :=
    fun target permitted => tracks_attach upheld serves signal ⟨permitted, spares⟩ trivial
  have linked : ∀ target subscription, Tracks lost invariant
      (modify (Store.modifyCell target fun cell : Cell ε =>
        { cell with parent := some (signal, subscription) }))
      (modify (Store.modifyCell target fun cell =>
        { cell with parent := some (signal, subscription) })) :=
    fun target subscription => tracks_modify fun store holds => upheld.changed store target _ holds
      (fun cell spares => ⟨spares.reactions, spares.releases, spares.onDestroy⟩) fun _ => rfl
  constructor
  · refine tracks_bind tracks_get fun store => tracks_bind
      (serves.tracks _ (spares _)) fun answer => ?_
    refine tracks_bind_of_yields (made _) (yields_create upheld _ _) fun target permitted => ?_
    refine tracks_bind (follows target permitted) fun subscription => ?_
    exact tracks_bind (linked target subscription) fun _ => tracks_pure target
  · refine yields_get_bind fun store => yields_bind (serves.tracks _ (spares _)) fun answer => ?_
    refine yields_bind_of_yields (made _) (yields_create upheld _ _) fun target permitted => ?_
    refine yields_bind (follows target permitted) fun subscription => ?_
    exact yields_bind (linked target subscription) fun _ => yields_pure permitted

/-- The outcome of deriving a signal: a failure, or a signal that is free. -/
theorem yields_derivation (upheld : Upheld free invariant)
    (serves : Serves lost free invariant first second)
    (signal : Nat) {transform : Value → Script ε}
    (spares : ∀ content, (transform content).Spares free) :
    Yields invariant (fun outcome => ∀ number, outcome = .ok number → free number)
      (attempt (derive first signal transform)) := by
  intro store outcome after holds ended number same
  subst same
  refine (derive_serves upheld serves signal spares).2 store number after holds ?_
  unfold attempt at ended
  split at ended
  · cases ended
    assumption
  · cases ended
  · cases ended

/-- Every script that spares signals tracks itself under two callers, if effects do. -/
theorem run_script_serves (upheld : Upheld free invariant)
    (serves : Serves lost free invariant first second) {perform other : ε → Run (Store ε υ) Value}
    (performs : ∀ effect, Tracks lost invariant (perform effect) (other effect)) {script : Script ε}
    (spares : script.Spares free) :
    Tracks lost invariant (runScript first perform script) (runScript second other script) ∧
      Yields invariant (Answer.Spares free) (runScript first perform script) := by
  induction spares with
  | finish cleanup deferred => exact ⟨tracks_pure _, yields_pure ⟨cleanup, deferred⟩⟩
  | fail failure => exact ⟨tracks_raise failure, yields_raise failure⟩
  | create destroyed continues destroys ih =>
      have made := fun content =>
        (tracks_create upheld content destroyed : Tracks lost invariant _ _)
      exact ⟨tracks_bind_of_yields (made _) (yields_create upheld _ _) fun number permitted =>
        (ih number permitted).1,
        yields_bind_of_yields (made _) (yields_create upheld _ _) fun number permitted =>
          (ih number permitted).2⟩
  | read continues ih =>
      exact ⟨tracks_bind tracks_get fun store => (ih _).1,
        yields_get_bind fun store => (ih _).2⟩
  | isDestroyed continues ih =>
      exact ⟨tracks_bind tracks_get fun store => (ih _).1,
        yields_get_bind fun store => (ih _).2⟩
  | write permitted continues ih =>
      have wrote := tracks_write upheld serves permitted
      exact ⟨tracks_bind (wrote _) fun _ => ih.1, yields_bind (wrote _) fun _ => ih.2⟩
  | @subscribe signal notify teardown next notified released continues notifies releases ih =>
      have attached :=
        tracks_attach upheld serves signal (show Reaction.Spares free (.call notify) from notified)
        (Release.spares_teardown released)
      exact ⟨tracks_bind attached fun number => (ih number).1,
        yields_bind attached fun number => (ih number).2⟩
  | unsubscribe continues ih =>
      have left := fun signal subscription =>
        (tracks_unsubscribe upheld signal subscription : Tracks lost invariant _ _)
      exact ⟨tracks_bind (left _ _) fun _ => ih.1, yields_bind (left _ _) fun _ => ih.2⟩
  | @derive signal transform next transformed continues fails transforms ih failed =>
      have derived := tracks_attempt (derive_serves upheld serves signal transformed).1
      have yields := yields_derivation upheld serves signal transformed
      have next_serves : ∀ outcome : Except Failure Nat,
          (∀ number, outcome = .ok number → free number) →
          Tracks lost invariant (runScript first perform (next outcome))
            (runScript second other (next outcome)) ∧
            Yields invariant (Answer.Spares free) (runScript first perform (next outcome)) := by
        intro outcome known
        cases outcome with
        | ok number => exact ih number (known number rfl)
        | error failure => exact failed failure
      exact ⟨tracks_bind_of_yields derived yields fun outcome known =>
        (next_serves outcome known).1,
        yields_bind_of_yields derived yields fun outcome known => (next_serves outcome known).2⟩
  | destroy continues ih =>
      have destroyed := tracks_destroy upheld serves
      exact ⟨tracks_bind (destroyed _) fun _ => ih.1, yields_bind (destroyed _) fun _ => ih.2⟩
  | clean continues ih =>
      have cleaned := fun signal => tracks_tear_down upheld serves signal
          "Error in clean_subscribers destroy callback"
      exact ⟨tracks_bind (cleaned _) fun _ => ih.1, yields_bind (cleaned _) fun _ => ih.2⟩
  | perform continues ih =>
      have performed := fun effect => tracks_attempt (performs effect)
      exact ⟨tracks_bind (performed _) fun outcome => (ih outcome).1,
        yields_bind (performed _) fun outcome => (ih outcome).2⟩

end Operations

end Signal
end Interplay
