import Interplay.Proofs.Signal.Propagation

/-!
Operations that keep signals serving.

Setting a signal serves everybody, as contents are passed on.  Whatever ends subscriptions or lives
leaves all contents, so it needs no more than that callbacks only look on.  A new subscription
begins in order, and a signal that is derived is fed once before anybody can listen to it.
-/

namespace Interplay
namespace Signal

open Run Store

variable {α : Type} {register : Register} {stale : Nat → Prop} {origin before after store : Offered}
  {fuel signal number : Nat}

/-- Runs that leave signals serving a register. -/
abbrev Keeps (register : Register) (stale : Nat → Prop) (run : Run Offered α) : Prop :=
  Tracks True (Store.IsServing register [] stale) run run

theorem keeps_passive {script : Script Note} (passive : script.IsPassive) (fuel : Nat) :
    Keeps register stale (offering fuel script) := by
  refine fun store serving => Result.tracks_same (fun _ => trivial) fun last left => ?_
  obtain ⟨host, rfl⟩ := state_of_passive passive left
  exact serving.rehosted host

theorem keeps_protected (message : String) {body : Run Offered Unit}
    (keeps : Keeps register stale body) :
    Keeps register stale (protectedCall message body) := by
  refine tracks_bind (tracks_attempt keeps) fun outcome => ?_
  cases outcome with
  | ok => exact tracks_pure ()
  | error failure => exact tracks_modify fun store serving => serving.rehosted _

section Endings

variable (below : ∀ less, fuel = less + 1 →
    ∀ target, Keeps register stale (observedDestroy (offering less) target))

include below

theorem keeps_discharge (message : String) (signal : Nat) {record : Subscriber Note}
    (passive : record.release.IsPassive) : Keeps register stale
    (discharge (offering fuel) message signal record) := by
  refine keeps_protected message (tracks_bind (tracks_modify fun store serving => ?_) fun _ => ?_)
  · exact serving.told (by simp) fun _ _ => { lasting := rfl, silent := rfl, stale := fun _ => rfl }
  · cases released : record.release with
    | nothing => exact tracks_pure ()
    | call script =>
        rw [released] at passive
        exact tracks_bind (keeps_passive passive fuel) fun _ => tracks_pure ()
    | destroy target =>
        refine tracks_bind ?_ fun _ => tracks_pure ()
        cases fuel with
        | zero => exact tracks_exhaust trivial _
        | succ less =>
            refine tracks_bind (tracks_modify fun _ still => still) fun _ => ?_
            exact tracks_bind (below less rfl target) fun _ => tracks_pure _

theorem keeps_tear_down (signal : Nat) (message : String) :
    Keeps register stale (observedTearDown (offering fuel) signal message) := by
  refine tracks_get_bind fun store serving => ?_
  refine tracks_for_each (fun record member => ?_) (store.cleared signal) (serving.cleared signal)
  exact keeps_discharge below message signal ((serving.passive signal).releases record member)

theorem keeps_destroy_of (signal : Nat) :
    Keeps register stale (observedDestroy (offering fuel) signal) := by
  refine tracks_get_bind fun store serving => tracks_if
    (fun _ => tracks_pure () store serving) fun _ => ?_
  refine tracks_bind ?_ (fun _ => tracks_bind (keeps_tear_down below signal _) fun _ => ?_)
    _ (serving.marked signal)
  · cases (store.cell signal).parent with
    | none => exact tracks_pure ()
    | some claim => exact tracks_modify fun other still => still.departed claim.1 claim.2
  · cases attached : (store.cell signal).onDestroy with
    | none => exact tracks_pure ()
    | some script =>
        have passive := (serving.passive signal).onDestroy script attached
        exact keeps_protected _ (tracks_bind (keeps_passive passive fuel) fun _ => tracks_pure ())

end Endings

/-- Destroying signals, by induction on how often it is handed on to derived ones. -/
theorem keeps_destroy (fuel signal : Nat) :
    Keeps register stale (observedDestroy (offering fuel) signal) := by
  induction fuel generalizing signal with
  | zero =>
      exact keeps_destroy_of (fun less same => absurd same (Nat.succ_ne_zero less).symm) signal
  | succ fuel ih =>
      refine keeps_destroy_of (fun less same => ?_) signal
      obtain rfl := Nat.succ.inj same
      exact ih

theorem keeps_clean (fuel signal : Nat) :
    Keeps register stale (observedClean (offering fuel) signal) :=
  keeps_tear_down (fun less _ => keeps_destroy less) signal _

section Settings

variable (distinct : ∀ signal, (origin.numbers signal).Nodup)
  (linked : ∀ rule ∈ register.rules, (origin.cell rule.child).isDestroyed = false →
    Fed (origin.cell rule.parent).subscribers rule.child)

include distinct linked

theorem serving_of_write {content : Value} (rewritten : origin.Rewritten before)
    (serving : before.IsServing register [] stale)
    (present : signal < before.cells.size) (own : stale signal)
    (left : (offeringWrite (offering fuel) signal content before).state? = some after) :
    after.IsServing register [] stale := by
  have passes :=
    passes_on distinct linked fuel signal content
      [] stale before rewritten serving present nofun own
  exact (passes.holds left).1.serving

theorem serving_of_update {transform : Value → Script Note}
    (passive : ∀ content, (transform content).IsPassive)
    (rewritten : origin.Rewritten before) (serving : before.IsServing register [] stale)
    (present : signal < before.cells.size) (own : stale signal) {answer : Answer Note}
    (ended : offeringUpdate (offering fuel) signal transform before = .done answer after) :
    after.IsServing register [] stale := by
  change (offering fuel (transform (before.cell signal).content) >>= fun answer =>
    offering fuel (.write signal answer.content .done)) before = _ at ended
  obtain ⟨computed, middle, known, wrote⟩ := done_of_bind ended
  obtain ⟨host, rfl⟩ := state_of_passive (passive _) (congrArg Result.state? known)
  cases fuel with
  | zero => cases wrote
  | succ less =>
      rw [offering_write] at wrote
      obtain ⟨_, last, written, finished⟩ := done_of_bind wrote
      cases finished
      exact serving_of_write distinct linked (rewritten.trans (Rewritten.host before _))
        (serving.rehosted host) present own (congrArg Result.state? written)

/-- An update fails only if its function does, and then nothing is written. -/
theorem serving_of_refusal {transform : Value → Script Note}
    (passive : ∀ content, (transform content).IsPassive)
    (rewritten : origin.Rewritten before) (serving : before.IsServing register [] stale)
    (present : signal < before.cells.size) {failure : Failure}
    (ended : offeringUpdate (offering fuel) signal transform before = .raised failure after) :
    after.IsServing register [] stale := by
  change (offering fuel (transform (before.cell signal).content) >>= fun answer =>
    offering fuel (.write signal answer.content .done)) before = _ at ended
  rcases raised_of_bind ended with failed | ⟨computed, middle, known, failed⟩
  · obtain ⟨host, rfl⟩ := state_of_passive (passive _) (congrArg Result.state? failed)
    exact serving.rehosted host
  · obtain ⟨host, rfl⟩ := state_of_passive (passive _) (congrArg Result.state? known)
    cases fuel with
    | zero => cases failed
    | succ less =>
        have lenient : (before.rehosted host).IsServing register [] fun _ => True :=
          (serving.rehosted host).freshen fun _ _ _ _ => .inl trivial
        have passes :=
          passes_on distinct linked less signal computed.content [] _ (before.rehosted host)
          (rewritten.trans (Rewritten.host before _)) lenient present nofun trivial
        rw [offering_write] at failed
        rcases raised_of_bind failed with broken | ⟨_, _, _, broken⟩
        · rw [broken] at passes
          exact passes.elim
        · cases broken

theorem write_ends (rewritten : origin.Rewritten before)
    (serving : before.IsServing register [] stale)
    (present : signal < before.cells.size) (own : stale signal)
    (enough : origin.cells.size ≤ fuel + signal)
    (content : Value) : ∃ last, offeringWrite (offering fuel) signal content before = .done
    () last := by
  have passes :=
    passes_on distinct linked fuel signal content
      [] stale before rewritten serving present nofun own
  obtain ⟨last, ended, _⟩ := passes.ends (Nat.not_lt.mpr enough)
  exact ⟨last, ended⟩

theorem update_ends {transform : Value → Script Note}
    (passive : ∀ content, (transform content).IsPassive)
    (rewritten : origin.Rewritten before) (serving : before.IsServing register [] stale)
    (present : signal < before.cells.size) (own : stale signal)
    (enough : origin.cells.size ≤ fuel + signal) :
    ∃ last, (offeringUpdate (offering (fuel + 1)) signal transform before).state? = some last := by
  obtain ⟨host, left⟩ := passive_ends (passive (before.cell signal).content) fuel before
  change ∃ last, ((offering (fuel + 1) (transform (before.cell signal).content) >>= fun answer =>
    offering (fuel + 1) (.write signal answer.content .done)) before).state? = some last
  cases computed : offering (fuel + 1) (transform (before.cell signal).content) before with
  | done answer middle =>
      rw [computed] at left
      obtain rfl := Option.some.inj left
      have rehosted : origin.Rewritten (before.rehosted host) :=
        rewritten.trans (Rewritten.host before _)
      obtain ⟨last, ended⟩ :=
        write_ends distinct linked rehosted (serving.rehosted host) present own enough
        answer.content
      rw [bind_of_done computed, offering_write, bind_of_done ended]
      exact ⟨last, rfl⟩
  | raised failure middle => exact ⟨middle, congrArg Result.state? (bind_of_raised computed)⟩
  | exhausted =>
      rw [computed] at left
      cases left

end Settings

section Beginnings

theorem protected_of_done (message : String) {body : Run Offered Unit}
    (ended : body before = .done () after) :
    protectedCall message body before = .done () after := by
  unfold protectedCall
  have tried : Run.attempt body before = .done (.ok ()) after := by rw [Run.attempt, ended]
  rw [bind_of_done tried]
  rfl

/-- Host code subscribes to a live signal. -/
theorem serving_of_attach {notice : Value → Script Note} {teardown : Option (Script Note)}
    (serving : before.IsServing register [] stale) (alive : before.isAlive signal = true)
    (notified : ∀ content, (notice content).IsPassive)
    (released : ∀ script ∈ teardown, script.IsPassive)
    (ended : observedAttach (offering fuel) signal (.call notice)
      (.ofTeardown teardown) before = .done number after) :
    after.IsServing (register.opened (before.opening signal)) [] stale := by
  change (protectedCall _ _ >>= fun _ => pure before.nextSubscription) _ = _ at ended
  obtain ⟨_, middle, replayed, finished⟩ := done_of_bind ended
  cases finished
  have reacts : (Reaction.call notice).IsPassive := notified
  have opened :=
    serving.opened alive reacts (Release.passive_of_teardown released)
      nofun before.happenings.length
  have keeps : Keeps (register.opened (before.opening signal)) stale
      (protectedCall "Error in initial subscriber notification"
        (react (offering fuel) (before.cell signal).content (.call notice))) :=
    keeps_protected _ (tracks_bind (keeps_passive (notified _) fuel) fun _ => tracks_pure ())
  exact Result.holds_of_tracks (keeps _ opened) (congrArg Result.state? replayed)

theorem attach_ends {notice : Value → Script Note}
    (notified : ∀ content, (notice content).IsPassive)
    (fuel signal : Nat) (release : Release Note) (store : Offered) :
    ∃ last, observedAttach (offering (fuel + 1)) signal (.call notice) release store =
      .done store.nextSubscription last := by
  obtain ⟨host, told⟩ := protected_passive "Error in initial subscriber notification"
    (notified (store.cell signal).content) fuel
    ((store.subscribed signal (.call notice) release).told (.notified
      { signal := signal
        subscriber := store.nextSubscription
        content := (store.cell signal).content
        since := store.happenings.length }))
  exact ⟨_, bind_of_done told⟩

def Store.sprouted (signal : Nat) (content : Value) (transform : Value → Script Note) (store : Offered) : Offered :=
  let fresh := (store.addCell (Cell.fresh content none)).2
  (fresh.subscribed signal (.feed store.cells.size transform) (.destroy store.cells.size)).told (.notified
    { signal := signal
      subscriber := store.nextSubscription
      content := (fresh.cell signal).content
      since := fresh.happenings.length })

/-- A signal that is made to follow a live one may be stale still. -/
theorem Store.IsServing.sprout {transform : Value → Script Note} {fn : Value → Value}
    (serving : before.IsServing register [] stale) (alive : before.isAlive signal = true)
    (computes : Computes transform fn) (content : Value) :
    (before.sprouted signal content transform).IsServing
      ((register.ruled { child := before.cells.size, parent := signal, fn := fn }).opened (before.opening signal)) []
      fun child => stale child ∨ child = before.cells.size := by
  obtain ⟨present, living⟩ := present_of_alive alive
  have size : (before.addCell (Cell.fresh content none)).2.cells.size = before.cells.size + 1 := Array.size_push _
  have cell : (before.addCell (Cell.fresh content none)).2.cell signal = before.cell signal :=
    (cell_add_cell _ signal before).trans (if_neg (Nat.ne_of_lt present))
  have opening : (before.addCell (Cell.fresh content none)).2.opening signal = before.opening signal := by
    unfold Store.opening
    rw [cell]
    rfl
  have unfed : ∀ other, ¬Fed ((before.addCell (Cell.fresh content none)).2.cell other).subscribers
      before.cells.size := by
    rintro other ⟨record, member, transform, feeds⟩
    rw [cell_add_cell] at member
    split at member
    · cases member
    · exact Nat.lt_irrefl _ (serving.allowed other record member _ _ feeds).2.1
  let rule : Rule := { child := before.cells.size, parent := signal, fn := fn }
  have made : (before.addCell (Cell.fresh content none)).2.IsServing register [] stale := serving.created content nofun
  have younger : rule.parent < rule.child := present
  have ruled := made.ruled younger (size ▸ Nat.lt_succ_self _) unfed
  have reacts : (Reaction.feed before.cells.size transform).IsPassive := computes.passive
  have releases : (Release.destroy before.cells.size : Release Note).IsPassive := trivial
  rw [← opening]
  refine ruled.opened ?_ reacts releases ?_ _
  · exact alive_of_present (size ▸ Nat.lt_succ_of_lt present) (cell ▸ living)
  · intro child feeder feeds
    obtain ⟨rfl, rfl⟩ := Reaction.feed.inj feeds
    refine ⟨present, size ▸ Nat.lt_succ_self _, fn, computes, fun rule member same => ?_⟩
    rcases List.mem_cons.mp member with rfl | older
    · exact ⟨rfl, rfl⟩
    · exact absurd (serving.made rule older).2 (same ▸ Nat.lt_irrefl _)

/-- A derived signal that nobody listens to is fed, and holds what its rule says. -/
theorem feed_of_unattended {target : Nat} {transform : Value → Script Note}
    {fn : Value → Value} {content : Value}
    (serving : store.IsServing register [] fun child => stale child ∨ child = target)
    (alive : store.isAlive target = true) (lonely : (store.cell target).subscribers = [])
    (childless : ∀ rule ∈ register.rules, rule.parent ≠ target) (computes : Computes transform fn)
    (ruled : ∀ rule ∈ register.rules, rule.child = target →
      rule.fn = fn ∧ (store.cell rule.parent).content = content) (fuel : Nat) :
    ∃ last, react (offering (fuel + 1)) content (.feed target transform) store = .done () last ∧
      last.IsServing register [] stale := by
  obtain ⟨answer, host, known, writes⟩ := feed_writes computes fuel target content store
  have living : (store.rehosted host).isAlive target = true := alive
  have unheard : ((store.rehosted host).cell target).subscribers = [] := lonely
  have here := content_taken (present_of_alive living).1 answer
  have taken :=
    (serving.rehosted host).taken answer living nofun (.inr rfl) (fun crowd => absurd unheard crowd)
    fun rule member own _ => absurd own (childless rule member)
  rw [unheard] at taken
  have unfed : ((store.rehosted host).taken target answer).IsServing register [] fun child =>
      stale child ∨ child = target :=
    taken.freshen fun _ _ _ awaited => .inl (awaited.resolve_right (by simp [Fed]))
  refine ⟨(store.rehosted host).taken target answer, ?_,
    unfed.fed (fun rule member own => ?_) known fun _ => .inl here⟩
  · rw [writes]
    exact bind_of_done (write_of_unattended living unheard answer)
  · rw [cell_taken_of_ne (childless rule member)]
    exact ruled rule member own

theorem unattended_sprouted (store : Offered)
    (present : signal < store.cells.size) (content : Value) (transform : Value → Script Note) :
    (store.sprouted signal content transform).cell store.cells.size = Cell.fresh content none := by
  have joined := cell_joined signal store.cells.size
    { number := store.nextSubscription
      reaction := .feed store.cells.size transform
      release := .destroy store.cells.size }
    (store.addCell (Cell.fresh content none)).2
  rw [if_neg fun same => Nat.ne_of_lt present same.1, cell_add_cell, if_pos rfl] at joined
  exact joined

/-- How a signal is derived: its content is computed, it is recorded and then fed for the first
time. -/
theorem derive_of_fed {call : Caller Note (Observed Offer Journal)} {transform : Value → Script Note}
    {answer : Answer Note} {middle last : Offered}
    (computed : call (transform (before.cell signal).content) before = .done answer middle)
    (fed : react call ((middle.sprouted signal answer.content transform).cell signal).content
      (.feed middle.cells.size transform) (middle.sprouted signal answer.content transform) = .done () last) :
    observedDerive call signal transform before =
      .done middle.cells.size (last.claiming middle.cells.size (signal, middle.nextSubscription)) := by
  have told := protected_of_done "Error in initial subscriber notification" fed
  have content : ((middle.sprouted signal answer.content transform).cell signal).content =
      (((middle.addCell (Cell.fresh answer.content none)).2).cell signal).content :=
    (cell_subscribed signal _ _ _ signal).1
  rw [content] at told
  have attached : observedAttach call signal (.feed middle.cells.size transform) (.destroy middle.cells.size)
      (middle.addCell (Cell.fresh answer.content none)).2 = .done middle.nextSubscription last := bind_of_done told
  have derived : (create answer.content none >>= fun target =>
      observedAttach call signal (.feed target transform) (.destroy target) >>= fun subscription =>
      Run.modify (Store.modifyCell target fun cell => { cell with parent := some (signal, subscription) }) >>= fun _ =>
      pure target) middle =
      .done middle.cells.size (last.claiming middle.cells.size (signal, middle.nextSubscription)) :=
    bind_of_done attached
  exact (bind_of_done computed).trans derived

theorem derive_ends {transform : Value → Script Note} {fn : Value → Value}
    (serving : before.IsServing register [] stale) (alive : before.isAlive signal = true)
    (computes : Computes transform fn) (fuel : Nat) :
    ∃ last, observedDerive (offering (fuel + 1)) signal transform before =
    .done before.cells.size last ∧
      last.IsServing
        ((register.ruled { child := before.cells.size, parent := signal, fn := fn }).opened
        (before.opening signal)) [] stale := by
  obtain ⟨present, living⟩ := present_of_alive alive
  obtain ⟨answer, host, computed, _⟩ :=
    offering_computes computes fuel (before.cell signal).content before
  have sprouted := (serving.rehosted host).sprout alive computes answer.content
  have size : ((before.rehosted host).sprouted signal answer.content transform).cells.size =
      before.cells.size + 1 :=
    (size_subscribed _ _ _ _).trans (Array.size_push _)
  have unattended := unattended_sprouted (before.rehosted host) present answer.content transform
  have born : ((before.rehosted host).sprouted signal answer.content transform).isAlive
      before.cells.size = true :=
    alive_of_present (size ▸ Nat.lt_succ_self _) (congrArg Cell.isDestroyed unattended)
  have childless :
      ∀ rule ∈ ((register.ruled { child := before.cells.size, parent := signal, fn := fn }).opened
      (before.opening signal)).rules, rule.parent ≠ before.cells.size := by
    intro rule member
    obtain ⟨younger, there⟩ := sprouted.made rule member
    rw [size] at there
    omega
  have ruled : ∀ rule ∈
      ((register.ruled { child := before.cells.size, parent := signal, fn := fn }).opened
      (before.opening signal)).rules, rule.child = before.cells.size → rule.fn = fn ∧
        (((before.rehosted host).sprouted signal answer.content transform).cell
          rule.parent).content =
          (((before.rehosted host).sprouted signal answer.content transform).cell
            signal).content := by
    intro rule member same
    rcases List.mem_cons.mp member with rfl | older
    · exact ⟨rfl, rfl⟩
    · exact absurd (serving.made rule older).2 (same ▸ Nat.lt_irrefl _)
  obtain ⟨last, fed, served⟩ :=
    feed_of_unattended sprouted born (congrArg Cell.subscribers unattended) childless
    computes ruled fuel
  have derived := derive_of_fed computed fed
  exact ⟨_, derived, served.claiming _ _⟩

theorem serving_of_derive {transform : Value → Script Note} {fn : Value → Value}
    (serving : before.IsServing register [] stale) (alive : before.isAlive signal = true)
    (computes : Computes transform fn)
    (ended : observedDerive (offering fuel) signal transform before = .done number after) :
    after.IsServing
      ((register.ruled { child := number, parent := signal, fn := fn }).opened
        (before.opening signal)) []
      stale := by
  cases fuel with
  | zero => cases ended
  | succ fuel =>
      obtain ⟨last, derived, served⟩ := derive_ends serving alive computes fuel
      obtain ⟨rfl, rfl⟩ := Result.done.inj (derived.symm.trans ended)
      exact served

end Beginnings

end Signal
end Interplay
