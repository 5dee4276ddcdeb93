import Interplay.Proofs.Signal.Upkeep

/-!
Careers of signals.

A career is any sequence of operations on signals whose callbacks only look on and whose derivations
compute functions, together with a register of the subscriptions that were given and the rules that
were made.  In all careers subscribers are told what is due to them, in order and at once, and
derived signals follow their rules.
-/

namespace Interplay
namespace Signal

open Run Store

def unoffered : Offered :=
  { cells := #[], nextSubscription := 0, host := { host := Journal.empty, happenings := [] } }

inductive Career : Register → Offered → Prop
  | start : Career .empty unoffered
  | created {register : Register} {before after : Offered} {content : Value}
      {onDestroy : Option (Script Note)}
      {number : Nat} (career : Career register before)
      (passive : ∀ script ∈ onDestroy, script.IsPassive)
      (ended : create content onDestroy before = .done number after) : Career register after
  | wrote {register : Register} {before after : Offered} {fuel signal : Nat} {content : Value}
      (career : Career register before) (present : signal < before.cells.size)
      (left : (offeringWrite (offering fuel) signal content before).state? = some after) :
      Career (register.set signal) after
  | updated {register : Register} {before after : Offered} {fuel signal : Nat}
      {transform : Value → Script Note}
      {answer : Answer Note} (career : Career register before)
      (present : signal < before.cells.size) (passive : ∀ content, (transform content).IsPassive)
      (ended : offeringUpdate (offering fuel) signal transform before = .done answer after) :
      Career (register.set signal) after
  /-- An update whose function fails sets nothing. -/
  | refused {register : Register} {before after : Offered} {fuel signal : Nat}
      {transform : Value → Script Note}
      {failure : Failure} (career : Career register before) (present : signal < before.cells.size)
      (passive : ∀ content, (transform content).IsPassive)
      (ended : offeringUpdate (offering fuel) signal transform before = .raised failure after) :
      Career register after
  | subscribed {register : Register} {before after : Offered} {fuel signal number : Nat}
      {notify : Value → Script Note} {teardown : Option (Script Note)}
      (career : Career register before)
      (alive : before.isAlive signal = true) (notified : ∀ content, (notify content).IsPassive)
      (released : ∀ script ∈ teardown, script.IsPassive)
      (ended : observedAttach (offering fuel) signal (.call notify) (.ofTeardown teardown) before =
        .done number after) :
      Career ((register.opened (before.opening signal)).handed (before.opening signal)) after
  | unsubscribed {register : Register} {before after : Offered} {signal number : Nat}
      (career : Career register before) (held : (signal, number) ∈ register.handles)
      (ended : observedUnsubscribe signal number before = .done () after) : Career register after
  | derived {register : Register} {before after : Offered} {fuel signal number : Nat}
      {transform : Value → Script Note} {fn : Value → Value} (career : Career register before)
      (alive : before.isAlive signal = true) (computes : Computes transform fn)
      (ended : observedDerive (offering fuel) signal transform before = .done number after) :
      Career ((register.ruled { child := number, parent := signal, fn := fn }).opened
        (before.opening signal)) after
  | destroyed {register : Register} {before after : Offered} {fuel signal : Nat}
      (career : Career register before) (present : signal < before.cells.size)
      (left : (observedDestroy (offering fuel) signal before).state? = some after) :
      Career register after
  | cleaned {register : Register} {before after : Offered} {fuel signal : Nat}
      (career : Career register before) (present : signal < before.cells.size)
      (left : (observedClean (offering fuel) signal before).state? = some after) :
      Career register after

variable {register : Register} {store : Offered}

theorem number_of_attach {call : Caller Note (Observed Offer Journal)}
    {before after : Offered} {signal number : Nat}
    {reaction : Reaction Note} {release : Release Note}
    (ended : observedAttach call signal reaction release before = .done number after) :
    number = before.nextSubscription := by
  change (protectedCall _ _ >>= fun _ => pure before.nextSubscription) _ = _ at ended
  obtain ⟨_, _, _, finished⟩ := done_of_bind ended
  cases finished
  rfl

/-- Without its offers, a career is what operations on signals lead to. -/
theorem reached_of_career (career : Career register store) :
    Reached register.lineage (store.mapHost Observed.host) := by
  have updates {register : Register} {before after : Offered} {fuel signal : Nat}
      {transform : Value → Script Note}
      (reached : Reached register.lineage (before.mapHost Observed.host))
      (passive : ∀ content, (transform content).IsPassive)
      (left : (offeringUpdate (offering fuel) signal transform before).state? = some after) :
      Reached register.lineage (after.mapHost Observed.host) := by
    cases fuel with
    | zero => cases left
    | succ fuel =>
        exact .updated reached passive
          ((observes_offering_update fuel signal transform).leaves left)
  induction career with
  | start => exact .start
  | created _ passive ended ih =>
      exact .created ih passive ((recounts_create Observed.host _ _).finishes ended)
  | @wrote _ _ _ fuel signal content _ _ left ih =>
      exact .wrote ih ((observes_offering_write fuel signal content).leaves left)
  | updated _ _ passive ended ih => exact updates ih passive (congrArg Result.state? ended)
  | refused _ _ passive ended ih => exact updates ih passive (congrArg Result.state? ended)
  | subscribed _ alive notified released ended ih =>
      have attached := (observes_attach (observes_offering _) _ _ _).finishes ended
      obtain rfl := number_of_attach ended
      exact .subscribed ih alive notified released attached
  | unsubscribed _ held ended ih =>
      exact .unsubscribed ih held ((observes_unsubscribe _ _).finishes ended)
  | derived _ alive computes ended ih =>
      exact .derived ih alive computes.passive
        ((observes_derive (observes_offering _) _ _).finishes ended)
  | destroyed _ present left ih =>
      exact .destroyed ih present ((observes_destroy (observes_offering _) _).leaves left)
  | cleaned _ present left ih =>
      exact .cleaned ih present ((observes_tear_down (observes_offering _) _ _).leaves left)

/-- Subscribers have different numbers, and a live derived signal is fed by the one it follows. -/
theorem feeding_of_career (career : Career register store) :
    (∀ signal, (store.numbers signal).Nodup) ∧
    ∀ rule ∈ register.rules, (store.cell rule.child).isDestroyed = false →
      Fed (store.cell rule.parent).subscribers rule.child := by
  have family := family_of_reached (reached_of_career career)
  refine ⟨family.distinct, fun rule member alive => ?_⟩
  have isChild : register.lineage.IsChild rule.child rule.parent := List.mem_map_of_mem member
  obtain ⟨record, listed, follows, _⟩ := ((family.linked _ _ isChild alive).resolve_left id).record
  exact ⟨record, listed, follows.2⟩

theorem serving_of_career (career : Career register store) :
    store.IsServing register [] fun signal => signal ∈ register.direct := by
  induction career with
  | start =>
      exact
        { passive := fun _ => ⟨nofun, nofun, nofun⟩
          allowed := nofun
          listed := nofun
          orders := nofun
          noticed := nofun
          made := nofun
          kept := nofun }
  | created _ passive ended ih =>
      cases ended
      exact ih.created _ passive
  | wrote career present left ih =>
      obtain ⟨distinct, linked⟩ := feeding_of_career career
      exact serving_of_write distinct linked
        (Rewritten.refl _) ih.set present List.mem_cons_self left
  | updated career present passive ended ih =>
      obtain ⟨distinct, linked⟩ := feeding_of_career career
      exact serving_of_update distinct linked passive
        (Rewritten.refl _) ih.set present List.mem_cons_self ended
  | refused career present passive ended ih =>
      obtain ⟨distinct, linked⟩ := feeding_of_career career
      exact serving_of_refusal distinct linked passive (Rewritten.refl _) ih present ended
  | subscribed _ alive notified released ended ih =>
      exact (serving_of_attach ih alive notified released ended).handed
  | unsubscribed _ _ ended ih =>
      cases ended
      exact ih.departed _ _
  | derived _ alive computes ended ih => exact serving_of_derive ih alive computes ended
  | destroyed _ _ left ih => exact Result.holds_of_tracks (keeps_destroy _ _ _ ih) left
  | cleaned _ _ left ih => exact Result.holds_of_tracks (keeps_clean _ _ _ ih) left

/-- With so much fuel, whatever is done to signals next comes to an end. -/
structure Store.GoesOn (fuel : Nat) (store : Offered) : Prop where
  wrote : ∀ signal < store.cells.size, ∀ content,
    ∃ last, offeringWrite (offering fuel) signal content store = .done () last
  updated : ∀ signal < store.cells.size, ∀ transform, (∀ content, (transform content).IsPassive) →
    ∃ last, (offeringUpdate (offering fuel) signal transform store).state? = some last
  subscribed : ∀ signal notify release, (∀ content, (notify content).IsPassive) →
    ∃ number last, observedAttach (offering fuel) signal
      (.call notify) release store = .done number last
  derived : ∀ signal transform fn, store.isAlive signal = true → Computes transform fn →
    ∃ number last, observedDerive (offering fuel) signal transform store = .done number last
  destroyed : ∀ signal < store.cells.size,
    ∃ last, (observedDestroy (offering fuel) signal store).state? = some last
  cleaned : ∀ signal < store.cells.size,
    ∃ last, (observedClean (offering fuel) signal store).state? = some last

/-- A derived signal is younger than its parent, so callbacks are nested no deeper than there are
signals. -/
theorem goes_on_of_career (career : Career register store) {fuel : Nat}
    (enough : store.cells.size < fuel) :
    store.GoesOn fuel := by
  obtain ⟨distinct, linked⟩ := feeding_of_career career
  have serving := serving_of_career career
  have lenient : store.IsServing register [] fun _ => True :=
    serving.freshen fun _ _ _ _ => .inl trivial
  have family := family_of_reached (reached_of_career career)
  obtain ⟨less, rfl⟩ := Nat.exists_eq_succ_of_ne_zero (Nat.ne_zero_of_lt enough)
  constructor
  case wrote =>
    intro signal present content
    exact write_ends distinct linked (Rewritten.refl _) lenient present trivial (by omega) content
  case updated =>
    intro signal present transform passive
    exact update_ends distinct linked passive (Rewritten.refl _) lenient present trivial (by omega)
  case subscribed => exact fun signal notify release notified =>
    ⟨_, attach_ends notified less signal release store⟩
  case derived =>
    intro signal transform fn alive computes
    obtain ⟨last, ended, _⟩ := derive_ends serving alive computes less
    exact ⟨_, last, ended⟩
  case destroyed =>
    intro signal present
    have shallow : store.cells.size ≤ less + 1 + signal := by omega
    refine (observes_destroy (observes_offering _) signal).ends store ?_
    cases life : (store.cell signal).isDestroyed with
    | true =>
        rw [destroy_of_dead _ life]
        exact nofun
    | false =>
        have fells := destroying_fells register.lineage (less + 1) _ signal _ family present life
        obtain ⟨last, ended, _⟩ := fells.ends (Nat.not_lt.mpr shallow)
        rw [ended]
        exact nofun
  case cleaned =>
    intro signal present
    have shallow : store.cells.size ≤ less + 1 + signal := by omega
    refine (observes_tear_down (observes_offering _) signal _).ends store ?_
    have awaiting : (store.mapHost Observed.host).IsFamily register.lineage fun child =>
        False ∨ Fated ((store.mapHost Observed.host).cell signal).subscribers child :=
      family.settle fun child => False.elim
    have below : ∀ fewer, less + 1 = fewer + 1 → Fells register.lineage fewer :=
      fun fewer _ => destroying_fells register.lineage fewer
    have torn := tear_down_withers present below "Error in clean_subscribers destroy callback"
        awaiting
    obtain ⟨last, ended, _⟩ := torn.ends (Nat.not_lt.mpr shallow)
    rw [ended]
    exact nofun

def wrapping (content : Value) : Script Note :=
  .ofValue (.list [content])

theorem wrapping_computes : Computes wrapping fun content => .list [content] where
  passive := fun _ => .finish _
  answers := fun _ _ bench => ⟨_, bench, rfl, rfl⟩

end Signal
end Interplay
