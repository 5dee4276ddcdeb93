import Interplay.Proofs.Signal.Serving

/-!
Contents that are passed on.

A write tells one subscriber after the other, and each derived signal passes on what it makes of the
content to its own subscribers before the next one is told.  Derived signals are younger than what
they follow, so nobody who waits in an outer round is touched by an inner one.  Once a round is over
all its subscribers have been told, and the signals that they feed hold what their rules say.
-/

namespace Interplay
namespace Signal

open Run Store

variable {register : Register} {untold : List (Nat × Nat)} {stale : Nat → Prop}
    {origin store : Offered} {fuel : Nat}

/-- A computation has an answer, and nothing but the surroundings changes meanwhile. -/
theorem offering_computes {transform : Value → Script Note} {fn : Value → Value}
    (computes : Computes transform fn) (fuel : Nat) (content : Value) (store : Offered) :
    ∃ answer host, offering (fuel + 1) (transform content) store =
    .done answer (store.rehosted host) ∧
      answer.content.anonymous = (fn content).anonymous := by
  have passive := computes.passive content
  obtain ⟨answer, last, ended, known⟩ := computes.answers content fuel (store.mapHost Observed.host)
  have leaves : Leaves (run (fuel + 1) (transform content)) := leaves_passive leaves_note passive
  obtain ⟨outcome, host, left⟩ := leaves (store.mapHost Observed.host)
  rw [Run.attempt, ended] at left
  obtain rfl := (Result.done.inj left).2
  refine ⟨answer, host, ?_, known⟩
  rw [offering_passive passive, aside, ended]
  rfl

/-- Feeding a derived signal sets it to a value of the function. -/
theorem feed_writes {transform : Value → Script Note} {fn : Value → Value}
    (computes : Computes transform fn) (fuel target : Nat) (content : Value) (store : Offered) :
    ∃ (answer : Value) (host : Journal), answer.anonymous = (fn content).anonymous ∧
      react (offering (fuel + 1)) content (.feed target transform) store =
        (offeringWrite (offering fuel) target answer >>= fun _ => pure ())
        (store.rehosted host) := by
  obtain ⟨answer, host, computed, known⟩ := offering_computes computes fuel content store
  refine ⟨answer.content, host, known, ?_⟩
  change (offering (fuel + 1) (transform content) >>= fun answer =>
    offering (fuel + 1) (.write target answer.content .done) >>= fun _ => pure ()) store = _
  rw [bind_of_done computed, offering_write, Run.bind_assoc]
  rfl

theorem Store.IsServing.fed {fn : Value → Value} {content answer : Value} {target : Nat}
    (serving : store.IsServing register untold fun child => stale child ∨ child = target)
    (ruled : ∀ rule ∈ register.rules, rule.child = target →
      rule.fn = fn ∧ (store.cell rule.parent).content = content)
    (known : answer.anonymous = (fn content).anonymous)
    (kept : (store.cell target).isDestroyed = false → Kept (store.cell target).content answer) :
    store.IsServing register untold stale := by
  refine serving.freshen fun rule member alive awaited => ?_
  rcases awaited with old | rfl
  · exact .inl old
  · obtain ⟨computing, held⟩ := ruled rule member rfl
    refine .inr ⟨answer, ?_, kept alive⟩
    rw [computing, held]
    exact known

/-- What a run does to signals that serve a register: contents are rewritten from a signal on, and
all is served. -/
structure PassedOn (origin : Offered) (register : Register)
    (untold : List (Nat × Nat)) (stale : Nat → Prop)
    (first : Nat) (before after : Offered) : Prop where
  rewritten : origin.Rewritten after
  serving : after.IsServing register untold stale
  older : ∀ other < first, (after.cell other).content = (before.cell other).content

/-- What a write leads to, with fuel for so many nested callbacks. -/
def PassesOn (origin : Offered) (register : Register) (fuel : Nat) : Prop :=
  ∀ (signal : Nat) (content : Value) (untold : List (Nat × Nat)) (stale : Nat →
    Prop) (store : Offered),
    origin.Rewritten store → store.IsServing register untold stale → signal < store.cells.size →
    (∀ pair ∈ untold, pair.1 < signal) → stale signal →
    (offeringWrite (offering fuel) signal content store).Arrives
    (fuel + signal < origin.cells.size) fun last =>
      PassedOn origin register untold stale signal store last ∧
        ((store.cell signal).isDestroyed = false → Kept (last.cell signal).content content)

section Rounds

variable (below : ∀ less, fuel = less + 1 → PassesOn origin register less) {signal : Nat}

include below

/-- A derived signal is fed by a record, and passes on what it makes of the content. -/
theorem feed_passes {target : Nat} {transform : Value → Script Note} {fn : Value → Value}
    (younger : signal < target)
    (present : target < store.cells.size) (computes : Computes transform fn)
    (ruled : ∀ rule ∈ register.rules, rule.child = target → rule.parent = signal ∧ rule.fn = fn)
    (rewritten : origin.Rewritten store)
    (serving : store.IsServing register untold fun child => stale child ∨ child = target)
    (older : ∀ pair ∈ untold, pair.1 ≤ signal) :
    (react (offering fuel) (store.cell signal).content (.feed target transform) store).Arrives
      (fuel + signal < origin.cells.size)
      (PassedOn origin register untold stale (signal + 1) store) := by
  have size := rewritten.size
  cases fuel with
  | zero => exact (by omega : 0 + signal < origin.cells.size)
  | succ less =>
      obtain ⟨answer, host, known, writes⟩ :=
        feed_writes computes less target (store.cell signal).content store
      rw [writes]
      have wrote := below less rfl target answer untold _ (store.rehosted host)
        (rewritten.trans (Rewritten.host store _)) (serving.rehosted host) present
        (fun pair waits => Nat.lt_of_le_of_lt (older pair waits) younger) (.inr rfl)
      refine (wrote.mono (fun short => by omega) fun _ => id).bind fun last passed => ?_
      obtain ⟨passes, holds⟩ := passed
      have content : (last.cell signal).content = (store.cell signal).content :=
        passes.older signal younger
      refine
        { rewritten := passes.rewritten
          serving := passes.serving.fed (fun rule member own => ?_) known fun alive => holds ?_
          older := fun other near => passes.older other (Nat.lt_of_lt_of_le near younger) }
      · obtain ⟨parent, computing⟩ := ruled rule member own
        exact ⟨computing, parent ▸ content⟩
      · change (store.cell target).isDestroyed = false
        rwa [rewritten.is_destroyed, ← passes.rewritten.is_destroyed]

/-- One subscriber of a round is told, and what he feeds is fed. -/
theorem notify_passes (here : signal < origin.cells.size) {record : Subscriber Note}
    (member : record ∈ (origin.cell signal).subscribers) (rewritten : origin.Rewritten store)
    (serving : store.IsServing register ((signal, record.number) :: untold)
      fun child => stale child ∨ ∃ transform, record.reaction = .feed child transform)
    (absent : (signal, record.number) ∉ untold) (older : ∀ pair ∈ untold, pair.1 ≤ signal)
      (since : Nat) :
    (notify (offering fuel) signal (store.cell signal).content since record store).Arrives
      (fuel + signal < origin.cells.size)
      (PassedOn origin register untold stale (signal + 1) store) := by
  have listed : record ∈ (store.cell signal).subscribers := rewritten.subscribers signal ▸ member
  have given : record.number < store.nextSubscription :=
    serving.numbered (List.mem_map_of_mem listed)
  have told := serving.notified absent given since
  generalize reached : store.told (.notified _) = middle at told
  have after : origin.Rewritten middle := reached ▸ rewritten.trans (Rewritten.host store _)
  have same : ∀ other, middle.cell other = store.cell other := fun _ => reached ▸ rfl
  change (protectedCall _ (react (offering fuel) (store.cell signal).content record.reaction)
    (store.told _)).Arrives _ _
  rw [reached, ← same signal]
  cases reacts : record.reaction with
  | call notice =>
      have passive := (serving.passive signal).reactions record listed
      rw [reacts] at passive
      cases fuel with
      | zero => exact (by omega : 0 + signal < origin.cells.size)
      | succ less =>
          obtain ⟨host, ended⟩ :=
            protected_passive "Error in signal subscriber" (passive (middle.cell signal).content)
            less middle
          have still := told.rehosted host
          refine (congrArg (Result.Arrives _ _) ended).mpr ?_
          exact
            { rewritten := after.trans (Rewritten.host middle _)
              serving := still.freshen fun rule _ _ awaited => .inl
                (awaited.resolve_right (by simp [reacts]))
              older := fun other _ => congrArg Cell.content (same other) }
  | feed target transform =>
      obtain ⟨younger, present, fn, computes, ruled⟩ :=
        told.allowed signal record (same signal ▸ listed) target transform reacts
      have awaiting : middle.IsServing register untold fun child => stale child ∨
          child = target := by
        refine told.freshen fun rule _ _ awaited => .inl (awaited.imp_right ?_)
        rintro ⟨_, fed⟩
        exact (Reaction.feed.inj (reacts.symm.trans fed)).1.symm
      apply arrives_protected
      refine (feed_passes below younger present computes ruled after awaiting older).mono
        id fun last passes => ?_
      exact
        { passes with
          older := fun other near => (passes.older other near).trans
            (congrArg Cell.content (same other)) }

theorem round_passes (here : signal < origin.cells.size) {content : Value} (since : Nat)
    {records : List (Subscriber Note)} (members : ∀ record ∈ records, record ∈ (origin.cell signal).subscribers)
    (distinct : (records.map Subscriber.number).Nodup) (rewritten : origin.Rewritten store)
    (serving : store.IsServing register (enrolled signal records ++ untold)
      fun child => stale child ∨ Fed records child)
    (older : ∀ pair ∈ untold, pair.1 < signal) (holds : (store.cell signal).content = content) :
    (Run.forEach (notify (offering fuel) signal content since) records store).Arrives
      (fuel + signal < origin.cells.size) (PassedOn origin register untold stale (signal + 1) store) := by
  induction records generalizing store with
  | nil =>
      exact
        { rewritten := rewritten
          serving := serving.freshen fun _ _ _ awaited => .inl (awaited.resolve_right (by simp [Fed]))
          older := fun _ _ => rfl }
  | cons record rest ih =>
      rw [List.forall_mem_cons] at members
      rw [List.map_cons, List.nodup_cons] at distinct
      have absent : (signal, record.number) ∉ enrolled signal rest ++ untold := by
        intro listed
        rcases List.mem_append.mp listed with waits | outer
        · exact distinct.1 (mem_enrolled.mp waits).2
        · exact Nat.lt_irrefl _ (older _ outer)
      have bounded : ∀ pair ∈ enrolled signal rest ++ untold, pair.1 ≤ signal := by
        intro pair listed
        rcases List.mem_append.mp listed with waits | outer
        · exact Nat.le_of_eq (mem_enrolled.mp waits).1.symm
        · exact Nat.le_of_lt (older pair outer)
      have split : store.IsServing register ((signal, record.number) :: (enrolled signal rest ++ untold))
          fun child => (stale child ∨ Fed rest child) ∨ ∃ transform, record.reaction = .feed child transform := by
        refine serving.freshen fun rule _ _ awaited => .inl ?_
        rcases awaited with awaited | ⟨feeder, member, feeds⟩
        · exact .inl (.inl awaited)
        · rcases List.mem_cons.mp member with rfl | later
          · exact .inr feeds
          · exact .inl (.inr ⟨feeder, later, feeds⟩)
      subst holds
      refine (notify_passes below here members.1 rewritten split absent bounded since).bind fun middle first => ?_
      have content := first.older signal (Nat.lt_succ_self _)
      refine (ih members.2 distinct.2 first.rewritten first.serving content).mono id fun last others => ?_
      exact { others with older := fun other near => (others.older other near).trans (first.older other near) }

end Rounds

/-- A signal that nobody listens to takes what it is offered. -/
theorem write_of_unattended {call : Caller Note (Observed Offer Journal)}
    (alive : store.isAlive signal = true)
    (lonely : (store.cell signal).subscribers = []) (content : Value) :
    offeringWrite call signal content store = .done () (store.taken signal content) := by
  change (if ((store.offered signal content).cell signal).isDestroyed then
    _ else _ : Run Offered Unit) (store.offered signal content) = _
  rw [cell_offered, (present_of_alive alive).2, lonely]
  rfl

/-- A content is passed on to all who depend on it, by induction on how often it is handed on to
derived signals.  These are ever younger, so fuel for as many callbacks as there are younger signals
is enough. -/
theorem passes_on (distinct : ∀ signal, (origin.numbers signal).Nodup)
    (linked : ∀ rule ∈ register.rules, (origin.cell rule.child).isDestroyed = false →
      Fed (origin.cell rule.parent).subscribers rule.child)
      (fuel : Nat) : PassesOn origin register fuel := by
  induction fuel using Nat.strong_induction_on with
  | h fuel ih =>
  intro signal content untold stale store rewritten serving present older own
  have below : ∀ less, fuel = less + 1 → PassesOn origin register less :=
    fun less same => ih less (same ▸ Nat.lt_succ_self less)
  have looked : (store.offered signal content).cell signal = store.cell signal :=
    cell_offered _ _ _ _
  cases life : (store.cell signal).isDestroyed with
  | true =>
      have idle : store.offered signal content = store := by
        refine if_neg fun alive => ?_
        rw [(present_of_alive alive).2] at life
        cases life
      change ((if ((store.offered signal content).cell signal).isDestroyed then
        _ else _ : Run Offered Unit) (store.offered signal content)).Arrives _ _
      rw [looked, life, if_pos rfl, idle]
      exact ⟨{ rewritten := rewritten, serving := serving, older := fun _ _ => rfl }, nofun⟩
  | false =>
      have alive := alive_of_present present life
      have taking := rewritten.trans (rewritten_taken signal content store)
      have elsewhere : ∀ other < signal, ((store.taken signal content).cell other).content =
          (store.cell other).content :=
        fun other near => congrArg Cell.content (cell_taken_of_ne (Nat.ne_of_lt near) content store)
      have here := content_taken present content
      have fed : ∀ rule ∈ register.rules, rule.parent = signal →
          (store.cell rule.child).isDestroyed = false →
          Fed (store.cell signal).subscribers rule.child := by
        rintro rule member rfl living
        rw [rewritten.subscribers]
        exact linked rule member (rewritten.is_destroyed rule.child ▸ living)
      by_cases lonely : (store.cell signal).subscribers = []
      · have taken := serving.taken content alive older own (fun crowd => absurd lonely crowd) fed
        rw [lonely] at taken
        rw [write_of_unattended alive lonely]
        exact
          ⟨{ rewritten := taking
             serving := taken.freshen fun _ _ _ awaited => .inl
               (awaited.resolve_right (by simp [Fed]))
             older := elsewhere }, fun _ => .inl here⟩
      change ((if ((store.offered signal content).cell signal).isDestroyed then
        _ else _ : Run Offered Unit) (store.offered signal content)).Arrives _ _
      rw [looked, life, if_neg Bool.false_ne_true, if_neg fun empty => lonely
        (List.isEmpty_iff.mp empty)]
      cases compared : (store.cell signal).content.same content with
      | true =>
          refine ⟨{ rewritten := ?_, serving := serving.declined alive compared, older := ?_ },
            fun _ => .inr ?_⟩
          · exact rewritten.trans (rewritten_offered signal content store)
          · exact fun other _ => congrArg Cell.content (cell_offered signal other content store)
          · exact (congrArg (fun cell => cell.content.same content) looked).trans compared
      | false =>
          have taken := serving.taken content alive older own (fun _ => compared) fed
          have members : ∀ record ∈ (store.cell signal).subscribers, record ∈
              (origin.cell signal).subscribers :=
            fun record member => rewritten.subscribers signal ▸ member
          have inside : signal < origin.cells.size := rewritten.size ▸ present
          have numbers : ((store.cell signal).subscribers.map Subscriber.number).Nodup :=
            rewritten.subscribers signal ▸ distinct signal
          refine (round_passes below inside _ members numbers taking taken older here).mono
            id fun last passes => ?_
          refine ⟨{ passes with older := fun other near => ?_ }, fun _ => .inl ?_⟩
          · exact (passes.older other (Nat.lt_succ_of_lt near)).trans (elsewhere other near)
          · exact (passes.older signal (Nat.lt_succ_self _)).trans here

end Signal
end Interplay
