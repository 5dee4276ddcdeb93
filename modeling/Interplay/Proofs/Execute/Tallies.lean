import Interplay.Proofs.Execute.Ledger

/-!
Tallies of cleanups.

Whatever is delivered, started or torn down is dealt with before anything else happens: a cleanup
subscribes to the signal of its instance, or is called at once where the life of the signal is over;
work that starts is called; and whoever is torn down calls the cleanup that he subscribed for.
-/

namespace Interplay
namespace Execute

open Signal (Happening Subscriber attachments attachments_append mem_attachments
  split_of_append split_of_concat)

section Demands

variable (setting : Setting) (opened : World)

/-- The life of a signal was over when the ledger was opened, or has ended since. -/
def IsOver (happenings : List (Happening Announcement)) (signal : Nat) : Prop :=
  (opened.cell signal).isDestroyed = true ∨ ∃ content, .destroyed signal content ∈ happenings

def Ties (happenings : List (Happening Announcement)) (signal subscriber : Nat) (plan : Plan) :
    Prop :=
  ∃ earlier announcement context live later,
    happenings = earlier ++ .own announcement :: .attached signal subscriber live :: later ∧
      announcement.Delivers context plan

/-- A cleanup that is delivered subscribes to a signal, or is called where its life is over. -/
def Registers (happenings : List (Happening Announcement)) (signal : Nat) (plan : Plan)
    (next : Happening Announcement) : Prop :=
  (¬IsOver opened happenings signal ∧ ∃ subscriber, next = .attached signal subscriber true) ∨
    (IsOver opened happenings signal ∧ next = .own (.called plan))

/-- What has to happen right after a happening. -/
inductive Demands : List (Happening Announcement) → Happening Announcement →
    (Happening Announcement → Prop) → Prop where
  | delivery {happenings : List (Happening Announcement)} {announcement : Announcement}
      {context : ActionContext} {plan : Plan} (delivers : announcement.Delivers context plan) :
      Demands happenings (.own announcement)
        (Registers opened happenings (setting.instances context.host).signal plan)
  | start (happenings : List (Happening Announcement)) (plan : Plan)
      (awaiting : Option ActionContext) :
      Demands happenings (.own (.begun plan awaiting)) (· = .own (.called plan))
  | teardown {happenings : List (Happening Announcement)} {signal subscriber : Nat} {plan : Plan}
      (ties : Ties happenings signal subscriber plan) :
      Demands happenings (.released signal subscriber) (· = .own (.called plan))

def Prompt (happenings : List (Happening Announcement)) : Prop :=
  ∀ earlier happening later demand, happenings = earlier ++ happening :: later →
    Demands setting opened earlier happening demand →
    ∃ next rest, later = next :: rest ∧ demand next

end Demands

variable {setting : Setting} {opened : World} {happenings more : List (Happening Announcement)}
  {signal subscriber : Nat} {plan : Plan}

theorem is_over_append : IsOver opened (happenings ++ more) signal ↔
    IsOver opened happenings signal ∨ ∃ content, .destroyed signal content ∈ more := by
  simp only [IsOver, List.mem_append, exists_or, or_assoc]

theorem routine_demands_nothing {happening : Happening Announcement} (routine : happening.IsRoutine)
    (demand : Happening Announcement → Prop) :
    ¬Demands setting opened happenings happening demand := by
  intro demands
  cases demands <;> exact routine

/-- Announcements that call for nothing. -/
def Announcement.IsIdle (announcement : Announcement) : Prop :=
  (∀ context plan, ¬announcement.Delivers context plan) ∧
    ∀ plan awaiting, announcement ≠ .begun plan awaiting

theorem idle_demands_nothing {announcement : Announcement} (idle : announcement.IsIdle)
    (demand : Happening Announcement → Prop) : ¬Demands setting opened happenings
    (.own announcement) demand := by
  intro demands
  cases demands with
  | delivery delivers => exact idle.1 _ _ delivers
  | start plan awaiting => exact idle.2 _ _ rfl

theorem called_is_idle (plan : Plan) : (Announcement.called plan).IsIdle :=
  ⟨fun _ _ delivers => (by cases delivers), fun _ _ same => by cases same⟩

namespace Prompt

theorem told (prompt : Prompt setting opened happenings) {happening : Happening Announcement}
    (nothing : ∀ demand, ¬Demands setting opened happenings happening demand) :
    Prompt setting opened (happenings ++ [happening]) := by
  intro earlier other later demand split demands
  rcases split_of_concat split with ⟨rfl, rfl, rfl⟩ | ⟨between, front, rfl⟩
  · exact absurd demands (nothing demand)
  · obtain ⟨next, rest, rfl, met⟩ := prompt earlier other between demand front demands
    exact ⟨next, rest ++ [happening], rfl, met⟩

theorem met (prompt : Prompt setting opened happenings) {happening next : Happening Announcement}
    (meets : ∀ demand, Demands setting opened happenings happening demand → demand next)
    (nothing : ∀ demand, ¬Demands setting opened (happenings ++ [happening]) next demand) :
    Prompt setting opened (happenings ++ [happening] ++ [next]) := by
  intro earlier other later demand split demands
  rcases split_of_concat split with ⟨rfl, rfl, rfl⟩ | ⟨between, front, rfl⟩
  · exact absurd demands (nothing demand)
  · rcases split_of_concat front with ⟨rfl, rfl, rfl⟩ | ⟨inner, known, rfl⟩
    · exact ⟨next, [], rfl, meets demand demands⟩
    · obtain ⟨follower, rest, rfl, met⟩ := prompt earlier other inner demand known demands
      exact ⟨follower, rest ++ [happening] ++ [next], rfl, met⟩

theorem grown (prompt : Prompt setting opened happenings)
    (routine : ∀ happening ∈ more, happening.IsRoutine) :
    Prompt setting opened (happenings ++ more) := by
  induction more generalizing happenings with
  | nil => rwa [List.append_nil]
  | cons first rest ih =>
      have begun := prompt.told (routine_demands_nothing (routine first List.mem_cons_self))
      rw [← List.singleton_append, ← List.append_assoc]
      exact ih begun fun happening member => routine happening (List.mem_cons_of_mem _ member)

theorem nothing_left (prompt : Prompt setting opened happenings)
    {earlier : List (Happening Announcement)}
    {announcement : Announcement} (last : happenings = earlier ++ [.own announcement])
    (context : ActionContext) (plan : Plan) : ¬announcement.Delivers context plan := by
  intro delivers
  obtain ⟨next, rest, impossible, _⟩ := prompt earlier _ [] _ last (.delivery delivers)
  cases impossible

end Prompt

theorem Ties.of_append (ties : Ties (happenings ++ more) signal subscriber plan)
    (absent : ∀ live, .attached signal subscriber live ∉ more) :
    Ties happenings signal subscriber plan := by
  obtain ⟨earlier, announcement, context, live, later, split, delivers⟩ := ties
  rw [← List.singleton_append, ← List.append_assoc] at split
  obtain ⟨between, front, _⟩ := split_of_append split (absent live)
  refine ⟨earlier, announcement, context, live, between, ?_, delivers⟩
  rw [front, List.append_assoc]
  rfl

/-- What is known of a subscriber who subscribed to a signal: if that was for a cleanup, he releases
it. -/
def Knows (happenings : List (Happening Announcement)) (signal : Nat)
    (subscriber : Subscriber Effect) : Prop :=
  (∃ live, .attached signal subscriber.number live ∈ happenings) ∧
    ∀ plan, Ties happenings signal subscriber.number plan → subscriber.release = .call plan

/-- Subscriptions have numbers of their own, so what comes later says nothing else of an old one. -/
theorem Knows.recalled {subscriber : Subscriber Effect} (knows : Knows happenings signal subscriber)
    (apart : (attachments (happenings ++ more)).Nodup) : Knows
    (happenings ++ more) signal subscriber := by
  obtain ⟨⟨live, attached⟩, releases⟩ := knows
  rw [attachments_append] at apart
  refine ⟨⟨live, List.mem_append_left _ attached⟩,
    fun plan ties => releases plan (ties.of_append ?_)⟩
  intro other again
  exact (List.nodup_append.mp apart).2.2 _ (mem_attachments.mpr ⟨_, _, attached⟩) _
    (mem_attachments.mpr ⟨_, _, again⟩) rfl

structure Tallies (setting : Setting) (opened : World) (ledger : Ledger) : Prop where
  present : ∀ number, (setting.instances number).signal < ledger.cells.size
  prompt : Prompt setting opened ledger.happenings
  numbered : ∀ signal subscriber live, .attached signal subscriber live ∈ ledger.happenings →
    subscriber < ledger.nextSubscription
  apart : (attachments ledger.happenings).Nodup
  held : ∀ signal subscriber, subscriber ∈ (ledger.cell signal).subscribers →
    Knows ledger.happenings signal subscriber
  ended : ∀ signal, (ledger.cell signal).isDestroyed = true ↔ IsOver opened ledger.happenings signal

namespace Tallies

variable {before after ledger : Ledger}

theorem extended (tallies : Tallies setting opened before) (extension : before.Extends after more) :
    Tallies setting opened after := by
  have told := extension.told
  have apart : (attachments after.happenings).Nodup := by
    rw [told, attachments_append]
    cases young : attachments more with
    | nil => simpa using tallies.apart
    | cons subscriber rest =>
        obtain ⟨signal, live, member⟩ :=
          mem_attachments.mp (young ▸ List.mem_cons_self : subscriber ∈ attachments more)
        obtain ⟨alone, number, _⟩ := extension.joined signal subscriber live member
        rw [← young, alone]
        refine List.nodup_append.mpr ⟨tallies.apart, List.nodup_singleton _, ?_⟩
        intro older known other same equal
        obtain ⟨place, still, member⟩ := mem_attachments.mp known
        have smaller := tallies.numbered place older still member
        have another : other = subscriber := List.mem_singleton.mp same
        omega
  exact
    { present := fun number => Nat.lt_of_lt_of_le (tallies.present number) extension.size
      prompt := told ▸ tallies.prompt.grown extension.routine
      numbered := by
        intro signal subscriber live member
        rcases List.mem_append.mp (told ▸ member) with older | young
        · exact Nat.lt_of_lt_of_le (tallies.numbered signal subscriber live older) extension.next
        · exact (extension.joined signal subscriber live young).2.2
      apart := apart
      held := by
        intro signal subscriber member
        rw [told] at apart ⊢
        rcases extension.held signal subscriber member with older | ⟨number, live, young⟩
        · exact (tallies.held signal subscriber older).recalled apart
        · refine ⟨⟨live, List.mem_append_right _ young⟩, fun plan ties => ?_⟩
          -- nothing was left to be dealt with, so the subscription was not begun for a cleanup
          obtain ⟨alone, _, _⟩ := extension.joined signal _ live young
          obtain ⟨earlier, announcement, context, still, later, split, delivers⟩ := ties
          have parted : before.happenings ++ [.attached signal subscriber.number live] =
              (earlier ++ [.own announcement]) ++ .attached signal subscriber.number still ::
              later := by
            rw [← alone, split, List.append_assoc]
            rfl
          rcases split_of_concat parted with ⟨last, _, _⟩ | ⟨between, front, _⟩
          · exact absurd delivers (tallies.prompt.nothing_left last context plan)
          · have known := tallies.numbered signal subscriber.number still (front ▸ by simp)
            omega
      ended := by
        intro signal
        rw [extension.ended, tallies.ended, told, is_over_append] }

theorem told {next : Ledger} (tallies : Tallies setting opened ledger)
    (told : next.happenings = ledger.happenings ++ more) (cells : next.cells = ledger.cells)
    (number : next.nextSubscription = ledger.nextSubscription)
    (words : ∀ happening ∈ more, ¬happening.IsRoutine)
    (prompt : Prompt setting opened next.happenings) : Tallies setting opened next := by
  have nobody : attachments more = [] := by
    refine List.filterMap_eq_nil_iff.mpr fun happening member => ?_
    have word := words happening member
    cases happening with
    | attached => exact absurd trivial word
    | _ => rfl
  have same : attachments next.happenings = attachments ledger.happenings := by
    rw [told, attachments_append, nobody, List.append_nil]
  have cell : ∀ signal, next.cell signal = ledger.cell signal := fun signal => by
    rw [Signal.Store.cell, cells, Signal.Store.cell]
  exact
    { present := cells ▸ tallies.present
      prompt := prompt
      numbered := by
        intro signal subscriber live member
        rw [told] at member
        rw [number]
        rcases List.mem_append.mp member with older | young
        · exact tallies.numbered signal subscriber live older
        · exact absurd trivial (words _ young)
      apart := same ▸ tallies.apart
      held := by
        intro signal subscriber member
        rw [cell] at member
        have apart := same.symm ▸ tallies.apart
        rw [told] at apart ⊢
        exact (tallies.held signal subscriber member).recalled apart
      ended := by
        intro signal
        rw [cell, tallies.ended, told, is_over_append]
        refine (or_iff_left ?_).symm
        rintro ⟨content, young⟩
        exact words _ young trivial }

theorem announced (tallies : Tallies setting opened ledger) {announcement : Announcement}
    (idle : announcement.IsIdle) : Tallies setting opened (ledger.told (.own announcement)) :=
  tallies.told rfl rfl rfl (List.forall_mem_singleton.mpr id)
    (tallies.prompt.told (idle_demands_nothing idle))

theorem answered (tallies : Tallies setting opened ledger)
    {announcement : Announcement} {plan : Plan}
    (meets : ∀ demand, Demands setting opened ledger.happenings (.own announcement) demand →
      demand (.own (.called plan))) :
    Tallies setting opened ((ledger.told (.own announcement)).told (.own (.called plan))) :=
  tallies.told (List.append_assoc _ _ _) rfl rfl (by simp [Happening.IsRoutine])
    (tallies.prompt.met meets (idle_demands_nothing (called_is_idle plan)))

/-- Whoever is torn down calls what he is known to release. -/
theorem released (tallies : Tallies setting opened ledger) {signal : Nat}
    {subscriber : Subscriber Effect} (knows : Knows ledger.happenings signal subscriber) :
    Tallies setting opened ((ledger.told (.released signal subscriber.number)).announcing
      (subscriber.release.opening fun script => some (.called script))) := by
  have meets : ∀ {demand : Happening Announcement → Prop},
      Demands setting opened ledger.happenings (.released signal subscriber.number) demand →
        ∃ plan, subscriber.release = .call plan ∧ demand (.own (.called plan)) := by
    intro demand demands
    cases demands with
    | teardown ties => exact ⟨_, knows.2 _ ties, rfl⟩
  have called : ∀ plan : Plan, (∀ other, subscriber.release = .call other → other = plan) →
      Tallies setting opened
        ((ledger.told (.released signal subscriber.number)).told (.own (.called plan))) := by
    intro plan only
    refine tallies.told (List.append_assoc _ _ _) rfl rfl (by simp [Happening.IsRoutine]) ?_
    refine tallies.prompt.met (fun demand demands => ?_)
      (idle_demands_nothing (called_is_idle plan))
    obtain ⟨other, release, met⟩ := meets demands
    exact only other release ▸ met
  cases released : subscriber.release with
  | call run => exact called run fun other same => by cases released.symm.trans same; rfl
  | destroy target => exact called _ fun other same => by cases released.symm.trans same
  | nothing =>
      refine tallies.told rfl rfl rfl (List.forall_mem_singleton.mpr id)
        (tallies.prompt.told fun demand demands => ?_)
      obtain ⟨other, release, _⟩ := meets demands
      cases released.symm.trans release

/-- A cleanup that is delivered to an instance whose signal is alive becomes a subscriber. -/
theorem attached (tallies : Tallies setting opened ledger) {announcement : Announcement}
    {context : ActionContext} {plan : Plan} (delivers : announcement.Delivers context plan)
    (alive : (ledger.cell (setting.instances context.host).signal).isDestroyed = false)
    (reaction : Signal.Reaction Effect) :
    Tallies setting opened
      ((ledger.told (.own announcement)).subscribed (setting.instances context.host).signal reaction
      (.call plan)) := by
  have live := Signal.Store.alive_of_present (tallies.present context.host) alive
  have told : ((ledger.told (.own announcement)).subscribed
      (setting.instances context.host).signal reaction
      (.call plan)).happenings = ledger.happenings ++ [.own announcement] ++
        [.attached (setting.instances context.host).signal ledger.nextSubscription true] :=
    live ▸ rfl
  have fresh : ledger.nextSubscription ∉ attachments ledger.happenings := by
    intro known
    obtain ⟨place, still, member⟩ := mem_attachments.mp known
    exact Nat.lt_irrefl _ (tallies.numbered place _ still member)
  have listed : attachments (ledger.happenings ++ [.own announcement] ++
      [.attached (setting.instances context.host).signal ledger.nextSubscription true]) =
        attachments ledger.happenings ++ [ledger.nextSubscription] := by
    rw [attachments_append, attachments_append]
    exact congrArg (· ++ [ledger.nextSubscription]) (List.append_nil _)
  have apart : (attachments ledger.happenings ++ [ledger.nextSubscription]).Nodup :=
    List.nodup_append.mpr ⟨tallies.apart, List.nodup_singleton _,
      fun number member other same equal => fresh (List.mem_singleton.mp same ▸ equal ▸ member)⟩
  exact
    { present := fun number => by
        rw [Signal.Store.size_subscribed]
        exact tallies.present number
      prompt := by
        rw [told]
        refine tallies.prompt.met (fun demand demands => ?_) (routine_demands_nothing trivial)
        cases demands with
        | delivery again =>
            obtain ⟨rfl, rfl⟩ := delivers.unique again
            refine .inl ⟨fun ended => ?_, _, rfl⟩
            rw [(tallies.ended _).mpr ended] at alive
            cases alive
        | start => cases delivers
      numbered := by
        intro signal subscriber still member
        change subscriber < ledger.nextSubscription + 1
        rw [told] at member
        rcases List.mem_append.mp member with older | young
        · have known : .attached signal subscriber still ∈ ledger.happenings := by simpa using older
          exact Nat.lt_succ_of_lt (tallies.numbered signal subscriber still known)
        · cases List.mem_singleton.mp young
          exact Nat.lt_succ_self _
      apart := by rw [told, listed]; exact apart
      held := by
        intro signal subscriber member
        rw [told]
        rcases Signal.Store.mem_subscribed member with older | ⟨rfl, rfl⟩
        · rw [List.append_assoc]
          refine (tallies.held signal subscriber older).recalled ?_
          rw [← List.append_assoc, listed]
          exact apart
        · refine ⟨⟨true, List.mem_append_right _ List.mem_cons_self⟩, ?_⟩
          rintro other ⟨earlier, another, origin, still, later, split, delivered⟩
          have parted : ledger.happenings ++ [.own announcement] ++
              [.attached (setting.instances context.host).signal ledger.nextSubscription true] =
                (earlier ++ [.own another]) ++
                  .attached (setting.instances context.host).signal ledger.nextSubscription still ::
                  later := by
            rw [split, List.append_assoc]
            rfl
          rcases split_of_concat parted with ⟨last, _, _⟩ | ⟨between, front, _⟩
          · obtain ⟨_, same⟩ := List.append_inj' last rfl
            cases same
            rw [(delivers.unique delivered).2]
          · refine absurd
              (mem_attachments.mpr ⟨(setting.instances context.host).signal, still, ?_⟩) fresh
            have inside : .attached (setting.instances context.host).signal
                ledger.nextSubscription still ∈
                ledger.happenings ++ [.own announcement] := front ▸ by simp
            simpa using inside
      ended := by
        intro signal
        rw [(Signal.Store.cell_subscribed _ reaction (.call plan)
          (ledger.told (.own announcement)) signal).2, told]
        exact (tallies.ended signal).trans (by simp [IsOver]) }

theorem rehosted (tallies : Tallies setting opened ledger) (host : Stage) :
    Tallies setting opened (ledger.rehost host) where
  present := tallies.present
  prompt := tallies.prompt
  numbered := tallies.numbered
  apart := tallies.apart
  held := tallies.held
  ended := tallies.ended

end Tallies

end Execute
end Interplay
