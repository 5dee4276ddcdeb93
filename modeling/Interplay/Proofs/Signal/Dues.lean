import Interplay.Proofs.Signal.Offers
import Mathlib.Data.List.TakeWhile

/-!
What subscribers are due.

A subscription begins with the content of its signal.  Until somebody ends it, each content that the
signal is offered and that differs from the one it holds is due to the subscriber.  A round tells
one subscriber after the other, so the statement about a subscription says whether a content is on
its way to him.
-/

namespace Interplay
namespace Signal

variable {κ : Type}

namespace Happening

def told? (signal number : Nat) : Happening κ → Option Value
  | notified notice =>
    if notice.signal = signal ∧ notice.subscriber = number then some notice.content else none
  | _ => none

/-- The content that a signal is offered, if it differs from the one that the signal holds. -/
def news? (signal : Nat) : Happening Offer → Option Value
  | own offer =>
    if offer.signal = signal ∧ offer.held.same offer.content = false then
      some offer.content else none
  | _ => none

/-- A subscriber is taken off, or his signal drops everybody. -/
def ends (signal number : Nat) : Happening κ → Bool
  | left other subscriber => other == signal && subscriber == number
  | emptied other => other == signal
  | _ => false

end Happening

/-- The contents that a subscriber is told, in order. -/
def deliveries (signal number : Nat) (happenings : List (Happening κ)) : List Value :=
  happenings.filterMap (Happening.told? signal number)

/-- A subscription as it begins: the content of the signal, and how much had happened. -/
structure Subscription where
  signal : Nat
  number : Nat
  content : Value
  since : Nat

namespace Subscription

variable (subscription : Subscription)

/-- The subscription is not over yet. -/
def Lasts (happenings : List (Happening Offer)) : Prop :=
  ∀ happening ∈ happenings.drop subscription.since, happening.ends subscription.signal
    subscription.number = false

/-- The contents that a subscriber is to be told, in order. -/
def due (happenings : List (Happening Offer)) : List Value :=
  subscription.content ::
    ((happenings.drop subscription.since).takeWhile fun happening =>
      !happening.ends subscription.signal subscription.number).filterMap
        (Happening.news? subscription.signal)

/-- What a subscriber was told, against what is due to him; `owing` while a content is on its way to
him. -/
structure InOrder (owing : Prop) (store : Offered) : Prop where
  present : subscription.signal < store.cells.size
  numbered : subscription.number < store.nextSubscription
  since : subscription.since ≤ store.happenings.length
  attached : store.Holds subscription.signal subscription.number ↔
    subscription.Lasts store.happenings
  current : store.Holds subscription.signal subscription.number →
    (subscription.due store.happenings).getLast? = some (store.cell subscription.signal).content
  told : ¬owing →
    deliveries subscription.signal subscription.number store.happenings =
    subscription.due store.happenings
  owed : owing →
    deliveries subscription.signal subscription.number store.happenings ++
    [(store.cell subscription.signal).content] =
      subscription.due store.happenings

/-- What happens is no matter to the subscription; if it is over, offers are none either. -/
structure Ignores (attached : Prop) (happening : Happening Offer) : Prop where
  lasting : happening.ends subscription.signal subscription.number = false
  silent : happening.told? subscription.signal subscription.number = none
  stale : attached → happening.news? subscription.signal = none

variable {subscription} {happenings more : List (Happening Offer)}

theorem lasts_append (since : subscription.since ≤ happenings.length) :
    subscription.Lasts (happenings ++ more) ↔ subscription.Lasts happenings ∧
      ∀ happening ∈ more, happening.ends subscription.signal subscription.number = false := by
  unfold Lasts
  rw [List.drop_append_of_le_length since, List.forall_mem_append]

theorem due_append_of_lasts (since : subscription.since ≤ happenings.length)
    (lasts : subscription.Lasts happenings) :
    subscription.due (happenings ++ more) = subscription.due happenings ++
      (more.takeWhile fun happening =>
        !happening.ends subscription.signal subscription.number).filterMap
          (Happening.news? subscription.signal) := by
  have going : ∀ happening ∈ happenings.drop subscription.since,
      (!happening.ends subscription.signal subscription.number) = true :=
    fun happening member => congrArg not (lasts happening member)
  unfold due
  rw [List.drop_append_of_le_length since, List.takeWhile_append_of_pos going,
    List.takeWhile_eq_self_iff.mpr going, List.filterMap_append, List.cons_append]

theorem due_append_of_over (since : subscription.since ≤ happenings.length)
    (ended : ¬subscription.Lasts happenings) :
    subscription.due (happenings ++ more) = subscription.due happenings := by
  unfold due
  rw [List.drop_append_of_le_length since, List.takeWhile_append, if_neg]
  intro whole
  refine ended fun happening member => ?_
  have all := List.takeWhile_eq_self_iff.mp
      ((List.takeWhile_prefix _).eq_of_length whole) happening member
  exact Bool.not_eq_true' _ ▸ all

namespace InOrder

variable {before after : Offered} {owing later : Prop}

/-- Nothing changes for a subscription if nothing happens that matters to it. -/
theorem quiet (order : subscription.InOrder owing before)
    (told : after.happenings = before.happenings ++ more) (ignores : ∀ happening ∈ more,
      subscription.Ignores (before.Holds subscription.signal subscription.number) happening)
    (size : before.cells.size ≤ after.cells.size)
      (next : before.nextSubscription ≤ after.nextSubscription)
    (holds : after.Holds subscription.signal subscription.number ↔
      before.Holds subscription.signal subscription.number)
    (content : before.Holds subscription.signal subscription.number ∨ owing →
      (after.cell subscription.signal).content = (before.cell subscription.signal).content) :
    subscription.InOrder owing after := by
  have lasts : subscription.Lasts after.happenings ↔ subscription.Lasts before.happenings := by
    rw [told, lasts_append order.since]
    exact and_iff_left fun happening member => (ignores happening member).lasting
  have due : subscription.due after.happenings = subscription.due before.happenings := by
    rw [told]
    by_cases going : subscription.Lasts before.happenings
    · rw [due_append_of_lasts order.since going, List.filterMap_eq_nil_iff.mpr, List.append_nil]
      intro happening member
      exact (ignores happening ((List.takeWhile_sublist _).subset member)).stale
        (order.attached.mpr going)
    · exact due_append_of_over order.since going
  have delivered : deliveries subscription.signal subscription.number after.happenings =
      deliveries subscription.signal subscription.number before.happenings := by
    rw [told, deliveries, List.filterMap_append,
      List.filterMap_eq_nil_iff.mpr fun happening member =>
      (ignores happening member).silent, List.append_nil, deliveries]
  constructor
  case present => exact Nat.lt_of_lt_of_le order.present size
  case numbered => exact Nat.lt_of_lt_of_le order.numbered next
  case since =>
    rw [told, List.length_append]
    exact Nat.le_add_right_of_le order.since
  case attached => rw [holds, lasts, order.attached]
  case current =>
    intro held
    have attached := holds.mp held
    rw [due, content (.inl attached)]
    exact order.current attached
  case told => rw [delivered, due]; exact order.told
  case owed =>
    intro owed
    rw [delivered, due, content (.inr owed)]
    exact order.owed owed

/-- The signal of a lasting subscription takes a content that differs from its own: there is
something to be told. -/
theorem offered (order : subscription.InOrder owing before) (paid : ¬owing) {offer : Offer}
    (told : after.happenings = before.happenings ++
      [.own offer, .written subscription.signal offer.content])
    (here : offer.signal = subscription.signal) (differs : offer.held.same offer.content = false)
    (size : before.cells.size = after.cells.size)
      (next : before.nextSubscription = after.nextSubscription)
    (attached : before.Holds subscription.signal subscription.number)
    (stays : after.Holds subscription.signal subscription.number)
    (content : (after.cell subscription.signal).content = offer.content) (owes : later) :
    subscription.InOrder later after := by
  have lasts := order.attached.mp attached
  have due : subscription.due after.happenings =
      subscription.due before.happenings ++ [offer.content] := by
    rw [told, due_append_of_lasts order.since lasts]
    simp [Happening.ends, Happening.news?, here, differs]
  have delivered : deliveries subscription.signal subscription.number after.happenings =
      deliveries subscription.signal subscription.number before.happenings := by
    simp [told, deliveries, Happening.told?]
  constructor
  case present => exact size ▸ order.present
  case numbered => exact next ▸ order.numbered
  case since =>
    rw [told, List.length_append]
    exact Nat.le_add_right_of_le order.since
  case attached =>
    refine iff_of_true stays ?_
    rw [told, lasts_append order.since]
    exact ⟨lasts, by simp [Happening.ends]⟩
  case current =>
    intro _
    rw [due, List.getLast?_concat, content]
  case told => exact fun paid => absurd owes paid
  case owed =>
    intro _
    rw [due, delivered, order.told paid, content]

theorem notified (order : subscription.InOrder owing before) (owes : owing)
    (paid : ¬later) {notice : Notice}
    (told : after.happenings = before.happenings ++ [.notified notice])
    (here : notice.signal = subscription.signal) (own : notice.subscriber = subscription.number)
    (content : notice.content = (before.cell subscription.signal).content)
    (cells : after.cells = before.cells)
    (next : before.nextSubscription = after.nextSubscription) :
    subscription.InOrder later after := by
  have cell : ∀ signal, after.cell signal = before.cell signal := by
    intro signal
    rw [Store.cell, cells, Store.cell]
  have holds : after.Holds subscription.signal subscription.number ↔
      before.Holds subscription.signal subscription.number := by
    rw [Store.Holds, Store.numbers, cell, Store.Holds, Store.numbers]
  have lasts : subscription.Lasts after.happenings ↔ subscription.Lasts before.happenings := by
    rw [told, lasts_append order.since]
    exact and_iff_left (by simp [Happening.ends])
  have due : subscription.due after.happenings = subscription.due before.happenings := by
    rw [told]
    by_cases going : subscription.Lasts before.happenings
    · rw [due_append_of_lasts order.since going]
      simp [Happening.ends, Happening.news?]
    · exact due_append_of_over order.since going
  constructor
  case present => exact cells ▸ order.present
  case numbered => exact next ▸ order.numbered
  case since =>
    rw [told, List.length_append]
    exact Nat.le_add_right_of_le order.since
  case attached => rw [holds, lasts, order.attached]
  case current =>
    intro held
    rw [due, cell]
    exact order.current (holds.mp held)
  case told =>
    intro _
    rw [due, ← order.owed owes, told, ← content]
    simp [deliveries, Happening.told?, here, own]
  case owed => exact fun owed => absurd owed paid

theorem ended (order : subscription.InOrder owing before) (paid : ¬owing)
    {happening : Happening Offer} (told : after.happenings = before.happenings ++ [happening])
    (ends : happening.ends subscription.signal subscription.number = true)
    (silent : happening.told? subscription.signal subscription.number = none)
    (size : before.cells.size = after.cells.size)
    (next : before.nextSubscription = after.nextSubscription)
    (gone : ¬after.Holds subscription.signal subscription.number) :
    subscription.InOrder owing after := by
  have due : subscription.due after.happenings = subscription.due before.happenings := by
    rw [told]
    by_cases going : subscription.Lasts before.happenings
    · rw [due_append_of_lasts order.since going]
      simp [ends]
    · exact due_append_of_over order.since going
  constructor
  case present => exact size ▸ order.present
  case numbered => exact next ▸ order.numbered
  case since =>
    rw [told, List.length_append]
    exact Nat.le_add_right_of_le order.since
  case attached =>
    refine iff_of_false gone ?_
    rw [told, lasts_append order.since]
    rintro ⟨_, lasts⟩
    rw [lasts happening List.mem_cons_self] at ends
    cases ends
  case current => exact fun held => absurd held gone
  case told =>
    intro _
    rw [due, ← order.told paid, told]
    simp [deliveries, silent]
  case owed => exact fun owed => absurd owed paid

end InOrder
end Subscription

namespace Store

def opening (signal : Nat) (store : Offered) : Subscription where
  signal := signal
  number := store.nextSubscription
  content := (store.cell signal).content
  since := store.happenings.length

/-- A subscriber is told the content of his signal at once. -/
theorem opening_in_order {before after : Offered} {signal : Nat}
    (present : signal < before.cells.size) (alive : Bool) (since : Nat)
    (fresh : ∀ notice, .notified notice ∈ before.happenings →
      notice.subscriber < before.nextSubscription)
    (told : after.happenings = before.happenings ++
      [.attached signal before.nextSubscription alive,
        .notified
          { signal := signal
            subscriber := before.nextSubscription
            content := (before.cell signal).content
            since := since }])
    (size : before.cells.size = after.cells.size)
      (next : after.nextSubscription = before.nextSubscription + 1)
    (held : after.Holds signal before.nextSubscription)
    (content : (after.cell signal).content = (before.cell signal).content)
      {owing : Prop} (paid : ¬owing) :
    (before.opening signal).InOrder owing after := by
  have due : (before.opening signal).due after.happenings = [(before.cell signal).content] := by
    simp [told, Subscription.due, opening, Happening.ends, Happening.news?]
  have unknown : deliveries signal before.nextSubscription before.happenings = [] := by
    refine List.filterMap_eq_nil_iff.mpr fun happening member => ?_
    cases happening with
    | notified notice =>
        refine if_neg fun own => ?_
        have young := fresh notice member
        rw [own.2] at young
        exact Nat.lt_irrefl _ young
    | _ => rfl
  constructor
  case present => exact size ▸ present
  case numbered => exact next ▸ Nat.lt_succ_self _
  case since =>
    rw [told, List.length_append]
    exact Nat.le_add_right _ _
  case attached =>
    refine iff_of_true held ?_
    simp [told, Subscription.Lasts, opening, Happening.ends]
  case current =>
    intro _
    rw [due]
    exact congrArg some content.symm
  case told =>
    intro _
    change deliveries signal before.nextSubscription after.happenings = _
    rw [due, told, deliveries, List.filterMap_append, ← deliveries, unknown]
    simp [List.filterMap_cons, Happening.told?]
  case owed => exact fun owed => absurd owed paid

end Store
end Signal
end Interplay
