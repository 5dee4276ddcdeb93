import Interplay.Proofs.Signal.Custody

/-!
Rounds of notices.

A write tells its content to everybody who was subscribed when it began.  Whoever is held and was
not yet told has his turn to come; whoever was told holds the content of the signal, unless a later
write overtook the round before his turn.  Nobody is told in a round that began after he had left.
-/

namespace Interplay
namespace Signal

variable {ε κ υ : Type}

/-- The signal was written again between the moment at which the content was taken and the
notice. -/
def Notice.IsOvertaken (notice : Notice) (earlier : List (Happening κ)) : Prop :=
  ∃ content, .written notice.signal content ∈ earlier.drop notice.since

/-- A notice belongs to the round of a write, or follows its subscription at once, and at that time
the subscriber had not departed. -/
structure Notice.IsTimely (notice : Notice) (earlier : List (Happening κ)) : Prop where
  founded : (∃ begun, earlier.take notice.since = begun ++
    [Happening.written notice.signal notice.content]) ∨
    ∃ alive, earlier.drop notice.since = [.attached notice.signal notice.subscriber alive]
  staying : ¬Departed (earlier.take notice.since) notice.signal notice.subscriber

def Happening.IsSilent : Happening κ → Prop
  | written _ _ => False
  | notified _ => False
  | _ => True

namespace Store

/-- A subscriber was told last after all writes, and then the content that the signal has or one
that was overtaken. -/
def Serves (store : Store ε (Observed κ υ)) (signal subscriber : Nat) : Prop :=
  ∃ earlier notice later, store.happenings = earlier ++ .notified notice :: later ∧
    notice.signal = signal ∧ notice.subscriber = subscriber ∧
    (∀ other, .notified other ∈ later → ¬(other.signal = signal ∧ other.subscriber = subscriber)) ∧
    (∀ content, .written signal content ∉ later) ∧
    (notice.content = (store.cell signal).content ∨ notice.IsOvertaken earlier)

theorem Serves.stay {before after : Store ε (Observed κ υ)} {signal subscriber : Nat}
    {more : List (Happening κ)}
    (serves : before.Serves signal subscriber) (told : after.happenings = before.happenings ++ more)
    (unnoticed : ∀ other, .notified other ∈ more →
      ¬(other.signal = signal ∧ other.subscriber = subscriber))
    (unwritten : ∀ content, .written signal content ∉ more)
    (content : (after.cell signal).content = (before.cell signal).content) :
      after.Serves signal subscriber := by
  obtain ⟨earlier, notice, later, split, same, own, last, settled, right⟩ := serves
  refine ⟨earlier, notice, later ++ more, ?_, same, own, ?_, ?_, ?_⟩
  · rw [told, split, List.append_assoc, List.cons_append]
  · exact fun other member => (List.mem_append.mp member).elim (last other) (unnoticed other)
  · exact fun other member => (List.mem_append.mp member).elim (settled other) (unwritten other)
  · rw [content]
    exact right

/-- Where notices stand, while an agenda is under way. -/
structure InTurn (agenda : Agenda) (store : Store ε (Observed κ υ)) : Prop where
  timely : ∀ earlier notice later, store.happenings = earlier ++ .notified notice :: later →
    notice.IsTimely earlier
  written : ∀ signal content, .written signal content ∈ store.happenings → signal < store.cells.size
  current : ∀ earlier signal content later, store.happenings = earlier ++
    .written signal content :: later →
    (∀ other, .written signal other ∉ later) → (store.cell signal).content = content
  served : ∀ signal subscriber, store.Holds signal subscriber →
    (signal, subscriber) ∈ agenda.pending ∨ store.Serves signal subscriber

namespace InTurn

variable {agenda other : Agenda} {before after store : Store ε (Observed κ υ)}

/-- Changes that tell nobody anything and change no content. -/
theorem quiet (turn : before.InTurn agenda) {more : List (Happening κ)}
    (told : after.happenings = before.happenings ++ more)
    (silent : ∀ happening ∈ more, happening.IsSilent)
    (pending : ∀ pair ∈ agenda.pending, pair ∈ other.pending)
    (held : ∀ signal subscriber, after.Holds signal subscriber →
      before.Holds signal subscriber ∨ (signal, subscriber) ∈ other.pending)
    (size : before.cells.size ≤ after.cells.size)
    (content : ∀ signal < before.cells.size, (after.cell signal).content =
      (before.cell signal).content) :
    after.InTurn other where
  timely := by
    intro earlier notice later split
    rw [told] at split
    obtain ⟨between, front, _⟩ := split_of_append split fun late => silent _ late
    exact turn.timely earlier notice between front
  written := by
    intro signal found member
    rw [told, List.mem_append] at member
    have older := member.resolve_right fun late => silent _ late
    exact Nat.lt_of_lt_of_le (turn.written signal found older) size
  current := by
    intro earlier signal found later split last
    rw [told] at split
    obtain ⟨between, front, rfl⟩ := split_of_append split fun late => silent _ late
    have present := turn.written signal found (front ▸ List.mem_append_right _ List.mem_cons_self)
    rw [content signal present]
    exact turn.current earlier signal found between front fun another member =>
      last another (List.mem_append_left _ member)
  served := by
    intro signal subscriber holds
    rcases held signal subscriber holds with older | young
    · rcases turn.served signal subscriber older with waiting | serves
      · exact .inl (pending _ waiting)
      · refine .inr
          (serves.stay told (fun _ late => (silent _ late).elim) (fun _ late => silent _ late) ?_)
        exact content signal older.present
    · exact .inl young

theorem stored (turn : store.InTurn agenda) (signal : Nat) (content : Value) :
    (store.stored signal content).InTurn
      { agenda with
        pending := enrolled signal (store.cell signal).subscribers ++ agenda.pending } := by
  have told := happenings_stored signal content store
  have size := size_stored signal content store
  have held : ∀ number subscriber, (store.stored signal content).Holds number subscriber →
      store.Holds number subscriber := by
    intro number subscriber holds
    rwa [Holds, numbers_stored] at holds
  have contents := fun number => content_stored signal number content store
  by_cases present : signal < store.cells.size
  · rw [if_pos present] at told
    have elsewhere : ∀ number, number ≠ signal →
        ((store.stored signal content).cell number).content = (store.cell number).content := by
      intro number different
      rw [contents, if_neg fun here => different here.1.symm]
    exact
      { timely := by
          intro earlier notice later split
          rw [told] at split
          obtain ⟨between, front, _⟩ := split_of_append split (by simp)
          exact turn.timely earlier notice between front
        written := by
          intro number found member
          rw [size]
          rw [told, List.mem_append, List.mem_singleton] at member
          rcases member with older | late
          · exact turn.written number found older
          · cases late
            exact present
        current := by
          intro earlier number found later split last
          rw [told] at split
          by_cases here : number = signal
          · subst here
            rcases split_of_concat split with ⟨_, same, _⟩ | ⟨between, _, rfl⟩
            · cases same
              rw [contents, if_pos ⟨rfl, present⟩]
            · exact absurd (List.mem_append_right _ (List.mem_singleton_self _)) (last content)
          · obtain ⟨between, front, rfl⟩ := split_of_append split fun late => by
              cases List.mem_singleton.mp late
              exact here rfl
            rw [elsewhere number here]
            exact turn.current earlier number found between front fun another member =>
              last another (List.mem_append_left _ member)
        served := by
          intro number subscriber holds
          have older := held number subscriber holds
          by_cases here : number = signal
          · subst here
            obtain ⟨found, member, rfl⟩ := List.mem_map.mp older
            exact .inl (List.mem_append_left _ (List.mem_map_of_mem member))
          · rcases turn.served number subscriber older with waiting | serves
            · exact .inl (List.mem_append_right _ waiting)
            · refine .inr
                (serves.stay told (by simp) (fun another late => ?_) (elsewhere number here))
              cases List.mem_singleton.mp late
              exact here rfl }
  · rw [if_neg present] at told
    refine turn.quiet told (List.forall_mem_nil _)
      (fun pair waiting => List.mem_append_right _ waiting)
      (fun number subscriber holds => .inl (held number subscriber holds)) (Nat.le_of_eq size.symm)
      fun number inside => ?_
    rw [contents, if_neg]
    rintro ⟨rfl, there⟩
    exact present there

theorem notified {notice : Notice} {rest : List (Nat × Nat)}
    (turn : store.InTurn { agenda with pending := (notice.signal, notice.subscriber) :: rest })
    (timely : notice.IsTimely store.happenings)
    (right : notice.content = (store.cell notice.signal).content ∨
      notice.IsOvertaken store.happenings) :
    (store.told (.notified notice)).InTurn { agenda with pending := rest } where
  timely := by
    intro earlier found later split
    rcases split_of_concat split with ⟨front, same, _⟩ | ⟨between, front, _⟩
    · cases same
      exact front ▸ timely
    · exact turn.timely earlier found between front
  written := by
    intro signal content member
    rw [happenings_told, List.mem_append, List.mem_singleton] at member
    exact turn.written signal content (member.resolve_right nofun)
  current := by
    intro earlier signal content later split last
    obtain ⟨between, front, rfl⟩ := split_of_append split (by simp)
    exact turn.current earlier signal content between front fun another member =>
      last another (List.mem_append_left _ member)
  served := by
    intro signal subscriber holds
    by_cases mine : notice.signal = signal ∧ notice.subscriber = subscriber
    · obtain ⟨rfl, rfl⟩ := mine
      exact .inr ⟨store.happenings, notice, [], rfl, rfl, rfl, nofun, nofun, right⟩
    · rcases turn.served signal subscriber holds with waiting | serves
      · rcases List.mem_cons.mp waiting with same | waiting
        · cases same
          exact absurd ⟨rfl, rfl⟩ mine
        · exact .inl waiting
      · refine .inr (serves.stay rfl (fun another late => ?_) (by simp) rfl)
        cases List.mem_singleton.mp late
        exact mine

end InTurn
end Store
end Signal
end Interplay
