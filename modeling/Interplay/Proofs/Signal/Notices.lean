import Interplay.Proofs.Signal.Proceeding

/-!
What subscribers are told.

Writes made in the middle of a round tell everybody at once, and then the round goes on with the
content it began with.  So a subscriber ends with the content of the signal unless such a write
overtook the round before his turn.  A round also goes on with the subscribers it began with, so
whoever departs in the middle of it may still be told once more; nobody is told in a round that
began after he had departed.
-/

namespace Interplay
namespace Signal

/-- No signals, nothing observed. -/
def unobserved : Store Note (Observed Empty Journal) :=
  { cells := #[], nextSubscription := 0, host := { host := Journal.empty, happenings := [] } }

/-- An observed run from the start ends where the run itself ends, and in order. -/
theorem observed_in_order (fuel : Nat) (script : Script Note)
    (finite : run fuel script Bench.empty ≠ .exhausted) :
    ∃ last, (observed fuel script unobserved).mapState (Store.mapHost Observed.host) =
    run fuel script Bench.empty ∧
      (observed fuel script unobserved).state? = some last ∧ last.IsOrderly .silent .nothing := by
  have observes := observes_observed fuel script
  obtain ⟨last, left⟩ := observes.ends unobserved finite
  have start : unobserved.IsOrderly .silent .nothing := .of_untouched rfl (fun _ => rfl) trivial
  exact ⟨last, observes unobserved, left,
    (proceeds_observed fuel script .nothing _ start last left).1⟩

/-- However callbacks write to signals, whoever is subscribed when a run is over was told after all
writes to his signal.  He was told the content that the signal has, unless it was written again
between the beginning of his round and his turn. -/
theorem subscribers_end_served (fuel : Nat) (script : Script Note)
    (finite : run fuel script Bench.empty ≠ .exhausted) :
    ∃ last, (observed fuel script unobserved).mapState (Store.mapHost Observed.host) =
    run fuel script Bench.empty ∧
      (observed fuel script unobserved).state? = some last ∧
      ∀ signal subscriber, last.Holds signal subscriber → last.Serves signal subscriber := by
  obtain ⟨last, plain, left, orderly⟩ := observed_in_order fuel script finite
  refine ⟨last, plain, left, fun signal subscriber holds => ?_⟩
  exact (orderly.turn.served signal subscriber holds).resolve_left List.not_mem_nil

/-- The first subscriber answers the content one with another write; a reader and a derived signal
follow. -/
def overtaking : Script Note :=
  .create (.int 0) none fun source =>
  .subscribe source
    (fun content => if content.same (.int 1) then .write source (.int 2) .done else .done)
    none fun _ =>
  .subscribe source (fun content => .record content .done) none fun _ =>
  .derive source (fun content => .ofValue content) fun _ =>
  .write source (.int 1) .done

theorem overtaking_ends_served :
    run 6 overtaking Bench.empty ≠ .exhausted ∧
      ∃ last, (observed 6 overtaking unobserved).mapState (Store.mapHost Observed.host) =
          run 6 overtaking Bench.empty ∧
        (observed 6 overtaking unobserved).state? = some last ∧
        ∀ signal subscriber, last.Holds signal subscriber → last.Serves signal subscriber := by
  have finite : run 6 overtaking Bench.empty ≠ .exhausted :=
    Result.not_exhausted_of_state (by decide +kernel)
  exact ⟨finite, subscribers_end_served 6 overtaking finite⟩

/-- The signal ends with two.  Reader and derived signal are still subscribed, but were told two and
then one. -/
theorem overtaken_readers_are_stale :
    ∃ last, run 6 overtaking Bench.empty = .done (.value .null) last ∧ last.numbers 0 = [0, 1, 2] ∧
      (last.cell 0).content = .int 2 ∧ last.host.trace = [.int 0, .int 2, .int 1] ∧
      (last.cell 1).isDestroyed = false ∧ (last.cell 1).content = .int 1 :=
  ⟨_, rfl, rfl, rfl, rfl, rfl, rfl⟩

/-- However callbacks subscribe, unsubscribe, clean and destroy, nobody is told in a round that
began after he was taken off or torn down, and no subscription is replayed to who has departed. -/
theorem notices_are_timely (fuel : Nat) (script : Script Note)
    (finite : run fuel script Bench.empty ≠ .exhausted) :
    ∃ last, (observed fuel script unobserved).mapState (Store.mapHost Observed.host) =
    run fuel script Bench.empty ∧
      (observed fuel script unobserved).state? = some last ∧
      ∀ earlier notice later, last.happenings = earlier ++ .notified notice :: later →
      notice.IsTimely earlier := by
  obtain ⟨last, plain, left, orderly⟩ := observed_in_order fuel script finite
  exact ⟨last, plain, left, orderly.turn.timely⟩

/-- The first subscriber answers the content one by taking off the second and cleaning the signal,
which tears down the third. -/
def dismissing : Script Note :=
  .create (.int 0) none fun source =>
  .subscribe source (fun content =>
    if content.same (.int 1) then .unsubscribe source 1
      (.record (.text "taken off") (.clean source .done))
    else .done) none fun _ =>
  .subscribe source (fun content => .record content .done) none fun _ =>
  .subscribe source (fun content => .record content .done)
    (some (.record (.text "torn down") .done)) fun _ =>
  .write source (.int 1) .done

theorem dismissing_is_timely :
    run 6 dismissing Bench.empty ≠ .exhausted ∧
      ∃ last, (observed 6 dismissing unobserved).mapState (Store.mapHost Observed.host) =
          run 6 dismissing Bench.empty ∧
        (observed 6 dismissing unobserved).state? = some last ∧
        ∀ earlier notice later, last.happenings = earlier ++ .notified notice :: later →
          notice.IsTimely earlier := by
  have finite : run 6 dismissing Bench.empty ≠ .exhausted :=
    Result.not_exhausted_of_state (by decide +kernel)
  exact ⟨finite, notices_are_timely 6 dismissing finite⟩

/-- The second subscriber was taken off and the third one torn down, and both are told one
afterwards. -/
theorem dismissed_are_told :
    ∃ last, run 6 dismissing Bench.empty = .done (.value .null) last ∧ last.numbers 0 = [] ∧
      last.host.trace =
        [.int 0, .int 0, .text "taken off", .text "torn down", .int 1, .int 1] :=
  ⟨_, rfl, rfl, rfl⟩

end Signal
end Interplay
