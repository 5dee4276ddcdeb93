import Interplay.Proofs.Execute.Alongside

/-!
Signals and host code of twins.

A write to a signal is mirrored by a write of an alike value to its twin: either both change their
content or neither does, and the same subscribers are notified.  Host code that is courteous is
followed, whatever it resumes.
-/

namespace Interplay
namespace Execute

open Run

/-- A way to run host code that mirrors what observers do. -/
def Observes (company : Company) (call : Signal.Caller Effect Stage) : Prop :=
  ∀ exempt plan other, company.Watchful plan other →
    Mirrors (Twin company exempt) (fun answer reply => answer.content.Alike reply.content)
      (call plan) (call other)

section Notifications

variable {company : Company} {exempt : Nat → Prop} {call : Signal.Caller Effect Stage}

theorem mirrors_protected (message : String) {body other : Run World Unit}
    (mirrors : Mirrors (Twin company exempt) (fun _ _ => True) body other) :
    Mirrors (Twin company exempt) (fun _ _ => True) (Signal.protectedCall message body)
      (Signal.protectedCall message other) := by
  refine mirrors_attempt_bind mirrors (fun _ _ _ => mirrors_pure trivial)
    fun _ _ => mirrors_modify ?_
  exact fun world counterpart twin => twin.log _ _ _ _ _ _

theorem mirrors_react (observes : Observes company call) {reaction : Signal.Reaction Effect}
    (watches : company.Watches reaction) {content other : Value} (alike : content.Alike other) :
    Mirrors (Twin company exempt) (fun _ _ => True) (Signal.react call content reaction)
      (Signal.react call other reaction) := by
  cases reaction with
  | call run =>
      refine mirrors_bind (observes exempt _ _ (watches content other alike)) fun _ _ _ => ?_
      exact mirrors_pure trivial
  | feed target transform =>
      refine mirrors_bind (observes exempt _ _ (watches.2 content other alike))
        fun answer reply contents => ?_
      refine mirrors_bind
        (observes exempt _ _ (.write watches.1 contents (.finish Value.alike_null))) fun _ _ _ => ?_
      exact mirrors_pure trivial

theorem CellTwin.set_content {cell counterpart : Signal.Cell Effect}
    (twin : CellTwin company cell counterpart)
    {content other : Value} (alike : content.Alike other) :
    CellTwin company { cell with content := content } { counterpart with content := other } :=
  ⟨alike, twin.destroyed, twin.reactions, twin.watches⟩

theorem CellTwin.subscribed {cell counterpart : Signal.Cell Effect}
    (twin : CellTwin company cell counterpart) :
    counterpart.subscribers.isEmpty = cell.subscribers.isEmpty := by
  have same := congrArg List.isEmpty twin.reactions
  rw [List.isEmpty_map, List.isEmpty_map] at same
  exact same

theorem mirrors_write (observes : Observes company call) {signal : Nat} {content other : Value}
    (alike : content.Alike other)
    (exempted : ∀ host, host < company.size → (company.setting.instances host).signal = signal →
      exempt host) :
    Mirrors (Twin company exempt) (fun _ _ => True) (Signal.write call signal content)
      (Signal.write call signal other) := by
  have stored : Mirrors (Twin company exempt) (fun _ _ => True)
      (modify (Signal.Store.modifyCell signal fun cell => { cell with content := content }))
      (modify (Signal.Store.modifyCell signal fun cell => { cell with content := other })) := by
    refine mirrors_modify fun world counterpart twin => twin.modify_cell
      ((twin.cells signal).set_content alike) ?_
    exact fun host present kept own => absurd (exempted host present own) kept
  refine mirrors_get_bind fun world counterpart twin => ?_
  have cells := twin.cells signal
  refine mirrors_if ?_ (mirrors_pure trivial)
    (mirrors_if ?_ stored (mirrors_if ?_ (mirrors_pure trivial) ?_)) world counterpart twin
  · rw [cells.destroyed]
  · rw [cells.subscribed]
  · rw [cells.content.same alike]
  · refine mirrors_bind stored fun _ _ _ => ?_
    -- only their reactions are used of subscribers, and these are the same
    have reactions : ∀ (content : Value) (subscribers : List (Signal.Subscriber Effect)),
        forEach (fun subscriber => Signal.protectedCall "Error in signal subscriber"
          (Signal.react call content subscriber.reaction)) subscribers =
        forEach (fun reaction => Signal.protectedCall "Error in signal subscriber"
          (Signal.react call content reaction)) (subscribers.map Signal.Subscriber.reaction) :=
      fun content subscribers => (for_each_map (fun reaction =>
        Signal.protectedCall "Error in signal subscriber" (Signal.react call content reaction))
          _ subscribers).symm
    rw [reactions, reactions, cells.reactions]
    refine mirrors_for_each fun reaction member => mirrors_protected _
      (mirrors_react observes ?_ alike)
    obtain ⟨subscriber, listed, rfl⟩ := List.mem_map.mp member
    exact cells.watches subscriber listed

theorem mirrors_attach (observes : Observes company call) (signal : Nat)
    {reaction : Signal.Reaction Effect}
    (watches : company.Watches reaction) (release other : Signal.Release Effect) :
    Mirrors (Twin company exempt) (fun _ _ => True) (Signal.attach call signal reaction release)
      (Signal.attach call signal reaction other) := by
  refine mirrors_get_bind fun world counterpart twin => ?_
  refine mirrors_bind (mirrors_modify ?_) (fun _ _ _ => ?_) world counterpart twin
  · intro state another there
    have cells := there.cells signal
    have joined : ∀ subscriber ∈ (state.cell signal).subscribers ++
        [⟨world.nextSubscription, reaction, release⟩], company.Watches subscriber.reaction := by
      intro subscriber member
      rcases List.mem_append.mp member with before | last
      · exact cells.watches subscriber before
      · obtain rfl := List.mem_singleton.mp last
        exact watches
    have added : Twin company exempt
        (state.modifyCell signal fun cell =>
          { cell with subscribers := cell.subscribers ++
            [⟨world.nextSubscription, reaction, release⟩] })
        (another.modifyCell signal fun cell =>
          { cell with subscribers := cell.subscribers ++
            [⟨counterpart.nextSubscription, reaction, other⟩] }) :=
      there.modify_cell ⟨cells.content, cells.destroyed, by simp [cells.reactions], joined⟩
        fun _ _ _ _ => rfl
    exact ⟨added.sizes, added.cells, added.machine, added.stage, added.memos⟩
  · refine mirrors_bind
      (mirrors_protected _ (mirrors_react observes watches (twin.cells signal).content)) ?_
    exact fun _ _ _ => mirrors_pure trivial

theorem script_observes {powers : Powers} (observes : Observes company powers.call) :
    Observes company (Signal.runScript powers.call (performEffect powers)) := by
  intro exempt plan other watchful
  induction watchful with
  | finish alike => exact mirrors_pure alike
  | fail failure another => exact mirrors_raise failure another
  | note alike continues ih =>
      intro world counterpart twin
      obtain ⟨answers, journals⟩ := twin.machine.journal.apply alike
      exact ih _ _ answers _ _ (twin.journal journals)
  | write free alike continues ih =>
      refine mirrors_bind (mirrors_write observes alike fun host present own => ?_) fun _ _ _ => ih
      exact absurd own (free host present)

end Notifications

end Execute
end Interplay
