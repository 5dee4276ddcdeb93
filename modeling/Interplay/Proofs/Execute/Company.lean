import Interplay.Proofs.Evaluate.Companion
import Interplay.Proofs.Execute.Faults
import Interplay.Proofs.Run.Mirroring

/-!
Worlds in company.

Two worlds are twins if they look alike from outside and one of them has no memos, while the memos
of the other one are backed by its own data.  Signals, notes and traces hold alike values, faults,
clocks, timings and running workflows are the same, and what was put aside will do alike things.
Host code is asked to do alike things when it is given alike values.
-/

namespace Interplay

namespace Signal

/-- Notes that make alike entries in the same places. -/
inductive Note.Alike : Note → Note → Prop
  | record {entry other : Value} (alike : entry.Alike other) : Note.Alike
      (.record entry) (.record other)
  | remember (key : NoteKey) {note other : Value} (alike : note.Alike other) :
    Note.Alike (.remember key note) (.remember key other)
  | lookUp (key : NoteKey) : Note.Alike (.lookUp key) (.lookUp key)

end Signal

/-- Journals that show the same time and hold alike entries; their logs may differ. -/
structure Journal.Alike (journal other : Journal) : Prop where
  clock : other.clock = journal.clock
  trace : List.Forall₂ Value.Alike journal.trace other.trace
  notes : List.Forall₂ (fun note another => note.1 = another.1 ∧ note.2.Alike another.2)
    journal.notes other.notes

namespace Keyed

variable {κ : Type} [BEq κ]

theorem insert_alike {table other : Keyed κ Value} (key : κ) {content another : Value}
    (alike : List.Forall₂
      (fun entry found => entry.1 = found.1 ∧ entry.2.Alike found.2) table other)
    (contents : content.Alike another) :
    List.Forall₂ (fun entry found => entry.1 = found.1 ∧ entry.2.Alike found.2)
      (insert key content table) (insert key another other) := by
  induction alike with
  | nil => exact .cons ⟨rfl, contents⟩ .nil
  | @cons entry found rest others first remaining ih =>
      obtain ⟨name, old⟩ := entry
      obtain ⟨same, older⟩ := found
      obtain ⟨rfl, values⟩ := first
      unfold insert
      split
      · exact .cons ⟨rfl, contents⟩ remaining
      · exact .cons ⟨rfl, values⟩ ih

theorem find_alike {table other : Keyed κ Value} (key : κ)
    (alike : List.Forall₂
      (fun entry found => entry.1 = found.1 ∧ entry.2.Alike found.2) table other) :
    ((find? key table).getD .null).Alike ((find? key other).getD .null) := by
  induction alike with
  | nil => exact Value.alike_null
  | @cons entry found rest others first remaining ih =>
      obtain ⟨name, old⟩ := entry
      obtain ⟨same, older⟩ := found
      obtain ⟨rfl, values⟩ := first
      unfold find?
      split
      · exact values
      · exact ih

end Keyed

theorem Journal.Alike.apply {journal another : Journal} (alike : journal.Alike another)
    {note other : Signal.Note} (notes : note.Alike other) :
    (note.apply journal).1.Alike (other.apply another).1 ∧ (note.apply journal).2.Alike
    (other.apply another).2 := by
  cases notes with
  | record entry =>
      exact ⟨Value.alike_null, alike.clock, List.rel_append alike.trace
        (.cons entry .nil), alike.notes⟩
  | remember key note =>
      exact ⟨Value.alike_null, alike.clock, alike.trace, Keyed.insert_alike key alike.notes note⟩
  | lookUp key => exact ⟨Keyed.find_alike key alike.notes, alike⟩

/-- The formulas right inside an action. -/
def Action.operands : Action → List Formula
  | setVariable _ data => data.toList
  | triggerEvent _ data => data.toList
  | switch cases _ _ => cases.filterMap ActionCase.condition
  | fetch _ inputs _ _ _ => inputs.filterMap NamedFormula.formula
  | abortFetch _ => []
  | custom _ _ arguments _ => arguments.filterMap NamedFormula.formula
  | setUrlParameter _ data _ => data.toList
  | setUrlParameters parameters _ => parameters.filterMap NamedFormula.formula
  | triggerWorkflow _ parameters _ _ _ => parameters.filterMap NamedFormula.formula
  | triggerWorkflowCallback _ data => data.toList

/-- An action of which all formulas are plain and definite, in nested lists too. -/
inductive Action.IsOrdinary : Action → Prop
  | intro {action : Action}
    (formulas : ∀ formula ∈ action.operands, formula.IsPlain ∧ formula.IsDefinite)
    (inside : ∀ body ∈ action.bodies, ∀ part ∈ body, part.IsOrdinary) : action.IsOrdinary

namespace Execute

def Ordinary (formula : Option Formula) : Prop :=
  ∀ present, formula = some present → present.IsPlain ∧ present.IsDefinite

/-- Host code for alike values that does alike things: it may make notes, move the clock, resume
what it was handed and make promises.  It passes on failures of what it resumes. -/
inductive Courteous : Plan → Plan → Prop
  | value {content other : Value} (alike : content.Alike other) :
    Courteous (.finish (.value content)) (.finish (.value other))
  | cleanup {plan other : Plan} (courteous : Courteous plan other) :
    Courteous (.finish (.cleanup plan)) (.finish (.cleanup other))
  | promise (number : Nat) : Courteous (.finish (.promise number)) (.finish (.promise number))
  | deferred (plan other : Plan) : Courteous (.finish (.deferred plan)) (.finish (.deferred other))
  | fail (failure other : Failure) : Courteous (.fail failure) (.fail other)
  | note {note other : Signal.Note} {next following : Except Failure Value → Plan}
    (alike : note.Alike other)
    (continues : ∀ content another, content.Alike another →
      Courteous (next (.ok content)) (following (.ok another))) :
    Courteous (.perform (.note note) next) (.perform (.note other) following)
  | advance (seconds : Value) {next following : Except Failure Value → Plan}
    (continues : Courteous (next (.ok .null)) (following (.ok .null)))
    (passes : ∀ failure, ∃ passed, next (.error failure) = .fail passed) :
    Courteous (.perform (.advance seconds) next) (.perform (.advance seconds) following)
  | pledge {next following : Except Failure Value → Plan}
    (continues : ∀ number, Courteous (next (.ok (.ofNat number)))
      (following (.ok (.ofNat number)))) :
    Courteous (.perform .promise next) (.perform .promise following)
  | resume (number : Nat) {event other payload another : Value}
    {next following : Except Failure Value → Plan}
    (events : event.Alike other) (payloads : payload.Alike another)
    (continues : Courteous (next (.ok .null)) (following (.ok .null)))
    (passes : ∀ failure, ∃ passed, next (.error failure) = .fail passed) :
    Courteous (.perform (.resume number event payload) next)
      (.perform (.resume number other another) following)

/-- Instances that act together, and the slots in which the data roots of one instance may differ
between its contexts. -/
structure Company where
  setting : Setting
  size : Nat
  slots : List String

namespace Company

variable (company : Company)

/-- What formulas of an instance refer to, over a data root. -/
def formulas (host : Nat) (root : Content) : Evaluate.Setting :=
  { formulas := (company.setting.instances host).registry.formulas
    component := (company.setting.instances host).component
    package := (company.setting.instances host).package
    root := root }

def IsFree (signal : Nat) : Prop :=
  ∀ host, host < company.size → (company.setting.instances host).signal ≠ signal

/-- Subscribers that only observe: for alike values they make alike notes, and write alike values to
signals that hold the data of no instance. -/
inductive Watchful : Plan → Plan → Prop
  | finish {answer other : Signal.Answer Effect} (alike : answer.content.Alike other.content) :
    Watchful (.finish answer) (.finish other)
  | fail (failure other : Failure) : Watchful (.fail failure) (.fail other)
  | note {note other : Signal.Note} {next following : Except Failure Value → Plan}
    (alike : note.Alike other)
    (continues : ∀ content another, content.Alike another →
      Watchful (next (.ok content)) (following (.ok another))) :
    Watchful (.perform (.note note) next) (.perform (.note other) following)
  | write {signal : Nat} {content other : Value} {next following : Plan}
    (free : company.IsFree signal)
    (alike : content.Alike other) (continues : Watchful next following) :
    Watchful (.write signal content next) (.write signal other following)

def Watches : Signal.Reaction Effect → Prop
  | .call run => ∀ content other, content.Alike other → company.Watchful (run content) (run other)
  | .feed target transform => company.IsFree target ∧
    ∀ content other, content.Alike other → company.Watchful (transform content) (transform other)

def Overlays (host : Nat) (overlay : Value) : Prop :=
  ∃ content own, overlay.content? = some content ∧
    (company.setting.instances host).overlay.content? = some own ∧
    content.AgreeBeyond company.slots own

end Company

/-- A context of an instance that is present, and one with an alike overlay. -/
structure ActionContext.Twin (company : Company) (context counterpart : ActionContext) : Prop where
  host : counterpart.host = context.host
  stackHost : counterpart.stackHost = context.stackHost
  present : context.host < company.size
  overlay : context.overlay.Alike counterpart.overlay
  own : company.Overlays context.host counterpart.overlay

inductive Dispatch.Twin (company : Company) : Dispatch → Dispatch → Prop
  | none : Dispatch.Twin company .none .none
  | external {run : String → Value → Plan}
    (courteous : ∀ name content other, content.Alike other →
      Courteous (run name content) (run name other)) :
    Dispatch.Twin company (.external run) (.external run)
  | caller (workflow : String) {callbacks : List ActionBody} {context other : ActionContext}
    {outer another : Dispatch} (depth : Value)
    (ordinary : ∀ callback ∈ callbacks, ∀ action ∈ callback.actions, action.IsOrdinary)
    (contexts : context.Twin company other) (outers : Dispatch.Twin company outer another) :
    Dispatch.Twin company (.caller workflow callbacks context outer depth)
      (.caller workflow callbacks other another depth)

inductive Continuation.Twin (company : Company) : Continuation → Continuation → Prop
  | emitter (action : String) {events : List ActionBody} {context other : ActionContext}
    {dispatch another : Dispatch} (depth : Value)
    (ordinary : ∀ event ∈ events, ∀ action ∈ event.actions, action.IsOrdinary)
    (contexts : context.Twin company other) (dispatches : dispatch.Twin company another) :
    Continuation.Twin company (.emitter action events context dispatch depth)
      (.emitter action events other another depth)
  | body {actions : List Action} {context other : ActionContext}
    {dispatch another : Dispatch} (depth : Value)
    (ordinary : ∀ action ∈ actions, action.IsOrdinary) (contexts : context.Twin company other)
    (dispatches : dispatch.Twin company another) :
    Continuation.Twin company (.body actions context dispatch depth)
      (.body actions other another depth)

def rootOver (overlay event content : Value) : Except Failure Value := do
  let base ← content.spreadFilled
  let laid ← overlay.spread
  return .mapping (Keyed.insert (.text "Event") event (Entries.merge base laid))

theorem data_root_eq (setting : Setting) (context : ActionContext) (event : Value) (world : World) :
    dataRoot setting context event world =
      rootOver context.overlay event (world.cell (setting.instances context.host).signal).content :=
  rfl

/-- A memo that is backed over every data root that a content of its instance's signal may be part
of. -/
def Company.Backs (company : Company) (host : Nat) (content : Value) (memo : Memo String String) :
    Prop :=
  ∀ overlay event data root, company.Overlays host overlay →
    rootOver overlay event content = .ok data →
    data.content? = some root → Evaluate.Backs (company.formulas host root.withoutArguments) memo

structure CellTwin (company : Company) (cell counterpart : Signal.Cell Effect) : Prop where
  content : cell.content.Alike counterpart.content
  destroyed : counterpart.isDestroyed = cell.isDestroyed
  reactions : counterpart.subscribers.map Signal.Subscriber.reaction =
    cell.subscribers.map Signal.Subscriber.reaction
  watches : ∀ subscriber ∈ cell.subscribers, company.Watches subscriber.reaction

structure MachineTwin (size : Nat) (machine counterpart : Machine) : Prop where
  limits : counterpart.limits = machine.limits
  cycles : counterpart.cycleStacks = machine.cycleStacks
  hosts : machine.hosts.size = size
  otherHosts : counterpart.hosts.size = size
  timings : ∀ host, (counterpart.host host).timings = (machine.host host).timings
  faults : ∀ host, counterpart.faults host = machine.faults host
  bare : ∀ host, (machine.host host).memo = none
  journal : machine.journal.Alike counterpart.journal

structure StageTwin (company : Company) (stage counterpart : Stage) : Prop where
  workflows : counterpart.workflows = stage.workflows
  hasLoop : counterpart.hasLoop = stage.hasLoop
  scopes : counterpart.scopes = stage.scopes
  provided : ∀ scope key host, stage.scopes.consume scope key = some (.host host) →
    host < company.size
  continuations : counterpart.continuations.size = stage.continuations.size
  resumed : ∀ number : Nat, ∀ continuation, stage.continuations[number]? = some continuation →
    ∃ other, counterpart.continuations[number]? = some other ∧ continuation.Twin company other
  promises : counterpart.promises.size = stage.promises.size
  unsettled : ∀ number : Nat, ∀ promise, stage.promises[number]? = some promise →
    promise.settlement = none
  otherUnsettled : ∀ number : Nat, ∀ promise, counterpart.promises[number]? = some promise →
    promise.settlement = none

/-- A world without memos and a world with memos that are backed, those of exempt instances
apart. -/
structure Twin (company : Company) (exempt : Nat → Prop) (world counterpart : World) : Prop where
  sizes : counterpart.cells.size = world.cells.size
  cells : ∀ number, CellTwin company (world.cell number) (counterpart.cell number)
  machine : MachineTwin company.size world.machine counterpart.machine
  stage : StageTwin company world.stage counterpart.stage
  memos : ∀ host, host < company.size → ¬exempt host →
    ∀ memo, (counterpart.machine.host host).memo = some memo →
    company.Backs host (counterpart.cell (company.setting.instances host).signal).content memo

abbrev Twins (company : Company) : World → World → Prop :=
  Twin company fun _ => False

/-- What is asked of the instances of a company. -/
structure Company.IsOrderly (company : Company) : Prop where
  /-- Handlers of formulas are functions of their arguments, and pass values on. -/
  plain : ∀ host, host < company.size → ∀ root, (company.formulas host root).IsPlain
  quiet : ∀ host, host < company.size → ∀ root, (company.formulas host root).IsQuiet
  definite : ∀ host, host < company.size → ∀ root, (company.formulas host root).IsDefinite
  /-- Memoized formulas do not depend on what may differ between contexts. -/
  disregards : ∀ host, host < company.size →
    ∀ root, (company.formulas host root).Disregards company.slots
  slots : "Event" ∈ company.slots ∧ "Parameters" ∈ company.slots
  overlays : ∀ host, host < company.size → ∃ entries : Entries,
    (company.setting.instances host).overlay = .mapping entries ∧ entries.Alike entries
  /-- No two instances share a signal. -/
  signals : ∀ host other, host < company.size → other < company.size →
    (company.setting.instances host).signal = (company.setting.instances other).signal →
    host = other
  workflows : ∀ host, host < company.size → ∀ component name workflow,
    (company.setting.instances host).component = some component →
    Keyed.find? name component.workflows = some workflow →
    ∀ action ∈ workflow.actions, action.IsOrdinary
  handlers : ∀ host, host < company.size → ∀ name package handler found,
    ((company.setting.instances host).registry.actions.resolve name package = .ok
      (some (.versioned handler found)) ∨
      (company.setting.instances host).registry.actions.resolve name package = .ok
      (some (.legacy handler found))) →
    ∀ (arguments others : Entries) root event another trigger, arguments.Alike others →
      event.Alike another →
      Courteous (handler arguments { root := root, event := event, trigger := trigger })
        (handler others { root := root, event := another, trigger := trigger })
  fetches : ∀ host, host < company.size → ∀ name api,
    Keyed.find? name (company.setting.instances host).apis = some api →
    ∀ (inputs others : Entries) callbacks, inputs.Alike others →
      Courteous (api.fetch inputs callbacks) (api.fetch others callbacks)
  cancels : ∀ host, host < company.size → ∀ name api plan,
    Keyed.find? name (company.setting.instances host).apis = some api →
    api.cancel = some plan → Courteous plan plan
  events : ∀ host, host < company.size →
    ∀ run, (company.setting.instances host).triggerEvent = some run →
    ∀ name content other, content.Alike other → Courteous (run name content) (run name other)
  urls : ∀ host, host < company.size →
    ∀ run, (company.setting.instances host).setUrlParameters = some run →
    ∀ (entries others : Entries) mode, entries.Alike others →
    Courteous (run entries mode) (run others mode)

theorem find_beyond_insert {key name : String} (different : key ≠ name)
    (content : Value) (entries : Entries) :
    Keyed.find? (.text key) (Keyed.insert (.text name) content entries) = Keyed.find?
      (.text key) entries := by
  induction entries with
  | nil =>
      have other : (Scalar.text name == Scalar.text key) = false := by
        rw [Value.same_text_iff]
        exact beq_false_of_ne different.symm
      simp [Keyed.insert, Keyed.find?, other]
  | cons entry rest ih =>
      obtain ⟨found, old⟩ := entry
      unfold Keyed.insert
      split
      · rename_i named
        have other : (found == Scalar.text key) = false := by
          rw [Scalar.eq_of_beq_text named, Value.same_text_iff]
          exact beq_false_of_ne different.symm
        simp [Keyed.find?, other]
      · simp only [Keyed.find?, ih]

section Roots

variable {company : Company} {host : Nat} {overlay other event another content base : Value}

theorem root_alike (overlays : overlay.Alike other) (events : event.Alike another)
    (contents : content.Alike base)
    {data : Value} (made : rootOver overlay event content = .ok data) :
    ∃ root, rootOver other another base = .ok root ∧ data.Alike root := by
  unfold rootOver at made ⊢
  simp only [bind, Except.bind, pure, Except.pure] at made ⊢
  cases spread : content.spreadFilled with
  | error failure =>
      rw [spread] at made
      cases made
  | ok entries =>
      obtain ⟨others, otherSpread, same⟩ := contents.spread_filled spread
      rw [spread] at made
      rw [otherSpread]
      dsimp only at made ⊢
      cases laid : overlay.spread with
      | error failure =>
          rw [laid] at made
          cases made
      | ok extra =>
          obtain ⟨extras, otherOver, sameOver⟩ := overlays.spread laid
          rw [laid] at made
          rw [otherOver]
          cases made
          exact ⟨_, rfl, ((same.merge sameOver).insert "Event" events).value⟩

theorem root_fields {fields extra : Table Content} {entries laid : Entries}
    (event : Value) {root : Content}
    (found : Evaluate.tableOf entries = some fields)
    (overFound : Evaluate.tableOf laid = some extra)
    (known : (Value.mapping
      (Keyed.insert (.text "Event") event (Entries.merge entries laid))).content? = some root) :
    ∃ slots, root = .mapping slots ∧ ∀ key, key ≠ "Event" →
      Keyed.find? key slots = (Keyed.find? key extra).or (Keyed.find? key fields) := by
  have merged := Entries.table_of_merge found overFound
  obtain ⟨slots, slotsKnown, distinct, rfl⟩ := Value.fields_of_mapping known
  refine ⟨_, rfl, fun key different => ?_⟩
  rw [Content.find?_arrange distinct]
  have looked := Value.find_in_fields slotsKnown key
  have mergedLooked := Value.find_in_fields (Evaluate.table_of_eq_some.mp merged).1 key
  have skipped : Keyed.find? (.text key)
      (Keyed.insert (.text "Event") event (Entries.merge entries laid)) =
      Keyed.find? (.text key) (Entries.merge entries laid) := find_beyond_insert different event _
  rw [← Keyed.find?_overlaid (Evaluate.table_of_eq_some.mp overFound).2]
  rw [skipped] at looked
  rcases looked with ⟨absent, noSlot⟩ | ⟨value, content, present, valued, slot⟩
  · rcases mergedLooked with ⟨_, noField⟩ | ⟨_, _, otherPresent, _, _⟩
    · rw [noSlot, noField]
    · rw [absent] at otherPresent
      cases otherPresent
  · rcases mergedLooked with ⟨otherAbsent, _⟩ | ⟨_, _, otherPresent, otherValued, field⟩
    · rw [present] at otherAbsent
      cases otherAbsent
    · rw [present] at otherPresent
      cases otherPresent
      rw [valued] at otherValued
      cases otherValued
      rw [slot, field]

theorem table_of_spread {value : Value} {known : Content}
    (said : value.content? = some known) {entries : Entries} (made : value.spread = .ok entries) :
    ∃ fields, Evaluate.tableOf entries = some fields ∧ known = .mapping
      (Content.arrange fields) := by
  cases value with
  | scalar scalar => cases made
  | list items => cases made
  | mapping base =>
      cases made
      obtain ⟨fields, found, distinct, rfl⟩ := Value.fields_of_mapping said
      exact ⟨fields, Evaluate.table_of_eq_some.mpr ⟨found, distinct⟩, rfl⟩

theorem table_of_spread_filled {value : Value} {known : Content}
    (said : value.content? = some known)
    {entries : Entries} (made : value.spreadFilled = .ok entries) :
    ∃ fields, Evaluate.tableOf entries = some fields := by
  unfold Value.spreadFilled at made
  split at made
  · obtain ⟨fields, found, _⟩ := table_of_spread said made
    exact ⟨fields, found⟩
  · cases made
    exact ⟨[], Evaluate.table_of_nil⟩

theorem root_parts {data : Value} (made : rootOver overlay event content = .ok data) :
    ∃ entries laid, content.spreadFilled = .ok entries ∧ overlay.spread = .ok laid ∧
      data = .mapping (Keyed.insert (.text "Event") event (Entries.merge entries laid)) := by
  unfold rootOver at made
  simp only [bind, Except.bind, pure, Except.pure] at made
  cases spread : content.spreadFilled with
  | error failure =>
      rw [spread] at made
      cases made
  | ok entries =>
      rw [spread] at made
      dsimp only at made
      cases laid : overlay.spread with
      | error failure =>
          rw [laid] at made
          cases made
      | ok extra =>
          rw [laid] at made
          cases made
          exact ⟨entries, extra, rfl, rfl, rfl⟩

/-- Data roots of one instance over one content differ in the company's slots only. -/
theorem roots_agree (named : "Event" ∈ company.slots) {known : Content}
    (said : content.content? = some known)
    (overlays : company.Overlays host overlay)
    (others : company.Overlays host other) {data further : Value}
    {root reached : Content} (made : rootOver overlay event content = .ok data)
    (otherMade : rootOver other another content = .ok further) (rooted : data.content? = some root)
    (otherRooted : further.content? = some reached) : root.AgreeBeyond company.slots reached := by
  obtain ⟨entries, laid, spread, overSpread, rfl⟩ := root_parts made
  obtain ⟨_, otherOver, otherSpread, otherOverSpread, rfl⟩ := root_parts otherMade
  rw [spread] at otherSpread
  cases otherSpread
  obtain ⟨fields, found⟩ := table_of_spread_filled said spread
  obtain ⟨first, own, firstSaid, ownSaid, agrees⟩ := overlays
  obtain ⟨second, _, secondSaid, sameSaid, otherAgrees⟩ := others
  rw [ownSaid] at sameSaid
  cases sameSaid
  obtain ⟨extra, extraFound, rfl⟩ := table_of_spread firstSaid overSpread
  obtain ⟨otherExtra, otherExtraFound, rfl⟩ := table_of_spread secondSaid otherOverSpread
  obtain ⟨slots, rfl, looked⟩ := root_fields event found extraFound rooted
  obtain ⟨otherSlots, rfl, otherLooked⟩ := root_fields another found otherExtraFound otherRooted
  refine ⟨slots, otherSlots, rfl, rfl, fun key outside => ?_⟩
  have different : key ≠ "Event" := fun same => outside (same ▸ named)
  obtain ⟨_, _, firstMade, secondMade, same⟩ := agrees.trans otherAgrees.symm
  cases firstMade
  cases secondMade
  have overlaid := same key outside
  rw [Content.find?_arrange (Evaluate.table_of_eq_some.mp extraFound).2,
    Content.find?_arrange (Evaluate.table_of_eq_some.mp otherExtraFound).2] at overlaid
  rw [looked key different, otherLooked key different, overlaid]

theorem Company.IsOrderly.backs (orderly : company.IsOrderly)
    (present : host < company.size) {known : Content}
    (said : content.content? = some known) (overlays : company.Overlays host overlay)
    {data : Value} {root : Content}
    (made : rootOver overlay event content = .ok data) (rooted : data.content? = some root)
    {memo : Memo String String}
    (backs : Evaluate.Backs (company.formulas host root.withoutArguments) memo) :
    company.Backs host content memo := by
  intro other another further reached others otherMade otherRooted
  have agree := roots_agree orderly.slots.1 said overlays others made otherMade rooted otherRooted
  have proper := Value.is_proper_of_content rooted
  have otherProper := Value.is_proper_of_content otherRooted
  exact Evaluate.backs_of_agreeing (orderly.disregards host present root.withoutArguments)
    (Content.proper_without_arguments proper) (Content.proper_without_arguments otherProper)
    (agree.without_arguments proper otherProper) backs

end Roots

end Execute
end Interplay
