import Interplay.Proofs.Evaluate.Watch
import Interplay.Proofs.Execute.Manners
import Interplay.Proofs.Run.Settling

/-!
Signals whose callbacks are quiet.

A change of a signal calls its subscribers, which may change other signals in turn, but only such
that come later in the order of signals.  So a cascade of changes is no longer than there are
signals, and every operation on a signal settles.
-/

namespace Interplay
namespace Execute

open Run

/-- The depth of the action that callbacks go back to: the one that triggered the workflow. -/
def Dispatch.origin? : Dispatch → Option Value
  | .caller _ _ _ _ depth => .some depth
  | _ => .none

open Classical in
/-- Nested lists and host code, broken off where an action is about to run at a depth that is not
allowed, or not allowed with the action that its callbacks would go back to. -/
noncomputable def watchedRunners (setting : Setting) (allowed : Option Value → Value → Prop) : Nat →
    Runners
  | 0 => { execute := fun _ _ _ _ _ => Run.exhaust, call := fun _ => Run.exhaust }
  | fuel + 1 =>
    let below : Powers := ⟨.silent setting, watchedRunners setting allowed fuel⟩
    { execute := fun entries context event dispatch depth =>
        runList context depth
          (if allowed dispatch.origin? depth then
            forEachIndexed (runEntry setting below context event dispatch depth) 0 entries
          else Run.exhaust)
      call := Signal.runScript below.call (performEffect below) }

noncomputable def watchedPowers (setting : Setting) (allowed : Option Value → Value → Prop)
    (fuel : Nat) : Powers :=
  ⟨.silent setting, watchedRunners setting allowed fuel⟩

theorem watched_powers_of_everything (setting : Setting) (fuel : Nat) :
    watchedPowers setting (fun _ _ => True) fuel = powers setting fuel := by
  suffices same : watchedRunners setting (fun _ _ => True) fuel = runnersWith setting
      (.silent setting) fuel by
    unfold watchedPowers powers powersWith
    rw [same]
  induction fuel with
  | zero => rfl
  | succ fuel ih =>
      simp only [watchedRunners, if_true, ih]
      rfl

def Setting.fueled (setting : Setting) (effort : Effort) : Setting :=
  { setting with formulaFuel := effort.formulaFuel }

noncomputable def powersFor (setting : Setting) (effort : Effort) : Powers :=
  watchedPowers (setting.fueled effort) effort.allowed effort.fuel

/-- Formulas come to an end on machines of one kind, and so do calls of closures; such a machine
stays of its kind. -/
structure FormulasEnd (environment : Environment) (sound : Machine → Prop) : Prop where
  grounded : Machine.Grounded sound
  stacked : ∀ machine, sound machine → sound machine.newStack.2
  evaluated : ∀ formula context machine, sound machine →
    ∃ fuel, (Evaluate.evaluate environment fuel formula context (.int 0) machine).Lands
      (fun _ => sound) sound
  invoked : ∀ handle arguments machine, sound machine →
    ∃ fuel, (Evaluate.invoke (Evaluate.evaluateNode environment fuel) handle
      arguments machine).Lands (fun _ => sound) sound

abbrev SettlesCalmly {α : Type} (terms : Terms)
    (known : List (Nat × Continuation)) (sizes : Nat → Prop)
    (family : Effort → Run World α) : Prop :=
  Settles terms.ceiling (Calm terms known sizes) (fun _ => Calm terms known sizes)
    (Calm terms known sizes) family

section Worlds

variable {setting : Setting} {terms : Terms}
    {known : List (Nat × Continuation)} {sizes : Nat → Prop}

/-- A step of the machine keeps the world calm if it keeps the machine sound and its limits. -/
theorem lands_on_machine {α : Type} {world : World} {body : Run Machine α}
    (calm : Calm terms known sizes world) (lands : (body world.machine).Lands
      (fun _ machine => terms.sound machine ∧ machine.limits = world.machine.limits)
      fun machine => terms.sound machine ∧ machine.limits = world.machine.limits) :
    (onMachine body world).Lands (fun _ => Calm terms known sizes) (Calm terms known sizes) :=
  Result.lands_map_state lands (fun _ _ kept => calm.set_machine kept.1 kept.2) fun _ kept =>
    calm.set_machine kept.1 kept.2

theorem lands_bookkeeping (formulas : FormulasEnd setting.environment terms.sound)
    {α : Type} {body : Run Machine α}
    (tracks : ∀ invariant, Machine.Grounded invariant → Tracks False invariant body body)
    (world : World) (calm : Calm terms known sizes world) :
    (onMachine body world).Lands (fun _ => Calm terms known sizes) (Calm terms known sizes) := by
  refine lands_on_machine calm ?_
  have grounded : Machine.Grounded fun machine => terms.sound machine ∧
      machine.limits = world.machine.limits :=
    fun before after same kept =>
      ⟨formulas.grounded before after same kept.1, same.limits.trans kept.2⟩
  exact Result.lands_of_tracks (tracks _ grounded world.machine ⟨calm.sound, rfl⟩)

theorem settles_bookkeeping (formulas : FormulasEnd setting.environment terms.sound)
    {α : Type} {body : Run Machine α}
    (tracks : ∀ invariant, Machine.Grounded invariant → Tracks False invariant body body) :
    SettlesCalmly terms known sizes fun _ => onMachine body :=
  Settles.constant (lands_bookkeeping formulas tracks)

theorem settles_formulas {α : Type} {body : Nat → Run Machine α}
    (ends : ∀ machine, terms.sound machine →
      ∃ fuel, (body fuel machine).Lands (fun _ => terms.sound) terms.sound)
    (tracks : ∀ fuel more limits, fuel ≤ more →
      Tracks True (fun machine => machine.limits = limits) (body fuel) (body more)) :
    SettlesCalmly terms known sizes fun effort => onMachine (body effort.formulaFuel) := by
  intro world calm
  obtain ⟨fuel, lands⟩ := ends world.machine calm.sound
  refine ⟨onMachine (body fuel) world, fuel, lands_on_machine calm ?_, fun effort reaches => ?_⟩
  · have tracked := tracks fuel fuel world.machine.limits (Nat.le_refl fuel) world.machine rfl
    cases ended : body fuel world.machine with
    | done content after =>
        rw [ended] at lands tracked
        exact ⟨lands, tracked.2⟩
    | raised failure after =>
        rw [ended] at lands tracked
        exact ⟨lands, tracked.2⟩
    | exhausted =>
        rw [ended] at lands
        exact lands
  · have same := Result.eq_of_tracks
      (tracks fuel effort.formulaFuel world.machine.limits reaches.formulas world.machine rfl)
      (Result.not_exhausted_of_lands lands)
    simp only [onMachine, zoom, same]

theorem settles_evaluate (formulas : FormulasEnd setting.environment terms.sound)
    (context : Context) (formula : Option Formula) :
    SettlesCalmly terms known sizes fun effort =>
      (powersFor setting effort).evaluate context formula :=
  settles_formulas (fun machine sound => formulas.evaluated formula context machine sound)
    fun _ _ limits enough => Evaluate.evaluate_of_more_fuel
      (Evaluate.limits_steady limits) enough formula trivial _

theorem settles_invoke (formulas : FormulasEnd setting.environment terms.sound)
    (handle : Nat) (arguments : Value) :
    SettlesCalmly terms known sizes fun effort =>
      (powersFor setting effort).invoke handle arguments :=
  settles_formulas (fun machine sound => formulas.invoked handle arguments machine sound)
    fun _ _ limits enough => Evaluate.invoke_of_more_fuel
      (Evaluate.limits_steady limits) enough handle arguments

theorem settles_note (formulas : FormulasEnd setting.environment terms.sound) (note : Signal.Note) :
    SettlesCalmly terms known sizes
      fun effort => performEffect (powersFor setting effort) (.note note) := by
  refine Settles.constant fun world calm => ?_
  exact calm.modify_machine formulas.grounded ⟨rfl, rfl, rfl, rfl, fun _ => rfl⟩

theorem settles_perform (formulas : FormulasEnd setting.environment terms.sound) {own : Nat → Prop}
    (resumed : ∀ continuation, own continuation → ∀ event payload,
      SettlesCalmly terms known sizes
        fun effort => resume (powersFor setting effort) continuation event payload)
    {effect : Effect} (resumes : effect.Resumes own) :
    SettlesCalmly terms known sizes
      fun effort => performEffect (powersFor setting effort) effect := by
  cases effect with
  | note note => exact settles_note formulas note
  | advance seconds =>
      refine Settles.bind (settles_bookkeeping formulas fun _ grounded => ?_) fun _ => ?_
      · exact Machine.tracks_advance (grounded.tolerant 0) seconds
      · exact Settles.pure fun _ calm => calm
  | resume continuation event payload =>
      refine Settles.bind (resumed continuation (resumes _ _ _ rfl) event payload) fun _ => ?_
      exact Settles.pure fun _ calm => calm
  | invoke handle arguments => exact settles_invoke formulas handle arguments
  | promise => exact Settles.constant fun _ calm => calm.new_promise

end Worlds

section Signals

variable {terms : Terms} {known : List (Nat × Continuation)} {size : Nat}
  {call : Effort → Plan → Run World (Signal.Answer Effect)}

def CallsSettle (terms : Terms) (known : List (Nat × Continuation)) (size : Nat)
    (call : Effort → Plan → Run World (Signal.Answer Effect)) (signal : Nat) : Prop :=
  ∀ script, Quiet terms.order signal script →
    SettlesCalmly terms known (· = size) fun effort => call effort script

theorem settles_call {signal : Nat} (calls : CallsSettle terms known size call signal)
    {script : Plan} (quiet : Quiet terms.order signal script) :
    SettlesCalmly terms known (· = size) fun effort =>
      (do let _ ← call effort script; pure () : Run World Unit) :=
  Settles.bind (calls script quiet) fun _ => Settles.pure fun _ calm => calm

theorem calm_of_attempt {α : Type} {sizes : Nat → Prop} (outcome : Except Failure α) (world : World)
    (ended : (∀ value, outcome = .ok value → Calm terms known sizes world) ∧
      ∀ failure, outcome = .error failure → Calm terms known sizes world) : Calm
        terms known sizes world := by
  cases outcome with
  | ok value => exact ended.1 value rfl
  | error failure => exact ended.2 failure rfl

theorem settles_protected (grounded : Machine.Grounded terms.sound)
    {sizes : Nat → Prop} (message : String) {body : Effort → Run World Unit}
    (settles : SettlesCalmly terms known sizes body) :
    SettlesCalmly terms known sizes fun effort => Signal.protectedCall message (body effort) := by
  refine Settles.bind settles.attempt fun outcome => ?_
  cases outcome with
  | ok value => exact Settles.pure fun _ ended => ended.1 value rfl
  | error failure =>
      refine Settles.modify fun world ended => ?_
      exact (ended.2 failure rfl).modify_machine grounded (Machine.same_ground_modify_journal _ _)

theorem settles_react {signal : Nat} (calls : CallsSettle terms known size call signal)
    (content : Value)
    {reaction : Signal.Reaction Effect} (quiet : QuietReaction terms.order signal reaction) :
    SettlesCalmly terms known (· = size) fun effort => Signal.react
      (call effort) content reaction := by
  cases reaction with
  | call run => exact settles_call calls (quiet content)
  | feed target transform =>
      refine Settles.bind (calls _ (quiet.2 content)) fun answer => ?_
      exact settles_call calls (.write quiet.1 (.finish _))

theorem settles_release {signal : Nat} (calls : CallsSettle terms known size call signal)
    {release : Signal.Release Effect} (quiet : QuietRelease terms.order signal release) :
    SettlesCalmly terms known (· = size) fun effort => Signal.release (call effort) release := by
  cases release with
  | nothing => exact Settles.pure fun _ calm => calm
  | call run => exact settles_call calls quiet
  | destroy target => exact settles_call calls (.destroy quiet (.finish _))

theorem present_of_subscriber {number : Nat} {world : World} {subscriber : Signal.Subscriber Effect}
    (member : subscriber ∈ (world.cell number).subscribers) : number < world.cells.size := by
  by_cases inside : number < world.cells.size
  · exact inside
  · unfold Signal.Store.cell at member
    rw [Array.getElem?_eq_none (Nat.le_of_not_lt inside)] at member
    cases member

theorem present_of_on_destroy {number : Nat} {world : World} {script : Plan}
    (ending : (world.cell number).onDestroy = some script) : number < world.cells.size := by
  by_cases inside : number < world.cells.size
  · exact inside
  · unfold Signal.Store.cell at ending
    rw [Array.getElem?_eq_none (Nat.le_of_not_lt inside)] at ending
    cases ending

theorem settles_write (grounded : Machine.Grounded terms.sound) {signal : Nat}
    (calls : signal < size → CallsSettle terms known size call signal) (content : Value) :
    SettlesCalmly terms known (· = size) fun effort => Signal.write
      (call effort) signal content := by
  have stores : ∀ world, Calm terms known (· = size) world →
      Calm terms known (· = size)
        (world.modifyCell signal fun cell => { cell with content := content }) :=
    fun world calm => calm.modify_cell fun _ _ quiet =>
      ⟨quiet.reactions, quiet.releases, quiet.onDestroy⟩
  refine Settles.get_bind fun world calm => ?_
  dsimp only
  split
  · exact Settles.pure calm.still
  split
  · exact Settles.modify fun state same => stores state (calm.still state same)
  split
  · exact Settles.pure calm.still
  refine Settles.bind (Settles.modify fun state same => stores state (calm.still state same))
    fun _ => ?_
  refine Settles.for_each fun subscriber member => settles_protected grounded _ ?_
  have present : signal < size := by
    have := present_of_subscriber member
    rwa [calm.sized] at this
  exact settles_react (calls present) content ((calm.quiet_cell signal).reactions subscriber member)

theorem settles_attach (grounded : Machine.Grounded terms.sound) {signal : Nat}
    {reaction : Signal.Reaction Effect}
    {release : Signal.Release Effect} (reacts : QuietReaction terms.order signal reaction)
    (releases : QuietRelease terms.order signal release)
    (replayed : ∀ content, SettlesCalmly terms known (· = size) fun effort =>
      Signal.react (call effort) content reaction) :
    SettlesCalmly terms known (· = size)
      fun effort => Signal.attach (call effort) signal reaction release := by
  refine Settles.get_bind fun world calm => ?_
  have attached : ∀ state, state = world → Calm terms known (· = size)
      { state.modifyCell signal (fun cell =>
          { cell with subscribers := cell.subscribers ++
            [{ number := world.nextSubscription, reaction := reaction, release := release }] }) with
        nextSubscription := world.nextSubscription + 1 } := by
    rintro state rfl
    have added : Calm terms known (· = size) (state.modifyCell signal fun cell =>
        { cell with subscribers := cell.subscribers ++
          [{ number := state.nextSubscription, reaction := reaction, release := release }] }) := by
      refine calm.modify_cell
        fun cell _ quiet =>
          ⟨fun subscriber member => ?_, fun subscriber member => ?_, quiet.onDestroy⟩
      · rcases List.mem_append.mp member with old | new
        · exact quiet.reactions subscriber old
        · rw [List.mem_singleton.mp new]
          exact reacts
      · rcases List.mem_append.mp member with old | new
        · exact quiet.releases subscriber old
        · rw [List.mem_singleton.mp new]
          exact releases
    exact ⟨added.sound, added.limit, added.known, added.cells, added.based,
      added.sized, added.promises⟩
  refine Settles.bind (Settles.modify attached) fun _ => ?_
  refine Settles.bind (settles_protected grounded _ (replayed _)) fun _ => ?_
  exact Settles.pure fun _ calm => calm

theorem settles_tear_down (grounded : Machine.Grounded terms.sound)
    {signal : Nat} (message : String)
    (calls : signal < size → CallsSettle terms known size call signal) :
    SettlesCalmly terms known (· = size) fun effort => Signal.tearDown
      (call effort) signal message := by
  refine Settles.get_bind fun world calm => ?_
  have dropped : ∀ state, state = world → Calm terms known (· = size)
      (state.modifyCell signal fun cell => { cell with subscribers := [] }) := by
    rintro state rfl
    exact calm.modify_cell fun _ _ quiet =>
      ⟨fun _ member => (by cases member), fun _ member => (by cases member), quiet.onDestroy⟩
  refine Settles.bind (Settles.modify dropped) fun _ => ?_
  refine Settles.for_each fun subscriber member => settles_protected grounded _ ?_
  have present : signal < size := by
    have := present_of_subscriber member
    rwa [calm.sized] at this
  exact settles_release (calls present) ((calm.quiet_cell signal).releases subscriber member)

theorem calm_unsubscribe {sizes : Nat → Prop} {world : World} (calm : Calm terms known sizes world)
    (signal subscription : Nat) : Calm terms known sizes
    (world.removeSubscriber signal subscription) :=
  calm.modify_cell fun _ _ quiet =>
    ⟨fun subscriber member => quiet.reactions subscriber (List.mem_filter.mp member).1,
      fun subscriber member => quiet.releases subscriber (List.mem_filter.mp member).1,
      quiet.onDestroy⟩

theorem settles_destroy (grounded : Machine.Grounded terms.sound) {signal : Nat}
    (calls : signal < size → CallsSettle terms known size call signal) :
    SettlesCalmly terms known (· = size) fun effort => Signal.destroy (call effort) signal := by
  refine Settles.get_bind fun world calm => ?_
  dsimp only
  split
  · exact Settles.pure calm.still
  refine Settles.bind
    (Settles.modify fun state same => (calm.still state same).modify_cell fun _ _ quiet =>
    ⟨quiet.reactions, quiet.releases, quiet.onDestroy⟩) fun _ => ?_
  have detached : SettlesCalmly terms known (· = size) fun _ => Signal.detach
      (world.cell signal).parent := by
    cases (world.cell signal).parent with
    | none => exact Settles.pure fun _ calm => calm
    | some parent => exact Settles.modify fun _ calm => calm_unsubscribe calm parent.1 parent.2
  refine Settles.bind detached fun _ => ?_
  refine Settles.bind (settles_tear_down grounded _ calls) fun _ => ?_
  cases ending : (world.cell signal).onDestroy with
  | none => exact Settles.pure fun _ calm => calm
  | some script =>
      have present : signal < size := by
        have := present_of_on_destroy ending
        rwa [calm.sized] at this
      exact settles_protected grounded _
        (settles_call (calls present) ((calm.quiet_cell signal).onDestroy script ending))

end Signals

section Scripts

variable {setting : Setting} {terms : Terms}

noncomputable def runPlan (setting : Setting) (effort : Effort) (plan : Plan) :
    Run World (Signal.Answer Effect) :=
  Signal.runScript (powersFor setting effort).call (performEffect (powersFor setting effort))
    plan

theorem call_spends {effort : Effort} (fueled : 0 < effort.fuel) (plan : Plan) :
    (powersFor setting effort).call plan = runPlan setting effort.less plan := by
  obtain ⟨formulaFuel, fuel, allowed⟩ := effort
  obtain ⟨less, rfl⟩ : ∃ less, fuel = less + 1 := ⟨fuel - 1, by dsimp only at fueled; omega⟩
  rfl

/-- Quiet callbacks settle: each may only set off callbacks of signals that come later. -/
theorem quiet_calls_settle (formulas : FormulasEnd setting.environment terms.sound)
    (known : List (Nat × Continuation)) {size : Nat} (based : terms.order.base ≤ size)
    (steps : Nat) {floor : Nat} (near : size - terms.order.rank floor ≤ steps) :
    CallsSettle terms known size (fun effort => (powersFor setting effort).call) floor := by
  induction steps using Nat.strongRecOn generalizing floor with
  | ind steps ih =>
      -- A signal that is there and comes after the floor has a smaller number of signals after it.
      have later : ∀ {floor signal}, size - terms.order.rank floor ≤ steps →
          terms.order.rank floor < terms.order.rank signal → signal < size →
          CallsSettle terms known size (fun effort => (powersFor setting effort).call) signal := by
        intro floor signal near after present
        have inside := terms.order.rank_lt based present
        exact ih (size - terms.order.rank signal) (by omega) (Nat.le_refl _)
      have runs : ∀ {floor plan}, Quiet terms.order floor plan →
          size - terms.order.rank floor ≤ steps →
          SettlesCalmly terms known (· = size) fun effort => runPlan setting effort plan := by
        intro floor plan quiet near
        induction quiet with
        | finish answer => exact Settles.pure fun _ calm => calm
        | fail failure => exact Settles.raise fun _ calm => calm
        | read continues following =>
            refine Settles.get_bind fun world calm => ?_
            exact (following _ near).of_start calm.still
        | isDestroyed continues following =>
            refine Settles.get_bind fun world calm => ?_
            exact (following _ near).of_start calm.still
        | write after continues following =>
            exact Settles.bind (settles_write formulas.grounded (later near after) _)
              fun _ => following near
        | subscribe after notified released continues replayed _ following =>
            refine Settles.bind (settles_attach formulas.grounded notified ?_ fun content => ?_)
              fun number => following number near
            · split
              · trivial
              · exact released _ rfl
            · -- The new subscriber is called at once, whether or not its signal is there.
              have called :=
                Settles.of_less (replayed content (by omega))
                  fun effort fueled => call_spends fueled _
              exact Settles.bind called fun _ => Settles.pure fun _ calm => calm
        | unsubscribe continues following =>
            exact Settles.bind (Settles.modify fun _ calm => calm_unsubscribe calm _ _)
              fun _ => following near
        | destroy after continues following =>
            exact Settles.bind (settles_destroy formulas.grounded (later near after))
              fun _ => following near
        | clean after continues following =>
            exact Settles.bind (settles_tear_down formulas.grounded _ (later near after))
              fun _ => following near
        | @perform floor effect next resumes continues following =>
            have performed : SettlesCalmly terms known (· = size) fun effort =>
                performEffect (powersFor setting effort) effect :=
              settles_perform formulas (fun _ impossible => impossible.elim) resumes
            exact Settles.bind performed.attempt fun outcome =>
              (following outcome near).of_start (calm_of_attempt outcome)
      intro plan quiet
      exact Settles.of_less (runs quiet near) fun effort fueled => call_spends fueled plan

theorem settles_any_size {α : Type} {known : List (Nat × Continuation)} {present : Nat}
    {family : Effort → Run World α}
    (settles : ∀ size, terms.order.base ≤ size → SettlesCalmly terms known (· = size) family) :
    SettlesCalmly terms known (present ≤ ·) family := by
  intro world calm
  have grown : ∀ state, Calm terms known (· = world.cells.size) state →
      Calm terms known (present ≤ ·) state := by
    intro state after
    have sized := after.sized
    exact after.resize (by rw [sized]; exact calm.sized)
  obtain ⟨result, least, lands, reached⟩ :=
    settles world.cells.size calm.based world (calm.resize rfl)
  exact ⟨result, least, Result.lands_mono lands (fun _ => grown) grown, reached⟩

/-- Quiet callbacks settle however many signals there are. -/
theorem quiet_call_settles (formulas : FormulasEnd setting.environment terms.sound)
    {known : List (Nat × Continuation)} {present floor : Nat} {plan : Plan}
    (quiet : Quiet terms.order floor plan) :
    SettlesCalmly terms known (present ≤ ·) fun effort => (powersFor setting effort).call plan :=
  settles_any_size fun _ based => quiet_calls_settle formulas known based _
    (Nat.le_refl _) plan quiet

section Tame

variable {known : List (Nat × Continuation)}

def Newer (terms : Terms) (known : List (Nat × Continuation)) (present number : Nat)
    (world : World) : Prop :=
  present ≤ number ∧ terms.order.base ≤ number ∧ Calm terms known (number + 1 ≤ ·) world

theorem calm_of_newer {present number : Nat} {world : World}
    (newer : Newer terms known present number world) :
    Calm terms known (present ≤ ·) world := by
  refine newer.2.2.resize ?_
  have grown := newer.2.2.sized
  have later := newer.1
  omega

theorem settles_create {present : Nat} {content : Value} {onDestroy : Option Plan}
    (quiet : ∀ script, onDestroy = some script → ∀ number, present ≤ number →
      Quiet terms.order number script) :
    Settles terms.ceiling (Calm terms known (present ≤ ·)) (Newer terms known present)
      (Calm terms known (present ≤ ·))
      fun _ => Signal.create content onDestroy := by
  refine Settles.constant fun world calm => ⟨calm.sized, calm.based, ?_⟩
  exact calm.add_cell (Nat.le_refl _) fun script same => quiet script same _ calm.sized

theorem settles_attach_any_size (formulas : FormulasEnd setting.environment terms.sound)
    {present signal : Nat} {reaction : Signal.Reaction Effect} {release : Signal.Release Effect}
    (reacts : QuietReaction terms.order signal reaction)
    (releases : QuietRelease terms.order signal release) :
    SettlesCalmly terms known (present ≤ ·) fun effort =>
      Signal.attach (powersFor setting effort).call signal reaction release :=
  settles_any_size fun _ based => settles_attach formulas.grounded reacts releases fun content =>
    settles_react (quiet_calls_settle formulas known based _ (Nat.le_refl _)) content reacts

/-- A derived signal is the youngest one, so it comes after the one it follows. -/
theorem settles_derive (formulas : FormulasEnd setting.environment terms.sound)
    {present signal : Nat} (inside : signal < present) {transform : Value → Plan}
    (quiet : ∀ content, Quiet terms.order signal (transform content)) :
    Settles terms.ceiling (Calm terms known (present ≤ ·)) (Newer terms known present)
      (Calm terms known (present ≤ ·))
      fun effort => Signal.derive (powersFor setting effort).call signal transform := by
  refine Settles.get_bind fun world calm => ?_
  refine Settles.bind ((quiet_call_settles formulas (quiet _)).of_start calm.still) fun answer => ?_
  refine Settles.bind (settles_create fun _ same => by cases same) fun target => ?_
  intro world newer
  have younger : terms.order.rank signal < terms.order.rank target := by
    rw [terms.order.late target newer.2.1]
    exact terms.order.rank_lt newer.2.1 (Nat.lt_of_lt_of_le inside newer.1)
  have kept : ∀ state, Calm terms known (target + 1 ≤ ·) state →
      Newer terms known present target state :=
    fun state calm => ⟨newer.1, newer.2.1, calm⟩
  have attached : SettlesCalmly terms known (target + 1 ≤ ·) fun effort =>
      Signal.attach (powersFor setting effort).call signal
        (.feed target transform) (.destroy target) :=
    settles_attach_any_size formulas ⟨younger, quiet⟩ younger
  refine Settles.bind (attached.mono (fun _ newer => newer.2.2) (fun _ => kept)
    fun state calm => calm_of_newer (kept state calm)) (fun subscription => ?_) world newer
  refine Settles.bind
    (Settles.modify fun state newer => kept _ (newer.2.2.modify_cell fun _ _ quiet =>
    ⟨quiet.reactions, quiet.releases, quiet.onDestroy⟩)) fun _ => ?_
  exact Settles.pure fun _ newer => newer

theorem tame_plan_settles (formulas : FormulasEnd setting.environment terms.sound)
    {own : Nat → Prop} {good : Signal.Answer Effect → Prop}
    (resumed : ∀ present continuation, own continuation →
      ∀ event payload, SettlesCalmly terms known (present ≤ ·)
      fun effort => resume (powersFor setting effort) continuation event payload)
    {present : Nat} {plan : Plan} (tame : Tame terms.order own good present plan) :
    Settles terms.ceiling (Calm terms known (present ≤ ·))
      (fun answer world => good answer ∧ Calm terms known (present ≤ ·) world)
      (Calm terms known (present ≤ ·))
      fun effort => runPlan setting effort plan := by
  induction tame with
  | finish returned => exact Settles.pure fun _ calm => ⟨returned, calm⟩
  | fail failure => exact Settles.raise fun _ calm => calm
  | create destroyed continues following =>
      refine Settles.bind (settles_create destroyed) fun number world newer => ?_
      exact (following number newer.1).mono (fun _ calm => calm)
        (fun _ _ ended => ⟨ended.1, calm_of_newer ⟨newer.1, newer.2.1, ended.2⟩⟩)
        (fun _ ended => calm_of_newer ⟨newer.1, newer.2.1, ended⟩) world newer.2.2
  | read continues following =>
      refine Settles.get_bind fun world calm => ?_
      exact (following _).of_start calm.still
  | isDestroyed continues following =>
      refine Settles.get_bind fun world calm => ?_
      exact (following _).of_start calm.still
  | write continues following =>
      refine Settles.bind
        (settles_any_size fun _ based => settles_write formulas.grounded (fun _ => ?_) _)
        fun _ => following
      exact quiet_calls_settle formulas known based _ (Nat.le_refl _)
  | subscribe notified released continues following =>
      refine Settles.bind (settles_attach_any_size formulas notified ?_)
        fun number => following number
      split
      · trivial
      · exact released _ rfl
  | unsubscribe continues following =>
      exact Settles.bind (Settles.modify fun _ calm => calm_unsubscribe calm _ _) fun _ => following
  | derive inside transformed continues fails following failing =>
      refine Settles.bind (settles_derive formulas inside transformed).attempt fun outcome => ?_
      cases outcome with
      | error failure => exact (failing failure).of_start fun _ ended => ended.2 failure rfl
      | ok number =>
          intro world ended
          have newer := ended.1 number rfl
          exact (following number newer.1).mono (fun _ calm => calm)
            (fun _ _ ended => ⟨ended.1, calm_of_newer ⟨newer.1, newer.2.1, ended.2⟩⟩)
            (fun _ ended => calm_of_newer ⟨newer.1, newer.2.1, ended⟩) world newer.2.2
  | destroy continues following =>
      refine Settles.bind
        (settles_any_size fun _ based => settles_destroy formulas.grounded fun _ => ?_)
        fun _ => following
      exact quiet_calls_settle formulas known based _ (Nat.le_refl _)
  | clean continues following =>
      refine Settles.bind
        (settles_any_size fun _ based => settles_tear_down formulas.grounded _ fun _ => ?_)
        fun _ => following
      exact quiet_calls_settle formulas known based _ (Nat.le_refl _)
  | @perform present effect next resumes continues following =>
      have performed : SettlesCalmly terms known (present ≤ ·) fun effort =>
          performEffect (powersFor setting effort) effect :=
        settles_perform formulas (resumed present) resumes
      exact Settles.bind performed.attempt fun outcome => (following outcome).of_start
        (calm_of_attempt outcome)

end Tame

end Scripts

end Execute
end Interplay
