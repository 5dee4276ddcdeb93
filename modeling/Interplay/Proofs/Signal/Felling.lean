import Interplay.Proofs.Signal.Lineage

/-!
Felling of signals.

Destroying a signal destroys its children through the records that follow it, these destroy theirs,
and each of them wants to be taken off a list that its parent has given up by then.  The induction
is on the nesting of callbacks: a child is younger than its parent, so fuel for as many callbacks as
there are younger signals is enough.
-/

namespace Interplay

namespace Result

variable {σ : Type}

/-- A result without failure that leaves a state with a property, or is lost. -/
def Arrives (lost : Prop) (property : σ → Prop) : Result σ Unit → Prop
  | .done _ state => property state
  | .raised _ _ => False
  | .exhausted => lost

variable {lost unsettled : Prop} {property weaker : σ → Prop}

theorem Arrives.mono {result : Result σ Unit} (arrives : result.Arrives lost property)
    (losses : lost → unsettled)
    (states : ∀ state, property state → weaker state) : result.Arrives unsettled weaker := by
  cases result with
  | done value state => exact states state arrives
  | raised failure state => exact arrives
  | exhausted => exact losses arrives

theorem Arrives.bind {run : Run σ Unit} {next : Unit → Run σ Unit} {state : σ}
    (arrives : (run state).Arrives lost property)
    (continues : ∀ middle, property middle → (next () middle).Arrives lost weaker) :
    ((run >>= next) state).Arrives lost weaker := by
  change (Run.bind run next state).Arrives lost weaker
  unfold Run.bind
  cases ended : run state with
  | done value middle =>
      rw [ended] at arrives
      exact continues middle arrives
  | raised failure middle =>
      rw [ended] at arrives
      exact arrives.elim
  | exhausted =>
      rw [ended] at arrives
      exact arrives

theorem Arrives.ends {result : Result σ Unit}
    (arrives : result.Arrives lost property) (enough : ¬lost) :
    ∃ state, result = .done () state ∧ property state := by
  cases result with
  | done value state => exact ⟨state, rfl, arrives⟩
  | raised failure state => exact arrives.elim
  | exhausted => exact absurd arrives enough

theorem Arrives.holds {result : Result σ Unit} {state : σ} (arrives : result.Arrives lost property)
    (left : result.state? = some state) : property state := by
  cases result with
  | done value after =>
      cases left
      exact arrives
  | raised failure after => exact arrives.elim
  | exhausted => cases left

end Result

namespace Signal

open Run Store

variable {ε υ : Type} {lost : Prop} {lineage : Lineage} {pending more : Nat → Prop}

theorem arrives_protected [HasLog υ] {property : Store ε υ → Prop} (message : String)
    {body : Run (Store ε υ) Unit}
    {store : Store ε υ} (arrives : (body store).Arrives lost property) :
    (protectedCall message body store).Arrives lost property := by
  change (Run.bind (Run.attempt body) _ store).Arrives lost property
  unfold Run.bind Run.attempt
  cases ended : body store with
  | done value after =>
      rw [ended] at arrives
      exact arrives
  | raised failure after =>
      rw [ended] at arrives
      exact arrives.elim
  | exhausted =>
      rw [ended] at arrives
      exact arrives

/-- A passive callback leaves all signals, if there is fuel for any callback at all. -/
theorem arrives_passive (fuel : Nat) (message : String) {script : Script Note}
    (passive : script.IsPassive) (bench : Bench) :
    (protectedCall message (run fuel script >>= fun _ => pure ()) bench).Arrives (fuel = 0)
      fun last => ∃ host, last = { bench with host := host } := by
  cases fuel with
  | zero => exact rfl
  | succ fuel =>
      have leaves : Leaves (run (fuel + 1) script) := leaves_passive leaves_note passive
      obtain ⟨host, ended⟩ :=
        protected_of_leaves message (leaves_bind leaves fun _ => leaves_pure ()) bench
      exact ended ▸ ⟨host, rfl⟩

namespace Store

/-- A claim is given up: its record is taken off the parent. -/
def detached (store : Store ε υ) : Option (Nat × Nat) → Store ε υ
  | none => store
  | some claim => store.removeSubscriber claim.1 claim.2

variable {store : Store ε υ}

theorem detach_eq (store : Store ε υ) (claim : Option (Nat × Nat)) :
    detach claim store = .done () (store.detached claim) := by
  cases claim with
  | none => rfl
  | some claim => rfl

theorem size_detached (store : Store ε υ) (claim : Option (Nat × Nat)) :
    (store.detached claim).cells.size = store.cells.size := by
  cases claim with
  | none => rfl
  | some claim => exact size_modify_cell claim.1 _ store

theorem content_detached (store : Store ε υ) (claim : Option (Nat × Nat)) (signal : Nat) :
    ((store.detached claim).cell signal).content = (store.cell signal).content := by
  cases claim with
  | none => rfl
  | some claim => exact content_removed claim.1 claim.2 signal store

theorem destroyed_detached (store : Store ε υ) (claim : Option (Nat × Nat)) (signal : Nat) :
    ((store.detached claim).cell signal).isDestroyed = (store.cell signal).isDestroyed := by
  cases claim with
  | none => rfl
  | some claim => exact destroyed_removed claim.1 claim.2 signal store

/-- Giving up a claim changes nobody but the parent. -/
theorem cell_detached {claim : Option (Nat × Nat)} {signal : Nat}
    (apart : ∀ number, claim ≠ some (signal, number)) :
    (store.detached claim).cell signal = store.cell signal := by
  cases claim with
  | none => rfl
  | some claim =>
      rw [detached, removeSubscriber, cell_modify_cell, if_neg]
      rintro ⟨rfl, _⟩
      exact apart claim.2 rfl

theorem cell_felled {signal other : Nat} (apart : signal ≠ other) :
    (store.felled signal).cell other = store.cell other := by
  rw [felled, cell_modify_cell, if_neg fun same => apart same.1]

theorem size_felled (signal : Nat) (store : Store ε υ) :
    (store.felled signal).cells.size = store.cells.size :=
  size_modify_cell signal _ store

theorem cell_felled_self {signal : Nat} (present : signal < store.cells.size) :
    (store.felled signal).cell signal =
    { store.cell signal with isDestroyed := true, parent := none } := by
  rw [felled, cell_modify_cell, if_pos ⟨rfl, present⟩]

end Store

/-- What happens to the signals outside of a lineage that is destroyed, and what stays of those
inside. -/
structure Withers (lineage : Lineage) (root : Nat) (before after : Store ε υ) : Prop where
  size : after.cells.size = before.cells.size
  contents : ∀ signal, (after.cell signal).content = (before.cell signal).content
  lasting : ∀ signal, (before.cell signal).isDestroyed = true →
    (after.cell signal).isDestroyed = true
  outside : ∀ signal, ¬lineage.Within root signal → after.cell signal = before.cell signal

namespace Withers

variable {root : Nat} {before middle after : Store ε υ}

theorem refl (store : Store ε υ) (host : υ) :
    Withers lineage root store { store with host := host } :=
  { size := rfl, contents := fun _ => rfl, lasting := fun _ => id, outside := fun _ _ => rfl }

theorem trans (first : Withers lineage root before middle)
    (second : Withers lineage root middle after) :
    Withers lineage root before after where
  size := second.size.trans first.size
  contents := fun signal => (second.contents signal).trans (first.contents signal)
  lasting := fun signal dead => second.lasting signal (first.lasting signal dead)
  outside := fun signal apart => (second.outside signal apart).trans (first.outside signal apart)

theorem emptied (signal : Nat) (store : Store ε υ) : Withers lineage signal store
    (store.emptied signal) where
  size := size_modify_cell signal _ store
  contents := fun other => content_emptied signal other store
  lasting := fun other dead => (destroyed_emptied signal other store).trans dead
  outside := by
    intro other apart
    rw [Store.emptied, cell_modify_cell, if_neg]
    rintro ⟨rfl, _⟩
    exact apart Relation.ReflTransGen.refl

theorem of_child {child parent : Nat} (family : before.IsFamily lineage pending)
    (isChild : lineage.IsChild child parent)
    (withers : Withers lineage child (before.detached (before.cell child).parent) after) :
    Withers lineage parent before after where
  size := withers.size.trans (size_detached before _)
  contents := fun signal => (withers.contents signal).trans (content_detached before _ signal)
  lasting := fun signal dead => withers.lasting signal
    ((destroyed_detached before _ signal).trans dead)
  outside := by
    intro signal apart
    rw [withers.outside signal fun within => apart (within.tail isChild)]
    refine cell_detached fun number claim => apart ?_
    rw [family.single child parent signal isChild (family.claimed child signal number claim).1]
    exact Relation.ReflTransGen.refl

end Withers

def Fated (records : List (Subscriber ε)) (child : Nat) : Prop :=
  ∃ record ∈ records, record.release = .destroy child

/-- What destroying a live signal leads to, with fuel for so many nested callbacks. -/
def Fells (lineage : Lineage) (fuel : Nat) : Prop :=
  ∀ (pending : Nat → Prop) (signal : Nat) (bench : Bench), bench.IsFamily lineage pending →
    signal < bench.cells.size →
    (bench.cell signal).isDestroyed = false →
    (destroy (run fuel) signal bench).Arrives (fuel + signal < bench.cells.size) fun last =>
      last.IsFamily lineage pending ∧ (last.cell signal).isDestroyed = true ∧
        Withers lineage signal (bench.detached (bench.cell signal).parent) last

section Cascade

variable {fuel signal : Nat} {bench : Bench} (present : signal < bench.cells.size)

include present

/-- A signal that is destroyed is marked and taken off its parent first. -/
theorem felled_withers (family : bench.IsFamily lineage pending) :
    ((bench.felled signal).detached (bench.cell signal).parent).IsFamily lineage
        (fun child => pending child ∨ Fated (bench.cell signal).subscribers child) ∧
      Withers lineage signal (bench.detached (bench.cell signal).parent)
        ((bench.felled signal).detached (bench.cell signal).parent) := by
  have marked : (bench.felled signal).IsFamily lineage fun child =>
      pending child ∨ Fated (bench.cell signal).subscribers child := by
    refine family.mark signal (fun child => .inl) fun child link => ?_
    obtain ⟨record, member, follows, _⟩ := link.record
    exact .inr ⟨record, member, follows.1⟩
  constructor
  · cases claim : (bench.cell signal).parent with
    | none => exact marked
    | some claimed =>
        refine marked.remove fun child link again => ?_
        -- whoever is linked by the number of the signal's own record is the signal, but that claims
        -- nothing any more
        obtain ⟨_, _, _, follows⟩ := family.claimed signal claimed.1 claimed.2 claim
        obtain ⟨record, member, own, claims⟩ := link.record
        rw [subscribers_felled] at member
        have same : record.number = claimed.2 :=
          congrArg Prod.snd (Option.some.inj (claims.symm.trans again))
        obtain rfl := Release.destroy.inj (own.1.symm.trans (follows record member same).1)
        rw [cell_felled_self present] at again
        cases again
  · constructor
    case size => rw [size_detached, size_detached, size_felled]
    case contents => simp [content_detached]
    case lasting =>
      intro other dead
      rw [destroyed_detached] at dead ⊢
      rw [felled, cell_modify_cell]
      split
      · rfl
      · exact dead
    case outside =>
      intro other apart
      have others : signal ≠ other := by
        rintro rfl
        exact apart Relation.ReflTransGen.refl
      cases (bench.cell signal).parent with
      | none => exact cell_felled others
      | some claim =>
          rw [detached, detached, removeSubscriber, removeSubscriber,
            cell_modify_cell, cell_modify_cell, cell_felled others, size_felled]

variable (below : ∀ less, fuel = less + 1 → Fells lineage less)

include below

theorem release_withers (message : String) {record : Subscriber Note}
    (passive : record.release.IsPassive)
    (recorded : ∀ child, record.release = .destroy child → lineage.IsChild child signal)
    (family : bench.IsFamily lineage fun child => pending child ∨ record.release = .destroy child) :
    (protectedCall message (release (run fuel) record.release) bench).Arrives
    (fuel + signal < bench.cells.size)
      fun last => last.IsFamily lineage pending ∧ Withers lineage signal bench last := by
  cases released : record.release with
  | nothing =>
      rw [released] at family
      exact ⟨family.settle fun child awaited => .inl (awaited.resolve_right nofun),
        Withers.refl bench bench.host⟩
  | call script =>
      rw [released] at family passive
      apply (arrives_passive fuel message passive bench).mono
      case losses =>
        rintro rfl
        simpa using present
      case states =>
        rintro last ⟨host, rfl⟩
        exact ⟨(family.settle fun child awaited => .inl (awaited.resolve_right nofun)).rewrite
          (Rewritten.host bench host), Withers.refl bench host⟩
  | destroy child =>
      rw [released] at family
      have isChild := recorded child released
      obtain ⟨younger, made⟩ := family.made child signal isChild
      apply arrives_protected
      cases fuel with
      | zero => exact (by omega : 0 + signal < bench.cells.size)
      | succ less =>
          change (((destroy (run less) child >>= fun _ => pure (.value .null)) >>=
            fun (_ : Answer Note) => pure ()) bench).Arrives _ _
          rw [Run.bind_assoc]
          have settled : ∀ other : Nat, ∀ last : Bench, (last.cell child).isDestroyed = true →
              (pending other ∨ Release.destroy (ε := Note) child = .destroy other) →
                pending other ∨ (last.cell other).isDestroyed = true := by
            intro other last dead awaited
            refine awaited.imp_right fun same => ?_
            cases same
            exact dead
          cases life : (bench.cell child).isDestroyed with
          | true =>
              have idle : destroy (run less) child bench = .done () bench := by
                change (if (bench.cell child).isDestroyed then _ else _ : Run Bench Unit) bench = _
                rw [life]
                rfl
              rw [bind_of_done idle]
              exact ⟨family.settle fun other => settled other bench life,
                Withers.refl bench bench.host⟩
          | false =>
              apply Result.Arrives.bind
              · apply (below less rfl _ child bench family made life).mono
                · intro short
                  omega
                · exact fun last => id
              · rintro last ⟨kept, dead, withers⟩
                exact ⟨kept.settle fun other => settled other last dead,
                  Withers.of_child family isChild withers⟩

/-- Tearing down records of a signal, in order. -/
theorem releases_wither (message : String) {records : List (Subscriber Note)}
    (passive : ∀ record ∈ records, record.release.IsPassive)
    (recorded : ∀ record ∈ records, ∀ child, record.release = .destroy child →
      lineage.IsChild child signal)
    (family : bench.IsFamily lineage fun child => pending child ∨ Fated records child) :
    (Run.forEach (fun record => protectedCall message (release (run fuel) record.release)) records
      bench).Arrives (fuel + signal < bench.cells.size) fun last =>
        last.IsFamily lineage pending ∧ Withers lineage signal bench last := by
  induction records generalizing bench with
  | nil =>
      exact ⟨family.settle fun child awaited => .inl (awaited.resolve_right nofun),
        Withers.refl bench bench.host⟩
  | cons record rest ih =>
      rw [List.forall_mem_cons] at passive recorded
      have first : bench.IsFamily lineage fun child =>
          (pending child ∨ Fated rest child) ∨ record.release = .destroy child := by
        refine family.settle fun child awaited => .inl ?_
        rcases awaited with awaited | ⟨other, member, released⟩
        · exact .inl (.inl awaited)
        · rcases List.mem_cons.mp member with rfl | later
          · exact .inr released
          · exact .inl (.inr ⟨other, later, released⟩)
      apply Result.Arrives.bind (release_withers present below message passive.1 recorded.1 first)
      rintro middle ⟨kept, withers⟩
      have continued := ih (withers.size.symm ▸ present) passive.2 recorded.2 kept
      apply continued.mono
      · rw [withers.size]
        exact id
      · exact fun last following => ⟨following.1, withers.trans following.2⟩

theorem tear_down_withers (message : String)
    (family : bench.IsFamily lineage fun child => pending child ∨
      Fated (bench.cell signal).subscribers child) :
    (tearDown (run fuel) signal message bench).Arrives
      (fuel + signal < bench.cells.size) fun last =>
      last.IsFamily lineage pending ∧ Withers lineage signal bench last := by
  have dropped : (bench.emptied signal).IsFamily lineage fun child =>
      pending child ∨ Fated (bench.cell signal).subscribers child := by
    refine family.drop signal (fun child => id) fun child link => ?_
    obtain ⟨record, member, follows, _⟩ := link.record
    exact .inr ⟨record, member, follows.1⟩
  have size : (bench.emptied signal).cells.size = bench.cells.size :=
    size_modify_cell signal _ bench
  have torn := releases_wither (size.symm ▸ present) below message
    (family.passive signal).releases (family.recorded signal) dropped
  rw [size] at torn
  exact torn.mono id fun last following =>
    ⟨following.1, (Withers.emptied signal bench).trans following.2⟩

theorem destroy_withers (family : bench.IsFamily lineage pending)
    (alive : (bench.cell signal).isDestroyed = false) :
    (destroy (run fuel) signal bench).Arrives (fuel + signal < bench.cells.size) fun last =>
      last.IsFamily lineage pending ∧ (last.cell signal).isDestroyed = true ∧
        Withers lineage signal (bench.detached (bench.cell signal).parent) last := by
  obtain ⟨awaiting, marked⟩ := felled_withers present family
  have size : ((bench.felled signal).detached (bench.cell signal).parent).cells.size =
      bench.cells.size := by
    rw [size_detached, size_felled]
  have dead : (((bench.felled signal).detached (bench.cell signal).parent).cell
      signal).isDestroyed = true := by
    rw [destroyed_detached, cell_felled_self present]
  have own : (((bench.felled signal).detached (bench.cell signal).parent).cell signal).subscribers =
      (bench.cell signal).subscribers := by
    rw [cell_detached, subscribers_felled]
    intro number claim
    obtain ⟨younger, _⟩ := family.made signal signal (family.claimed signal signal number claim).1
    exact Nat.lt_irrefl _ younger
  have torn := tear_down_withers (size.symm ▸ present) below "Error in signal destroy callback"
    (by rw [own]; exact awaiting)
  rw [size] at torn
  change ((if (bench.cell signal).isDestroyed then _ else _ : Run Bench Unit) bench).Arrives _ _
  rw [alive, if_neg Bool.false_ne_true]
  change ((detach (bench.cell signal).parent >>= fun _ => _) (bench.felled signal)).Arrives _ _
  rw [bind_of_done (detach_eq _ _)]
  apply Result.Arrives.bind torn
  rintro middle ⟨kept, withers⟩
  have gone : (middle.cell signal).isDestroyed = true := withers.lasting signal dead
  cases attached : (bench.cell signal).onDestroy with
  | none => exact ⟨kept, gone, marked.trans withers⟩
  | some script =>
      apply (arrives_passive fuel _ ((family.passive signal).onDestroy script attached) middle).mono
      case losses =>
        rintro rfl
        simpa using present
      case states =>
        rintro last ⟨host, rfl⟩
        exact ⟨kept.rewrite (Rewritten.host middle host), gone,
          (marked.trans withers).trans (Withers.refl middle host)⟩

end Cascade

theorem destroying_fells (lineage : Lineage) (fuel : Nat) : Fells lineage fuel := by
  induction fuel with
  | zero =>
      exact fun pending signal bench family present alive =>
        destroy_withers present nofun family alive
  | succ fuel ih =>
      intro pending signal bench family present alive
      refine destroy_withers present (fun less same => ?_) family alive
      obtain rfl := Nat.succ.inj same
      exact ih

section Families

variable {fuel signal number : Nat} {before after : Bench}

theorem destroy_of_dead (fuel : Nat) (dead : (before.cell signal).isDestroyed = true) :
    destroy (run fuel) signal before = .done () before := by
  change (if (before.cell signal).isDestroyed then _ else _ : Run Bench Unit) before = _
  rw [dead]
  rfl

theorem family_of_attach (family : before.IsFamily lineage pending) {reaction : Reaction Note}
    {release : Release Note}
    (reacts : reaction.IsPassive) (releases : release.IsPassive)
    (plain : ∀ child, release ≠ .destroy child)
    (ended : attach (run fuel) signal reaction release before = .done number after) :
    after.IsFamily (lineage.handed signal number) pending := by
  let subscriber : Subscriber Note :=
    { number := before.nextSubscription, reaction := reaction, release := release }
  have joined : (before.joined signal subscriber).IsFamily lineage pending :=
    family.join rfl reacts releases fun child released => absurd released (plain child)
  obtain ⟨rfl, rewritten⟩ := attach_rewrites joined.passive reacts ended
  apply (joined.rewrite rewritten).hand
  case given =>
    rw [rewritten.next]
    exact Nat.lt_succ_self _
  case unclaimed =>
    intro child claim
    rw [rewritten.parent, parent_joined] at claim
    exact Nat.lt_irrefl _ (family.claimed child signal _ claim).2.1

theorem family_of_derive (family : before.IsFamily lineage pending)
    (alive : before.isAlive signal = true)
    {transform : Value → Script Note} (passive : ∀ content, (transform content).IsPassive)
    (ended : derive (run fuel) signal transform before = .done number after) :
    after.IsFamily (lineage.descended number signal) pending := by
  change (run fuel (transform (before.cell signal).content) >>= fun answer => _) before = _ at ended
  obtain ⟨answer, told, called, ended⟩ := done_of_bind ended
  obtain ⟨child, added, created, ended⟩ := done_of_bind ended
  cases created
  obtain ⟨subscription, linked, attached, ended⟩ := done_of_bind ended
  cases ended
  have rewritten : before.Rewritten told :=
    Result.holds_of_tracks (rewrites_passive fuel (passive _) before (Rewritten.refl before))
      (congrArg Result.state? called)
  obtain ⟨present, living⟩ := present_of_alive alive
  have older : signal < told.cells.size := rewritten.size.symm ▸ present
  have kept := family.rewrite rewritten
  have recorded := kept.graft older answer.content passive
  obtain ⟨rfl, rewriting⟩ := attach_rewrites recorded.passive passive attached
  have cell : ((told.addCell (Cell.fresh answer.content none)).2.joined signal
      (told.heir transform)).cell signal =
      { told.cell signal with subscribers := (told.cell signal).subscribers ++
        [told.heir transform] } := by
    have grown : signal < (told.addCell (Cell.fresh answer.content none)).2.cells.size :=
      Nat.lt_of_lt_of_eq (Nat.lt_succ_of_lt older) (Array.size_push _).symm
    rw [cell_joined, if_pos ⟨rfl, grown⟩, cell_add_cell, if_neg (Nat.ne_of_lt older)]
  have member : told.heir transform ∈ (linked.cell signal).subscribers := by
    rw [rewriting.subscribers]
    exact cell.symm ▸ List.mem_append_right _ List.mem_cons_self
  have free : (signal, (told.heir transform).number) ∉
      (lineage.descended told.cells.size signal).handles :=
    fun handle => Nat.lt_irrefl _ (kept.handled _ _ handle)
  have living : (linked.cell signal).isDestroyed = false := by
    rw [rewriting.is_destroyed]
    exact cell.symm ▸ (rewritten.is_destroyed signal).trans living
  exact (recorded.rewrite rewriting).adopt List.mem_cons_self living member
    ⟨rfl, transform, rfl⟩ free

/-- Deriving a signal fails only if the transformation does. -/
theorem transform_of_derive {transform : Value → Script Note} {failure : Failure}
    (ended : derive (run fuel) signal transform before = .raised failure after) :
    run fuel (transform (before.cell signal).content) before = .raised failure after := by
  change (run fuel (transform (before.cell signal).content) >>= fun answer => _) before = _ at ended
  rcases raised_of_bind ended with failed | ⟨answer, told, called, ended⟩
  · exact failed
  obtain ⟨child, added, created, ended⟩ := (raised_of_bind ended).resolve_left nofun
  rcases raised_of_bind ended with failed | ⟨subscription, linked, attached, ended⟩
  · rcases (raised_of_bind failed).resolve_left nofun with ⟨_, state, _, failed⟩
    obtain ⟨_, joined, _, failed⟩ := (raised_of_bind failed).resolve_left nofun
    rcases raised_of_bind failed with failed | ⟨_, _, _, ended⟩
    · exact absurd failed (protected_never_fails _ _ _ _ _)
    · cases ended
  · cases ended

/-- Whatever operations lead to, children and parents fit together. -/
theorem family_of_reached (reached : Reached lineage before) :
    before.IsFamily lineage fun _ => False := by
  induction reached with
  | start =>
      exact
        { passive := fun signal => ⟨nofun, nofun, nofun⟩
          distinct := fun signal => List.nodup_nil
          numbered := nofun
          made := nofun
          single := nofun
          recorded := nofun
          handled := nofun
          claimed := nofun
          linked := nofun }
  | created reached passive ended ih =>
      cases ended
      exact ih.add _ passive
  | @wrote _ before after fuel signal content reached left ih =>
      exact ih.rewrite (Result.holds_of_tracks (rewrites_write ih.passive fuel signal content before
        (Rewritten.refl before)) left)
  | @updated _ before after fuel signal transform reached passive left ih =>
      exact ih.rewrite
        (Result.holds_of_tracks (rewrites_update ih.passive fuel signal passive before
        (Rewritten.refl before)) left)
  | subscribed reached alive notified released ended ih =>
      have reacts : Reaction.IsPassive (.call _) := notified
      exact family_of_attach ih reacts (Release.passive_of_teardown released)
        (Release.teardown_destroys_nothing _) ended
  | @unsubscribed _ before after signal number reached held ended ih =>
      cases ended
      refine ih.remove fun child _ claim => ?_
      exact (ih.claimed child signal number claim).2.2.1 held
  | derived reached alive passive ended ih => exact family_of_derive ih alive passive ended
  | failed reached alive passive ended ih =>
      exact ih.rewrite (Result.holds_of_tracks (rewrites_passive _ (passive _) _ (Rewritten.refl _))
        (congrArg Result.state? (transform_of_derive ended)))
  | @destroyed _ before after fuel signal reached present left ih =>
      cases life : (before.cell signal).isDestroyed with
      | true =>
          rw [destroy_of_dead fuel life] at left
          cases left
          exact ih
      | false => exact ((destroying_fells _ fuel _ signal before ih present life).holds left).1
  | @cleaned lineage before after fuel signal reached present left ih =>
      have awaiting : before.IsFamily lineage fun child => False ∨
          Fated (before.cell signal).subscribers child :=
        ih.settle fun child => False.elim
      exact ((tear_down_withers present (fun less _ => destroying_fells lineage less)
        _ awaiting).holds left).1

end Families

/-- What destroying a signal does to all signals. -/
structure Felled (lineage : Lineage) (signal : Nat) (before after : Bench) : Prop where
  size : after.cells.size = before.cells.size
  destroyed : ∀ other, (after.cell other).isDestroyed = true ↔
    (before.cell other).isDestroyed = true ∨ lineage.Within signal other
  contents : ∀ other, (after.cell other).content = (before.cell other).content
  /-- The record of the signal itself is gone from its parent, and no other. -/
  withdrawn : ∀ parent, lineage.IsChild signal parent → ∃ earlier own later,
    (before.cell parent).subscribers = earlier ++ own :: later ∧ own.Follows signal ∧
      (before.cell signal).parent = some (parent, own.number) ∧
      (after.cell parent).subscribers = earlier ++ later
  spared : ∀ other, ¬lineage.Within signal other → ¬lineage.IsChild signal other →
    (after.cell other).subscribers = (before.cell other).subscribers

theorem root_le_of_within {store : Store ε υ}
    (family : store.IsFamily lineage pending) {root signal : Nat}
    (within : lineage.Within root signal) : root ≤ signal := by
  induction within using Relation.ReflTransGen.head_induction_on with
  | refl => exact Nat.le_refl _
  | head isChild _ ih => exact Nat.le_trans ih (Nat.le_of_lt (family.made _ _ isChild).1)

/-- Taking off one of several subscribers with different numbers. -/
theorem filter_number {own : Subscriber ε} {earlier later : List (Subscriber ε)}
    (distinct : ((earlier ++ own :: later).map Subscriber.number).Nodup) :
    (earlier ++ own :: later).filter (fun subscriber => subscriber.number != own.number) =
    earlier ++ later := by
  rw [List.map_append, List.map_cons, List.nodup_append, List.nodup_cons] at distinct
  obtain ⟨_, ⟨absent, _⟩, apart⟩ := distinct
  have before : ∀ subscriber ∈ earlier, (subscriber.number != own.number) = true :=
    fun subscriber member =>
      bne_iff_ne.mpr (apart _ (List.mem_map_of_mem member) _ List.mem_cons_self)
  have behind : ∀ subscriber ∈ later, (subscriber.number != own.number) = true :=
    fun subscriber member => bne_iff_ne.mpr fun same => absent (same ▸ List.mem_map_of_mem member)
  rw [List.filter_append, List.filter_cons, List.filter_eq_self.mpr before,
    List.filter_eq_self.mpr behind]
  simp

/-- Destroying a live signal destroys what was derived from it, and takes it off its parent. -/
theorem destruction_fells_lineage {bench : Bench} (reached : Reached lineage bench) {signal : Nat}
    (alive : bench.isAlive signal = true) {fuel : Nat} (enough : bench.cells.size ≤ fuel) :
    ∃ last, destroy (run fuel) signal bench = .done () last ∧ Felled lineage signal bench last := by
  have family := family_of_reached reached
  obtain ⟨present, life⟩ := present_of_alive alive
  obtain ⟨last, ended, kept, dead, withers⟩ :=
    (destroying_fells lineage fuel _ signal bench family present life).ends (by omega)
  refine ⟨last, ended, ?_⟩
  constructor
  case size => rw [withers.size, size_detached]
  case contents => exact fun other => (withers.contents other).trans (content_detached bench _ other)
  case destroyed =>
    intro other
    constructor
    · intro gone
      by_cases within : lineage.Within signal other
      · exact .inr within
      · rw [withers.outside other within, destroyed_detached] at gone
        exact .inl gone
    · rintro (before | within)
      · exact withers.lasting other ((destroyed_detached bench _ other).trans before)
      · exact kept.dead_of_within within dead
  case withdrawn =>
    intro parent isChild
    obtain ⟨younger, made⟩ := family.made signal parent isChild
    have apart : ¬lineage.Within signal parent :=
      fun within => Nat.not_le_of_lt younger (root_le_of_within family within)
    have link := (family.linked signal parent isChild life).resolve_left id
    obtain ⟨own, member, follows, claim⟩ := link.record
    obtain ⟨earlier, later, listed⟩ := List.append_of_mem member
    refine ⟨earlier, own, later, listed, follows, claim, ?_⟩
    have distinct := family.distinct parent
    rw [numbers, listed] at distinct
    rw [withers.outside parent apart, claim, detached, removeSubscriber, cell_modify_cell,
      if_pos ⟨rfl, Nat.lt_trans younger made⟩, listed, filter_number distinct]
  case spared =>
    intro other apart strange
    rw [withers.outside other apart, cell_detached]
    exact fun number claim => strange (family.claimed signal other number claim).1

/-- A signal with two signals derived from it, of which the first one has a derived signal
itself. -/
def grove : Lineage :=
  { derivations := [(3, 0), (2, 1), (1, 0)], handles := [(0, 3)] }

theorem grove_is_felled : ∃ bench, Reached grove bench ∧ bench.isAlive 1 =
    true ∧ bench.cells.size ≤ 4 ∧
    ∃ last, destroy (run 4) 1 bench = .done () last ∧ Felled grove 1 bench last := by
  have silent : ∀ content, (Script.ofValue content : Script Note).IsPassive :=
    fun content => .finish _
  have root := @Reached.created .empty .empty _ (.int 0) none _ .start nofun rfl
  have first := @Reached.derived _ _ _ 2 0 _ _ root rfl silent rfl
  have second := @Reached.derived _ _ _ 2 1 _ _ first rfl silent rfl
  have third := @Reached.derived _ _ _ 2 0 _ _ second rfl silent rfl
  have watched := @Reached.subscribed _ _ _ 2 0 _ _ none third rfl silent nofun rfl
  have written : Reached grove _ := @Reached.wrote _ _ _ 4 0 (.int 1) watched rfl
  exact ⟨_, written, rfl, Nat.le_refl 4, destruction_fells_lineage written rfl (Nat.le_refl 4)⟩

end Signal
end Interplay
