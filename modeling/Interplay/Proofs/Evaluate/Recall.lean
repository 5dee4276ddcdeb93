import Interplay.Proofs.Evaluate.Denotation

/-!
Calls that may be answered from a memo.

An entry of a memo is backed by the meaning of its formula for arguments of its fingerprint, and
arguments of one fingerprint say the same.  So a hit answers with what computing the call would
give, and a result that was computed without a fault may be stored.  What else is in the memo, and
what has been evicted, does not matter.
-/

namespace Interplay

def Machine.memorize (host : Nat) (name fingerprint : String) (content : Value)
    (machine : Machine) : Machine :=
  machine.modifyHost host fun state =>
    { state with memo := state.memo.map (Memo.store name fingerprint content) }

namespace Evaluate

section Memos

variable {setting : Setting} {memo : Memo String String} {name fingerprint : String} {value : Value}

theorem backs_empty (setting : Setting) : Backs setting Memo.empty :=
  fun _ _ _ found => by cases found

/-- Storing evicts the entry of the same name and leaves those of other names. -/
theorem backs_store (backs : Backs setting memo) (backed : Backed setting name fingerprint value) :
    Backs setting (memo.store name fingerprint value) := by
  intro other print content found
  by_cases equal : other = name
  · rw [equal] at found ⊢
    unfold Memo.store at found
    rw [Keyed.find?_insert_self] at found
    cases found
    exact backed
  · unfold Memo.store at found
    rw [Keyed.find?_insert_of_ne _ _ equal] at found
    exact backs other print content found

theorem backed_of_lookup (backs : Backs setting memo)
    (hit : memo.lookup name fingerprint = some value) :
    Backed setting name fingerprint value := by
  unfold Memo.lookup at hit
  split at hit
  · rename_i stored content found
    split at hit
    · rename_i same
      cases hit
      rw [← eq_of_beq same]
      exact backs name stored value found
    · cases hit
  · cases hit

/-- What a memo holds for a fingerprint is the meaning of the call with arguments of this
fingerprint. -/
theorem content_of_backed {definition : ComponentFormula} {fields : Table Content} {inner : Content}
    (backed : Backed setting name fingerprint value)
    (known : Meaning.definition? setting name = some definition)
    (printed : (Content.mapping (Content.arrange fields)).fingerprint? = some fingerprint)
    (made : setting.root.withArguments fields = some inner) :
    ∃ content, value.content? = some content ∧
      Meaning.operand (meaning setting inner) definition.formula = some content := by
  obtain ⟨found, arguments, other, content, present, _, otherPrinted, otherMade, valued, meant⟩ :=
    backed
  rw [known] at present
  cases present
  have sameArguments : Content.arrange arguments = Content.arrange fields := by
    have same := Content.fingerprint_injective otherPrinted printed
    injection same
  have sameData : setting.root.withArguments arguments = setting.root.withArguments fields := by
    unfold Content.withArguments
    rw [sameArguments]
  rw [sameData, made] at otherMade
  cases otherMade
  exact ⟨content, valued, meant⟩

end Memos

section Keeping

variable {setting : Setting} {host : Nat} {name fingerprint : String} {expected : Option Content}

theorem record_look (setting : Setting) (host : Nat) (name : String)
    (hit : Bool) (machine : Machine) :
    ∃ after, Machine.onMetrics host () (Metrics.recordCache (.text name) hit) machine = .done
      () after ∧
      Onward setting host machine after ∧ after.faults host = machine.faults host := by
  unfold Machine.onMetrics
  cases taken : (machine.host host).metrics with
  | none => exact ⟨machine, rfl, .refl machine, rfl⟩
  | some metrics =>
      obtain ⟨looked, recorded, enabled, timings⟩ := Metrics.record_cache_timings name hit metrics
      dsimp only
      rw [recorded]
      refine ⟨_, rfl, ?_⟩
      have present := Machine.host_of_metrics taken
      have changed :=
        Machine.host_modify_host_self present fun state => { state with metrics := some looked }
      have counted :
          (machine.modifyHost host fun state => { state with metrics := some looked }).faults host =
          machine.faults host := by
        unfold Machine.faults
        rw [changed]
      refine ⟨onward_modify_host (fun _ different => same_books_of_ne different machine _) ?_
        counted.ge ?_ ?_, counted⟩
      · rw [changed]
        unfold HostState.timings
        rw [taken, Option.map_some, Option.map_some, enabled, timings]
      · rw [changed]
      · rw [changed]
        exact id

theorem onward_memorize {value : Value} (backed : Backed setting name fingerprint value) (machine : Machine) :
    Onward setting host machine (machine.memorize host name fingerprint value) ∧
      (machine.memorize host name fingerprint value).faults host = machine.faults host := by
  have kept : (machine.memorize host name fingerprint value).host host = machine.host host ∨
      (machine.memorize host name fingerprint value).host host =
        { machine.host host with memo := (machine.host host).memo.map (Memo.store name fingerprint value) } := by
    rcases Machine.host_modify_host_cases host host machine fun state =>
        { state with memo := state.memo.map (Memo.store name fingerprint value) } with same | ⟨_, changed⟩
    · exact .inl same
    · exact .inr changed
  have counted : (machine.memorize host name fingerprint value).faults host = machine.faults host := by
    unfold Machine.faults
    rcases kept with same | changed
    · rw [same]
    · rw [changed]
  refine ⟨onward_modify_host (fun _ different => same_books_of_ne different machine _) ?_ counted.ge ?_ ?_, counted⟩
  · rcases kept with same | changed
    · exact congrArg HostState.timings same
    · exact (congrArg HostState.timings changed).trans rfl
  · rcases kept with same | changed
    · exact congrArg (fun state => state.memo.isSome) same
    · exact (congrArg (fun state => state.memo.isSome) changed).trans Option.isSome_map
  · intro backs later present
    change ((machine.memorize host name fingerprint value).host host).memo = some later at present
    rcases kept with same | changed
    · rw [same] at present
      exact backs later present
    · rw [changed] at present
      obtain ⟨earlier, held, rfl⟩ := Option.map_eq_some_iff.mp present
      exact backs_store (backs earlier held) backed

def keeping (host : Nat) (name fingerprint : String) (run : Run Machine Value) :
    Run Machine Value := do
  let before ← Run.get
  let content ← run
  let after ← Run.get
  if (after.host host).sink.total = (before.host host).sink.total then
    Run.modify (Machine.memorize host name fingerprint content)
  pure content

theorem keeping_of_done {run : Run Machine Value} {machine after : Machine} {content : Value}
    (ended : run machine = .done content after) :
    keeping host name fingerprint run machine =
      .done content
        (if after.faults host = machine.faults host then
          after.memorize host name fingerprint content
        else after) := by
  unfold Machine.faults
  simp only [keeping, bind, Run.bind, Run.get, ended]
  split
  · rfl
  · rfl

theorem lawful_keeping {run : Run Machine Value} {machine : Machine}
    (lawful : Lawful setting host Value.content? expected machine (run machine))
    (backing : ∀ value content, value.content? = some content → expected = some content →
      Backed setting name fingerprint value) :
    Lawful setting host Value.content? expected machine
      (keeping host name fingerprint run machine) := by
  cases ended : run machine with
  | exhausted =>
      have lost : keeping host name fingerprint run machine = .exhausted := by
        simp only [keeping, bind, Run.bind, Run.get, ended]
      rw [lost]
      trivial
  | raised failure after =>
      have failed : keeping host name fingerprint run machine = .raised failure after := by
        simp only [keeping, bind, Run.bind, Run.get, ended]
      rw [failed]
      rw [ended] at lawful
      exact lawful
  | done value after =>
      rw [keeping_of_done ended]
      rw [ended] at lawful
      obtain ⟨onward, content, known, meant⟩ := lawful
      split
      · rename_i clean
        obtain ⟨stored, same⟩ : Onward setting host after _ ∧ _ :=
          onward_memorize (backing value content known (meant clean)) after
        exact ⟨onward.trans stored, content, known, fun _ => meant clean⟩
      · exact ⟨onward, content, known, meant⟩

end Keeping

section Calls

variable {setting : Setting} {environment : Environment} {host : Nat}
  {evaluator : Evaluator} {inner : Content}
  {context counterpart : Context} {definition : ComponentFormula} {fields : Table Content}
  {name fingerprint : String}

/-- A call of a definition of the component, once its arguments are known. -/
def recallOrCompute (host : Nat) (evaluator : Evaluator) (context : Context)
    (depth : Value) (name key : String)
    (fingerprint : Option String) (definition : ComponentFormula) : Run Machine Value := do
  let machine ← Run.get
  match definition.memoize, (machine.host host).memo, fingerprint with
  | true, some memo, some print =>
    evaluateMemoized evaluator context depth name key print memo definition.formula
  | _, _, fingerprint => evaluateGuarded evaluator context depth key fingerprint definition.formula

/-- A call is computed, or else it is memoized and its host has a memo. -/
theorem recall_or_compute_cases (host : Nat) (evaluator : Evaluator)
    (context : Context) (depth : Value) (name key : String)
    (fingerprint : Option String) (definition : ComponentFormula) (machine : Machine) :
    recallOrCompute host evaluator context depth name key fingerprint definition machine =
        evaluateGuarded evaluator context depth key fingerprint definition.formula machine ∨
      ∃ memo print, definition.memoize = true ∧ (machine.host host).memo = some memo ∧
        fingerprint = some print ∧
        recallOrCompute host evaluator context depth name key fingerprint definition machine =
          evaluateMemoized evaluator context depth name key print memo
            definition.formula machine := by
  unfold recallOrCompute
  cases memoize : definition.memoize with
  | false => exact .inl (by simp only [bind, Run.bind, Run.get])
  | true =>
      cases held : (machine.host host).memo with
      | none => exact .inl (by simp only [bind, Run.bind, Run.get, held])
      | some memo =>
          cases fingerprint with
          | none => exact .inl (by simp only [bind, Run.bind, Run.get, held])
          | some print =>
              exact .inr ⟨memo, print, rfl, rfl, rfl, by simp only [bind, Run.bind, Run.get, held]⟩

theorem evaluate_memoized_hit {memo : Memo String String} {content : Value}
    {machine looked : Machine}
    (depth : Value) (key : String) (body : Option Formula)
    (hit : memo.lookup name fingerprint = some content)
    (recorded : Machine.onMetrics context.host () (Metrics.recordCache (.text name) true) machine =
      .done () looked) :
    evaluateMemoized evaluator context depth name key fingerprint memo body machine =
      .done content looked := by
  unfold evaluateMemoized
  rw [hit]
  exact Run.bind_of_done recorded

theorem evaluate_memoized_miss {memo : Memo String String} {machine looked : Machine}
    (depth : Value) (key : String) (body : Option Formula)
    (missed : memo.lookup name fingerprint = none)
    (recorded : Machine.onMetrics context.host () (Metrics.recordCache (.text name) false) machine =
      .done () looked) :
    evaluateMemoized evaluator context depth name key fingerprint memo body machine =
      keeping context.host name fingerprint
        (evaluateGuarded evaluator context depth key (some fingerprint) body) looked := by
  unfold evaluateMemoized
  rw [missed]
  exact Run.bind_of_done recorded

theorem backed_of_meaning (known : Meaning.definition? setting name = some definition)
    (memoized : definition.memoize = true)
    (printed : (Content.mapping (Content.arrange fields)).fingerprint? = some fingerprint)
    (made : setting.root.withArguments fields = some inner) :
    ∀ value content, value.content? = some content →
      Meaning.operand (meaning setting inner) definition.formula = some content →
        Backed setting name fingerprint value :=
  fun _ content valued meant =>
    ⟨definition, fields, inner, content, known, memoized, printed, made, valued, meant⟩

/-- A memoized call gives what it means, whether it is answered from the memo or computed. -/
theorem lawful_memoized {memo : Memo String String} {machine : Machine} {run : Run Machine Value}
    (depth : Value) (key : String)
    (faithful : Faithful setting context.host Value.content?
      (Meaning.operand (meaning setting inner) definition.formula)
      (evaluateGuarded evaluator context depth key (some fingerprint) definition.formula) run)
    (known : Meaning.definition? setting name = some definition)
      (memoized : definition.memoize = true)
    (printed : (Content.mapping (Content.arrange fields)).fingerprint? = some fingerprint)
    (made : setting.root.withArguments fields = some inner)
      (sound : Sound setting context.host machine)
    (held : (machine.host context.host).memo = some memo) :
    Lawful setting context.host Value.content?
      (Meaning.operand (meaning setting inner) definition.formula) machine
      (evaluateMemoized evaluator context depth name key fingerprint memo
        definition.formula machine) := by
  cases looking : memo.lookup name fingerprint with
  | some content =>
      obtain ⟨looked, recorded, onward, _⟩ := record_look setting context.host name true machine
      obtain ⟨meant, valued, agreed⟩ :=
        content_of_backed (backed_of_lookup (sound.backs memo held) looking) known printed made
      rw [evaluate_memoized_hit depth key definition.formula looking recorded]
      exact ⟨onward, meant, valued, fun _ => agreed⟩
  | none =>
      obtain ⟨looked, recorded, onward, _⟩ := record_look setting context.host name false machine
      rw [evaluate_memoized_miss depth key definition.formula looking recorded]
      refine lawful_after onward ?_ fun _ _ => id
      exact lawful_keeping (faithful.lawful looked (onward.sound sound))
        (backed_of_meaning known memoized printed made)

/-- Beside a call that is computed without a memo, a memoized one gives the same. -/
theorem matched_memoized {memo : Memo String String}
    {machine beside after : Machine} {value : Value}
    {run : Run Machine Value} (depth : Value) (key : String)
    (faithful : Faithful setting counterpart.host Value.content?
      (Meaning.operand (meaning setting inner) definition.formula) run
      (evaluateGuarded evaluator counterpart depth key (some fingerprint) definition.formula))
    (known : Meaning.definition? setting name = some definition)
      (memoized : definition.memoize = true)
    (printed : (Content.mapping (Content.arrange fields)).fingerprint? = some fingerprint)
    (made : setting.root.withArguments fields = some inner)
    (together : Beside setting counterpart.host machine beside)
    (held : (beside.host counterpart.host).memo = some memo)
      (ended : run machine = .done value after)
    (clean : after.faults counterpart.host = machine.faults counterpart.host) :
    ∃ answer later,
      evaluateMemoized evaluator counterpart depth name key fingerprint memo
        definition.formula beside =
        .done answer later ∧ Beside setting counterpart.host after later ∧
        answer.content? = value.content? := by
  have lawful := faithful.lawful machine together.sound_left
  rw [ended] at lawful
  obtain ⟨onward, content, valued, meant⟩ := lawful
  cases looking : memo.lookup name fingerprint with
  | some answer =>
      obtain ⟨looked, recorded, further, otherClean⟩ :=
        record_look setting counterpart.host name true beside
      -- the entry may come from any earlier call: only its fingerprint ties it to these arguments
      obtain ⟨other, answered, agreed⟩ :=
        content_of_backed
          (backed_of_lookup (together.sound.backs memo held) looking) known printed made
      rw [meant clean] at agreed
      cases agreed
      exact ⟨answer, looked, evaluate_memoized_hit depth key definition.formula looking recorded,
        together.onward onward further clean otherClean, answered.trans valued.symm⟩
  | none =>
      obtain ⟨looked, recorded, further, otherClean⟩ :=
        record_look setting counterpart.host name false beside
      -- only the second run has counted a look, so the first one stands still meanwhile
      have start := together.onward (.refl machine) further rfl otherClean
      obtain ⟨answer, later, computed, besideLater, sameView⟩ :=
        faithful.matched machine looked start value after ended clean
      have laterClean : later.faults counterpart.host = looked.faults counterpart.host := by
        rw [besideLater.faults, clean, start.faults]
      obtain ⟨stored, storedClean⟩ : Onward setting counterpart.host later _ ∧ _ :=
        onward_memorize
          (backed_of_meaning known memoized printed made answer content
            (sameView.trans valued) (meant clean)) later
      refine ⟨answer, later.memorize counterpart.host name fingerprint answer, ?_, ?_, sameView⟩
      · rw [evaluate_memoized_miss depth key definition.formula looking recorded,
          keeping_of_done computed, if_pos laterClean]
      · exact besideLater.onward (.refl after) stored rfl storedClean

theorem faithful_recall (interprets : Interprets setting environment host evaluator)
    (abreast : Abreast setting environment host inner context counterpart)
    (depth : Value) (key : String)
    (known : Meaning.definition? setting name = some definition)
    (plain : PlainOperand definition.formula)
    (made : setting.root.withArguments fields = some inner) {print : Option String}
    (printed : (Content.mapping (Content.arrange fields)).fingerprint? = print) :
    Faithful setting host Value.content?
      (Meaning.operand (meaning setting inner) definition.formula)
      (recallOrCompute host evaluator context depth name key print definition)
      (recallOrCompute host evaluator counterpart depth name key print definition) := by
  have guarded := faithful_guarded interprets abreast depth key print plain
  have home := abreast.home
  have otherHome : counterpart.host = host := abreast.same.host.trans home
  constructor
  · intro machine sound
    rcases recall_or_compute_cases host evaluator context depth name key
      print definition machine with
      computed | ⟨memo, fingerprint, memoize, held, rfl, memoized⟩
    · rw [computed]
      exact guarded.lawful machine sound
    · rw [memoized]
      subst home
      exact lawful_memoized depth key guarded known memoize printed made sound held
  · intro machine beside together value after ended clean
    -- without a memo the call is computed, whether it is memoized or not
    have computed : evaluateGuarded evaluator context depth key print definition.formula machine =
        .done value after := by
      rcases recall_or_compute_cases host evaluator context depth name key
        print definition machine with
        computed | ⟨memo, fingerprint, _, held, _, _⟩
      · rw [← computed]
        exact ended
      · rw [together.bare] at held
        cases held
    rcases recall_or_compute_cases host evaluator counterpart depth name key
      print definition beside with
      otherComputed | ⟨memo, fingerprint, memoize, held, rfl, memoized⟩
    · rw [otherComputed]
      exact guarded.matched machine beside together value after computed clean
    · rw [memoized]
      subst otherHome
      exact matched_memoized depth key guarded known memoize printed made
        together held computed clean

end Calls

section Apply

variable {setting : Setting} {environment : Environment} {host : Nat}
  {evaluator : Evaluator} {data inner : Content} {context counterpart : Context}

theorem abreast_with_arguments (abreast : Abreast setting environment host data context counterpart)
    {entries others : Entries} {fields : Table Content} {body otherBody : Context}
    (made : withArguments entries context = .ok body)
    (otherMade : withArguments others counterpart = .ok otherBody)
    (known : body.data.content? = some inner) (otherKnown : otherBody.data.content? = some inner)
    (argued : data.withArguments fields = some inner) :
    Abreast setting environment host inner body otherBody := by
  have proper := Value.is_proper_of_content abreast.within.known
  have root : inner.withoutArguments = setting.root := by
    rw [Content.without_arguments_with_arguments proper argued]
    exact abreast.within.root
  have step : ∀ {place outcome : Context} {arguments : Entries},
      withArguments arguments place = .ok outcome →
      Within setting environment data place → outcome.data.content? = some inner →
        Within setting environment inner outcome := by
    intro place outcome arguments reached within content
    have home := (same_home_with_arguments reached).host
    refine ⟨?_, ?_, ?_, content, root⟩
    · rw [home]
      exact within.formulas
    · rw [home]
      exact within.component
    · rw [package_with_arguments reached]
      exact within.package
  have first := same_home_with_arguments made
  have second := same_home_with_arguments otherMade
  refine ⟨first.host.trans abreast.home, ⟨?_, ?_, ?_⟩, step made abreast.within known,
    step otherMade abreast.otherWithin otherKnown⟩
  · rw [second.host, abreast.same.host, first.host]
  · rw [second.trail, abreast.same.trail, first.trail]
  · rw [second.stack, abreast.same.stack, first.stack]

theorem faithful_body {name : String} {definition : ComponentFormula} {entries others : Entries}
    {fields : Table Content} (interprets : Interprets setting environment host evaluator)
    (abreast : Abreast setting environment host data context counterpart)
    (depth : Value) (key : String)
    (known : Meaning.definition? setting name = some definition)
    (plain : PlainOperand definition.formula)
    (table : tableOf entries = some fields) (otherTable : tableOf others = some fields) :
    Faithful setting host Value.content?
      ((data.withArguments fields).bind fun inner => Meaning.operand
        (meaning setting inner) definition.formula)
      (Run.ofExcept (withArguments entries context) >>= fun body =>
        recallOrCompute host evaluator body depth name key (Entries.fingerprint entries) definition)
      (Run.ofExcept (withArguments others counterpart) >>= fun body =>
        recallOrCompute host evaluator body depth name key
          (Entries.fingerprint others) definition) := by
  obtain ⟨found, distinct⟩ := table_of_eq_some.mp table
  obtain ⟨otherFound, _⟩ := table_of_eq_some.mp otherTable
  rcases with_arguments_agrees abreast.within.known found distinct with
    ⟨body, inner, made, content, argued⟩ | ⟨⟨failure, refused⟩, _⟩
  · rcases with_arguments_agrees abreast.otherWithin.known otherFound distinct with
      ⟨otherBody, other, otherMade, otherContent, otherArgued⟩ | ⟨_, missing⟩
    · rw [argued] at otherArgued
      cases otherArgued
      rw [made, otherMade, argued, Entries.fingerprint_of_content (content_of_table table),
        Entries.fingerprint_of_content (content_of_table otherTable)]
      have proper := Value.is_proper_of_content abreast.within.known
      have rooted : setting.root.withArguments fields = some inner := by
        rw [← abreast.within.root, Content.with_arguments_without_arguments proper]
        exact argued
      exact faithful_recall interprets
        (abreast_with_arguments abreast made otherMade content otherContent argued) depth
        key known plain rooted rfl
    · rw [argued] at missing
      cases missing
  · rw [refused]
    exact faithful_raise failure _

theorem faithful_apply (lawful : setting.IsPlain)
    (interprets : Interprets setting environment host evaluator)
    (abreast : Abreast setting environment host data context counterpart)
    (depth : Value) (name : String)
    {arguments : List Argument} (slots : ∀ argument ∈ arguments, argument.IsPlain)
    (plain : ∀ argument ∈ arguments, PlainOperand argument.formula) :
    Faithful setting host Value.content?
      (Meaning.node setting (meaning setting) data (.apply name arguments))
      (evaluateApply environment evaluator context depth name arguments)
      (evaluateApply environment evaluator counterpart depth name arguments) := by
  have named := faithful_named_arguments interprets abreast depth slots plain
  have otherHome : counterpart.host = host := abreast.same.host.trans abreast.home
  unfold evaluateApply
  rw [abreast.within.component, abreast.otherWithin.component]
  cases owner : setting.component with
  | none => exact faithful_not_found abreast.home _ _ _ _ _
  | some component =>
      dsimp only
      cases found : Keyed.find? name component.formulas with
      | none => exact faithful_not_found abreast.home _ _ _ _ _
      | some definition =>
          have known : Meaning.definition? setting name = some definition := by
            simp [Meaning.definition?, owner, found]
          obtain ⟨spelled, member⟩ := Keyed.mem_of_find? found
          have body := lawful.bodies component owner (spelled, definition) member
          have meant : Meaning.node setting (meaning setting) data (.apply name arguments) =
              (Meaning.named
                (fun argument => Meaning.operand (meaning setting data) argument.formula)
                arguments []).bind
                fun fields => (data.withArguments fields).bind fun inner =>
                  Meaning.operand (meaning setting inner) definition.formula := by
            simp [Meaning.node, known]
          rw [meant]
          apply faithful_bind named
          intro entries others fields table otherTable
          rw [otherHome, abreast.home]
          exact faithful_body interprets abreast depth
            (component.name ++ "/" ++ name) known body table otherTable

end Apply

end Evaluate
end Interplay
