import Interplay.Cycle.PackageGraph
import Interplay.Proofs.Registry.Lookup
import Mathlib.Data.List.Chain
import Mathlib.Data.List.Nodup
import Mathlib.Data.List.Perm.Basic
import Mathlib.Logic.Relation

/-!
Cycles among the dependencies of packages.

A depth-first scan closes genuine cycles only, since its path is always a walk along edges.  It
closes one if there is one: as long as none is closed, whatever the scan has left behind lies on no
cycle and leads to nothing but what was left behind as well.
-/

namespace Interplay

theorem Failure.cycle_of_texts (domain : Value) {path : List Value} {repeated : Value}
    (texts : ∀ item ∈ path ++ [repeated], ∃ content, item = Value.text content) :
    ∃ fault, cycle domain path repeated = .fault fault ∧ fault.source =
    .cycle domain path repeated := by
  obtain ⟨contents, same⟩ : ∃ contents : List String, path ++ [repeated] =
      contents.map Value.text := by
    generalize path ++ [repeated] = items at texts
    induction items with
    | nil => exact ⟨[], rfl⟩
    | cons item rest ih =>
        obtain ⟨content, rfl⟩ := texts item List.mem_cons_self
        obtain ⟨contents, rfl⟩ := ih fun other member => texts other (List.mem_cons_of_mem _ member)
        exact ⟨content :: contents, rfl⟩
  unfold cycle
  split
  · exact ⟨_, rfl, rfl⟩
  · rw [same, texts_map_text]
    exact ⟨_, rfl, rfl⟩

theorem Failure.cycle_of_keys (domain : Value) (path : List String) (repeated : String) :
    ∃ fault, cycle domain (path.map Value.text) (.text repeated) = .fault fault ∧
      fault.source = .cycle domain (path.map Value.text) (.text repeated) := by
  apply cycle_of_texts
  intro item member
  rw [← List.map_singleton, ← List.map_append] at member
  obtain ⟨content, _, same⟩ := List.mem_map.mp member
  exact ⟨content, same.symm⟩

namespace Cycle
namespace PackageGraph

variable {κ : Type} [BEq κ]

def Edge (graph : PackageGraph κ) (name dependency : κ) : Prop :=
  dependency ∈ graph.dependencies name

/-- A package that depends on itself in one or more steps. -/
def IsCyclic (graph : PackageGraph κ) : Prop :=
  ∃ name, Relation.TransGen graph.Edge name name

/-- A simple cycle, closed by its start. -/
def IsCycle (graph : PackageGraph κ) (cycle : List κ) : Prop :=
  ∃ start rest, cycle = start :: rest ++ [start] ∧ (start :: rest).Nodup ∧ cycle.IsChain graph.Edge

/-- Names are texts, and equal to themselves only. -/
structure IsNamed [Key κ] (graph : PackageGraph κ) : Prop where
  told : ∀ name ∈ graph.names, ∀ other ∈ graph.names, (name == other) = true ↔ name = other
  written : ∀ name ∈ graph.names, ∃ content, Key.toValue name = Value.text content

theorem named_of_strings (graph : PackageGraph String) : graph.IsNamed where
  told _ _ _ _ := beq_iff_eq
  written name _ := ⟨name, rfl⟩

theorem named_of_texts {graph : PackageGraph Scalar}
    (texts : ∀ name ∈ graph.names, name.isText = true) :
    graph.IsNamed where
  told name member other otherMember := by
    have isText := texts name member
    have otherIsText := texts other otherMember
    cases name <;> cases isText
    cases other <;> cases otherIsText
    rw [Scalar.text.injEq]
    exact beq_iff_eq (α := String)
  written name member := by
    have isText := texts name member
    cases name <;> cases isText
    exact ⟨_, rfl⟩

variable {graph : PackageGraph κ}

omit [BEq κ] in
theorem names_of_key {name : κ} (key : name ∈ graph.map Prod.fst) : name ∈ graph.names := by
  obtain ⟨entry, member, rfl⟩ := List.mem_map.mp key
  exact List.mem_flatMap.mpr ⟨entry, member, List.mem_cons_self⟩

/-- An edge starts at a package that is listed, under some spelling of its name. -/
theorem entry_of_edge {name dependency : κ} (edge : graph.Edge name dependency) :
    ∃ spelled dependencies, (spelled == name) = true ∧ (spelled, dependencies) ∈ graph ∧
      dependency ∈ dependencies := by
  unfold Edge dependencies at edge
  cases found : Keyed.find? name graph with
  | none =>
      rw [found] at edge
      cases edge
  | some dependencies =>
      rw [found] at edge
      obtain ⟨spelled, equal, member⟩ := Keyed.entry_of_find? found
      exact ⟨spelled, dependencies, equal, member, edge⟩

theorem names_of_edge {name dependency : κ} (edge : graph.Edge name dependency) :
    dependency ∈ graph.names := by
  obtain ⟨spelled, dependencies, _, member, listed⟩ := entry_of_edge edge
  exact List.mem_flatMap.mpr ⟨_, member, List.mem_cons_of_mem _ listed⟩

/-- A walk along edges leads from its start to its end. -/
theorem leads_of_chain {start last : κ} {middle : List κ}
    (chain : (start :: middle ++ [last]).IsChain graph.Edge) :
    Relation.TransGen graph.Edge start last := by
  induction middle generalizing start with
  | nil => exact .single (List.isChain_pair.mp chain)
  | cons next rest ih =>
      obtain ⟨edge, others⟩ := List.isChain_cons_cons.mp chain
      exact .head edge (ih others)

theorem targets_of_chain {start : κ} {rest : List κ} (chain : (start :: rest).IsChain graph.Edge) :
    rest ⊆ graph.names := by
  induction rest generalizing start with
  | nil => exact List.nil_subset _
  | cons next later ih =>
      obtain ⟨edge, others⟩ := List.isChain_cons_cons.mp chain
      exact List.cons_subset.mpr ⟨names_of_edge edge, ih others⟩

theorem cyclic_of_cycle {cycle : List κ} (genuine : graph.IsCycle cycle) : graph.IsCyclic := by
  obtain ⟨start, rest, rfl, _, chain⟩ := genuine
  exact ⟨start, leads_of_chain chain⟩

variable [Key κ]

theorem IsNamed.contains_iff (named : graph.IsNamed) {listed : List κ}
    (inside : listed ⊆ graph.names) {name : κ}
    (known : name ∈ graph.names) : listed.contains name = true ↔ name ∈ listed := by
  rw [List.contains_iff_exists_mem_beq]
  constructor
  · rintro ⟨other, member, equal⟩
    rw [(named.told name known other (inside member)).mp equal]
    exact member
  · intro member
    exact ⟨name, member, (named.told name known name known).mpr rfl⟩

theorem IsNamed.key_of_edge (named : graph.IsNamed) {name dependency : κ}
    (known : name ∈ graph.names)
    (edge : graph.Edge name dependency) : name ∈ graph.map Prod.fst := by
  obtain ⟨spelled, dependencies, equal, member, _⟩ := entry_of_edge edge
  have listed : spelled ∈ graph.map Prod.fst := List.mem_map.mpr ⟨_, member, rfl⟩
  have same := (named.told spelled (names_of_key listed) name known).mp equal
  exact same ▸ listed

/-- A cycle runs through listed packages. -/
theorem IsNamed.key_of_cyclic (named : graph.IsNamed) {name : κ}
    (around : Relation.TransGen graph.Edge name name) : name ∈ graph.map Prod.fst := by
  obtain ⟨before, _, last⟩ := Relation.TransGen.tail'_iff.mp around
  obtain ⟨next, first, _⟩ := Relation.TransGen.head'_iff.mp around
  exact named.key_of_edge (names_of_edge last) first

/-- The way from a name on a path to the end of the path. -/
theorem IsNamed.drop_while (named : graph.IsNamed) {path : List κ}
    (inside : path ⊆ graph.names) {name : κ} (member : name ∈ path) :
    ∃ before after, path = before ++ name :: after ∧
      path.dropWhile (fun entry => !(entry == name)) = name :: after := by
  induction path with
  | nil => cases member
  | cons first rest ih =>
      have told := named.told first (inside List.mem_cons_self) name (inside member)
      by_cases same : first = name
      · subst same
        refine ⟨[], rest, rfl, ?_⟩
        simp [told.mpr]
      · have later : name ∈ rest :=
          (List.mem_cons.mp member).resolve_left fun equal => same equal.symm
        obtain ⟨before, after, split, dropped⟩ :=
          ih (fun _ listed => inside (List.mem_cons_of_mem _ listed)) later
        have different : (first == name) = false :=
          Bool.eq_false_iff.mpr fun equal => same (told.mp equal)
        refine ⟨first :: before, after, by rw [split, List.cons_append], ?_⟩
        rw [List.dropWhile_cons, different]
        exact dropped

namespace Scan

omit [Key κ]

/-- A name that was left behind, as long as no cycle was closed. -/
structure IsDone (graph : PackageGraph κ) (scan : Scan κ) (name : κ) : Prop where
  apart : ¬Relation.TransGen graph.Edge name name
  closed : ∀ dependency, graph.Edge name dependency →
    dependency ∈ scan.visited ∧ dependency ∉ scan.path

structure IsSound (graph : PackageGraph κ) (scan : Scan κ) : Prop where
  known : scan.visited ⊆ graph.names
  stacked : ∀ name, name ∈ scan.onStack ↔ name ∈ scan.path
  travelled : scan.path ⊆ scan.visited
  simple : scan.path.Nodup
  linked : scan.path.IsChain graph.Edge
  genuine : ∀ cycle ∈ scan.cycles, graph.IsCycle cycle
  settled : scan.cycles = [] → ∀ name ∈ scan.visited, name ∉ scan.path → scan.IsDone graph name

/-- How a scan goes on until it is back at the end of the same path. -/
structure Onward (before after : Scan κ) : Prop where
  path : after.path = before.path
  visited : before.visited ⊆ after.visited
  cycles : before.cycles ⊆ after.cycles

omit [BEq κ] in
theorem Onward.refl (scan : Scan κ) : scan.Onward scan :=
  ⟨rfl, List.Subset.refl _, List.Subset.refl _⟩

omit [BEq κ] in
theorem Onward.trans {first second third : Scan κ} (former : first.Onward second)
    (latter : second.Onward third) :
    first.Onward third where
  path := latter.path.trans former.path
  visited := List.Subset.trans former.visited latter.visited
  cycles := List.Subset.trans former.cycles latter.cycles

omit [BEq κ] in
theorem Onward.none_before {before after : Scan κ} (onward : before.Onward after)
    (none : after.cycles = []) :
    before.cycles = [] :=
  List.eq_nil_of_subset_nil (none ▸ onward.cycles)

variable {scan : Scan κ} {name : κ}

theorem IsSound.path_known (sound : scan.IsSound graph) : scan.path ⊆ graph.names :=
  List.Subset.trans sound.travelled sound.known

theorem IsSound.left_behind_of_leads (sound : scan.IsSound graph)
    (none : scan.cycles = []) {first last : κ}
    (visited : first ∈ scan.visited) (left : first ∉ scan.path)
    (leads : Relation.ReflTransGen graph.Edge first last) :
    last ∈ scan.visited ∧ last ∉ scan.path := by
  induction leads with
  | refl => exact ⟨visited, left⟩
  | tail _ edge ih => exact (sound.settled none _ ih.1 ih.2).closed _ edge

theorem sound_start (graph : PackageGraph κ) : (start : Scan κ).IsSound graph where
  known := List.nil_subset _
  stacked _ := Iff.rfl
  travelled := List.nil_subset _
  simple := List.nodup_nil
  linked := .nil
  genuine := nofun
  settled _ := nofun

theorem IsSound.enter (sound : scan.IsSound graph) (known : name ∈ graph.names)
    (fresh : name ∉ scan.visited)
    (edge : ∀ last ∈ scan.path.getLast?, graph.Edge last name) :
    (scan.enter name).IsSound graph where
  known := List.append_subset.mpr ⟨sound.known, List.cons_subset.mpr ⟨known, List.nil_subset _⟩⟩
  stacked other := by
    change other ∈ scan.onStack ++ [name] ↔ other ∈ scan.path ++ [name]
    rw [List.mem_append, List.mem_append, sound.stacked other]
  travelled := List.append_subset.mpr
    ⟨List.Subset.trans sound.travelled (List.subset_append_left _ _), List.subset_append_right _ _⟩
  simple := by
    have absent : name ∉ scan.path := fun member => fresh (sound.travelled member)
    exact List.Nodup.append sound.simple (List.nodup_singleton _)
      (List.disjoint_singleton.mpr absent)
  linked := by
    apply sound.linked.append (List.isChain_singleton _)
    intro last atEnd first atStart
    obtain rfl : name = first := Option.some.inj atStart
    exact edge last atEnd
  genuine := sound.genuine
  settled none other visited left := by
    have earlier : other ∈ scan.visited := by
      refine (List.mem_append.mp visited).resolve_right fun added => left ?_
      exact List.mem_append.mpr (.inr added)
    have done := sound.settled none other earlier fun member => left (List.mem_append_left _ member)
    refine ⟨done.apart, fun dependency step => ?_⟩
    obtain ⟨before, apart⟩ := done.closed dependency step
    refine ⟨List.mem_append_left _ before, fun member => ?_⟩
    rcases List.mem_append.mp member with inside | added
    · exact apart inside
    · exact fresh (List.mem_singleton.mp added ▸ before)

variable [Key κ]

/-- The path goes back to what it was, and its last name is left behind for good. -/
theorem IsSound.leave (sound : scan.IsSound graph) (named : graph.IsNamed) {base : List κ}
    {name : κ} (here : scan.path = base ++ [name])
    (looked : scan.cycles = [] → ∀ dependency, graph.Edge name dependency →
      dependency ∈ scan.visited ∧ dependency ∉ scan.path) : (scan.leave name).IsSound graph := by
  have back : (scan.leave name).path = base := by simp [Scan.leave, here]
  have shorter : base ⊆ scan.path := here ▸ List.subset_append_left _ _
  have mine : name ∈ scan.path := here ▸ List.mem_append_right _ List.mem_cons_self
  refine ⟨sound.known, fun other => ?_, ?_, ?_, ?_, sound.genuine, ?_⟩
  · change other ∈ scan.onStack.filter _ ↔ _
    rw [back, List.mem_filter, sound.stacked other, Bool.not_eq_true', Bool.eq_false_iff]
    constructor
    · rintro ⟨inside, different⟩
      rw [here, List.mem_append, List.mem_singleton] at inside
      refine inside.resolve_right fun same => different ?_
      exact (named.told other (same ▸ sound.path_known mine) name (sound.path_known mine)).mpr same
    · intro inside
      refine ⟨shorter inside, fun equal => ?_⟩
      obtain rfl :=
        (named.told other (sound.path_known (shorter inside)) name (sound.path_known mine)).mp equal
      exact (List.nodup_append.mp (here ▸ sound.simple)).2.2 other inside
        other List.mem_cons_self rfl
  · rw [back]
    exact List.Subset.trans shorter sound.travelled
  · rw [back]
    exact List.Nodup.of_append_left (here ▸ sound.simple)
  · rw [back]
    exact List.IsChain.left_of_append (here ▸ sound.linked)
  · intro none other visited left
    rw [back] at left
    have closed : ∀ dependency, dependency ∈ scan.visited ∧ dependency ∉ scan.path →
        dependency ∈ (scan.leave name).visited ∧ dependency ∉ (scan.leave name).path := by
      intro dependency ⟨before, apart⟩
      rw [back]
      exact ⟨before, fun member => apart (shorter member)⟩
    by_cases same : other = name
    · subst same
      refine ⟨fun around => ?_, fun dependency edge => closed _ (looked none dependency edge)⟩
      -- A way back to the name would stay among what was left behind before it.
      obtain ⟨next, first, others⟩ := Relation.TransGen.head'_iff.mp around
      obtain ⟨before, apart⟩ := looked none next first
      exact (sound.left_behind_of_leads none before apart others).2 mine
    · have outside : other ∉ scan.path := by
        rw [here, List.mem_append, List.mem_singleton]
        exact fun member => member.elim left same
      have done := sound.settled none other visited outside
      exact ⟨done.apart, fun dependency edge => closed _ (done.closed dependency edge)⟩

/-- An edge back to a name on the path closes a cycle. -/
theorem IsSound.close (sound : scan.IsSound graph) (named : graph.IsNamed)
    (onPath : name ∈ scan.path)
    (edge : ∀ last ∈ scan.path.getLast?, graph.Edge last name) :
    (scan.close name).IsSound graph := by
  refine ⟨sound.known, sound.stacked, sound.travelled, sound.simple,
    sound.linked, ?_, fun none => ?_⟩
  · intro cycle member
    rcases List.mem_append.mp member with before | added
    · exact sound.genuine cycle before
    · obtain rfl := List.mem_singleton.mp added
      obtain ⟨before, after, split, dropped⟩ :=
        named.drop_while sound.path_known onPath
      rw [dropped]
      refine ⟨name, after, rfl, List.Nodup.of_append_right (split ▸ sound.simple), ?_⟩
      apply (List.IsChain.right_of_append (split ▸ sound.linked)).append (List.isChain_singleton _)
      intro last atEnd first atStart
      obtain rfl : name = first := Option.some.inj atStart
      apply edge
      rw [split, List.getLast?_append, Option.mem_def.mp atEnd]
      rfl
  · exact absurd none (List.append_ne_nil_of_right_ne_nil _ (List.cons_ne_nil _ _))

end Scan

/-- The failure that shows a cycle of the graph. -/
def Reports (graph : PackageGraph κ) (failure : Failure) : Prop :=
  ∃ start rest fault, failure = .fault fault ∧ graph.IsCycle (start :: rest ++ [start]) ∧
    fault.source = .cycle (.text "package") ((start :: rest).map Key.toValue) (Key.toValue start)

def follow (explore : κ → Scan κ → Scan κ) (scan : Scan κ) (dependency : κ) : Scan κ :=
  if scan.visited.contains dependency then
    if scan.onStack.contains dependency then scan.close dependency else scan
  else explore dependency scan

omit [Key κ] in
theorem visit_succ (graph : PackageGraph κ) (fuel : Nat) (name : κ) (scan : Scan κ) :
    visit graph (fuel + 1) name scan =
      ((graph.dependencies name).foldl (follow (visit graph fuel)) (scan.enter name)).leave name :=
  rfl

def startFrom (graph : PackageGraph κ) (scan : Scan κ) (entry : κ × List κ) : Scan κ :=
  if scan.visited.contains entry.1 then scan else visit graph (graph.names.length + 1) entry.1 scan

omit [Key κ] in
theorem cycles_eq (graph : PackageGraph κ) :
    graph.cycles = (graph.foldl (startFrom graph) Scan.start).cycles :=
  rfl

/-- What exploring a new name does to a sound scan. -/
structure Explored (graph : PackageGraph κ) (name : κ) (before after : Scan κ) : Prop where
  sound : after.IsSound graph
  onward : before.Onward after
  visited : name ∈ after.visited

variable (named : graph.IsNamed)

include named

theorem follow_edge (explore : κ → Scan κ → Scan κ) {scan : Scan κ} {dependency : κ}
    (sound : scan.IsSound graph)
    (edge : ∀ last ∈ scan.path.getLast?, graph.Edge last dependency)
    (known : dependency ∈ graph.names)
    (explores : dependency ∉ scan.visited →
      Explored graph dependency scan (explore dependency scan)) :
    Explored graph dependency scan (follow explore scan dependency) ∧
      ((follow explore scan dependency).cycles = [] → dependency ∉ scan.path) := by
  unfold follow
  split
  · rename_i listed
    have visited := (named.contains_iff sound.known known).mp listed
    have stacked : scan.onStack ⊆ graph.names := fun other inside => sound.path_known
        ((sound.stacked other).mp inside)
    split
    · rename_i onPath
      have member := (sound.stacked dependency).mp ((named.contains_iff stacked known).mp onPath)
      have closed := sound.close named member edge
      refine ⟨⟨closed, ⟨rfl, List.Subset.refl _, List.subset_append_left _ _⟩, visited⟩,
        fun none => ?_⟩
      exact absurd none (List.append_ne_nil_of_right_ne_nil _ (List.cons_ne_nil _ _))
    · rename_i offPath
      refine ⟨⟨sound, .refl scan, visited⟩, fun _ member => offPath ?_⟩
      exact (named.contains_iff stacked known).mpr ((sound.stacked dependency).mpr member)
  · rename_i unlisted
    have fresh : dependency ∉ scan.visited := fun member =>
      unlisted ((named.contains_iff sound.known known).mpr member)
    exact ⟨explores fresh, fun _ member => fresh (sound.travelled member)⟩

theorem follow_all (explore : κ → Scan κ → Scan κ) (dependencies : List κ)
    {path : List κ} {scan : Scan κ} (sound : scan.IsSound graph) (here : scan.path = path)
    (edges : ∀ dependency ∈ dependencies, ∀ last ∈ path.getLast?, graph.Edge last dependency)
    (known : dependencies ⊆ graph.names)
    (explores : ∀ dependency ∈ dependencies, ∀ current : Scan κ, current.IsSound graph →
      current.path = path →
      dependency ∉ current.visited →
      Explored graph dependency current (explore dependency current)) :
    (dependencies.foldl (follow explore) scan).IsSound graph ∧
      scan.Onward (dependencies.foldl (follow explore) scan) ∧
      ∀ dependency ∈ dependencies, dependency ∈ (dependencies.foldl (follow explore) scan).visited ∧
        ((dependencies.foldl (follow explore) scan).cycles = [] → dependency ∉ path) := by
  induction dependencies generalizing scan with
  | nil => exact ⟨sound, .refl scan, nofun⟩
  | cons dependency rest ih =>
      have edge : ∀ last ∈ scan.path.getLast?, graph.Edge last dependency := by
        rw [here]
        exact edges dependency List.mem_cons_self
      obtain ⟨followed, off⟩ := follow_edge named explore sound edge (known List.mem_cons_self)
        (explores dependency List.mem_cons_self scan sound here)
      obtain ⟨last, onward, looked⟩ := ih followed.sound (followed.onward.path.trans here)
        (fun other member => edges other (List.mem_cons_of_mem _ member))
        (fun _ member => known (List.mem_cons_of_mem _ member))
        (fun other member => explores other (List.mem_cons_of_mem _ member))
      refine ⟨last, followed.onward.trans onward, fun other member => ?_⟩
      rcases List.mem_cons.mp member with rfl | later
      · exact ⟨onward.visited followed.visited, fun none => here ▸ off (onward.none_before none)⟩
      · exact looked other later

/-- The path holds no name twice, so its length bounds the depth of a scan. -/
theorem visit_explores {fuel : Nat} {name : κ} {scan : Scan κ} (sound : scan.IsSound graph)
    (known : name ∈ graph.names) (fresh : name ∉ scan.visited)
    (edge : ∀ last ∈ scan.path.getLast?, graph.Edge last name)
    (room : graph.names.length < fuel + scan.path.length) :
    Explored graph name scan (visit graph fuel name scan) := by
  induction fuel generalizing name scan with
  | zero =>
      have short := (List.subperm_of_subset sound.simple sound.path_known).length_le
      omega
  | succ fuel ih =>
      have entered := sound.enter known fresh edge
      have atEnd : (scan.enter name).path.getLast? = some name := List.getLast?_concat
      obtain ⟨followed, onward, looked⟩ :=
        follow_all named (visit graph fuel) (graph.dependencies name) entered rfl
        (fun dependency member last isLast => by
          obtain rfl := Option.some.inj (atEnd.symm.trans isLast)
          exact member)
        (fun dependency member => names_of_edge member)
        (fun dependency member current currentSound currentPath unseen => by
          apply ih currentSound (names_of_edge member) unseen
          · intro last isLast
            rw [currentPath, atEnd] at isLast
            exact Option.some.inj isLast ▸ member
          · have longer : (scan.enter name).path.length = scan.path.length + 1 := List.length_append
            rw [currentPath, longer]
            omega)
      rw [visit_succ]
      have left := followed.leave named onward.path
        (fun none dependency step => ⟨(looked dependency step).1, by
          rw [onward.path]
          exact (looked dependency step).2 none⟩)
      have back : (((graph.dependencies name).foldl (follow (visit graph fuel))
          (scan.enter name)).leave name).path = scan.path := by
        simp only [Scan.leave, onward.path]
        exact List.dropLast_concat
      refine ⟨left, ⟨back, ?_, onward.cycles⟩, ?_⟩
      · exact List.Subset.trans (List.subset_append_left _ _) onward.visited
      · exact onward.visited (List.mem_append_right _ List.mem_cons_self)

theorem scan_all {entries : List (κ × List κ)} {scan : Scan κ} (listed : entries ⊆ graph)
    (sound : scan.IsSound graph) (home : scan.path = []) :
    (entries.foldl (startFrom graph) scan).IsSound graph ∧
    (entries.foldl (startFrom graph) scan).path = [] ∧
      scan.visited ⊆ (entries.foldl (startFrom graph) scan).visited ∧
      ∀ entry ∈ entries, entry.1 ∈ (entries.foldl (startFrom graph) scan).visited := by
  induction entries generalizing scan with
  | nil => exact ⟨sound, home, List.Subset.refl _, nofun⟩
  | cons entry rest ih =>
      have known : entry.1 ∈ graph.names :=
        names_of_key (List.mem_map.mpr ⟨entry, listed List.mem_cons_self, rfl⟩)
      have started : Explored graph entry.1 scan (startFrom graph scan entry) := by
        unfold startFrom
        split
        · rename_i met
          exact ⟨sound, .refl scan, (named.contains_iff sound.known known).mp met⟩
        · rename_i unmet
          apply visit_explores named sound known
          · exact fun member => unmet ((named.contains_iff sound.known known).mpr member)
          · simp [home]
          · simp [home]
      obtain ⟨after, back, kept, visited⟩ :=
        ih (fun _ member => listed (List.mem_cons_of_mem _ member))
        started.sound (started.onward.path.trans home)
      refine ⟨after, back, List.Subset.trans started.onward.visited kept, fun other member => ?_⟩
      rcases List.mem_cons.mp member with rfl | later
      · exact kept started.visited
      · exact visited other later

theorem genuine_of_cycles {cycle : List κ} (found : cycle ∈ graph.cycles) :
    graph.IsCycle cycle := by
  obtain ⟨sound, _⟩ := scan_all named (List.Subset.refl graph) (Scan.sound_start graph) rfl
  exact sound.genuine cycle (cycles_eq graph ▸ found)

/-- A scan that has closed no cycle has left behind every package, so none of them depends on
itself. -/
theorem no_cycles_iff : graph.cycles = [] ↔ ¬graph.IsCyclic := by
  obtain ⟨sound, home, _, visited⟩ :=
    scan_all named (List.Subset.refl graph) (Scan.sound_start graph) rfl
  constructor
  · rintro none ⟨name, around⟩
    rw [cycles_eq] at none
    obtain ⟨entry, member, rfl⟩ := List.mem_map.mp (named.key_of_cyclic around)
    have left : entry.1 ∉ (graph.foldl (startFrom graph) Scan.start).path := by simp [home]
    exact (sound.settled none entry.1 (visited entry member) left).apart around
  · intro acyclic
    apply List.eq_nil_iff_forall_not_mem.mpr
    intro cycle found
    exact acyclic (cyclic_of_cycle (genuine_of_cycles named found))

theorem validate_of_acyclic (acyclic : ¬graph.IsCyclic) : graph.validate = .ok () := by
  simp [validate, (no_cycles_iff named).mpr acyclic]

theorem validate_of_cyclic (cyclic : graph.IsCyclic) :
    ∃ failure, graph.validate = .error failure ∧ graph.Reports failure := by
  have some : graph.cycles ≠ [] := fun none => (no_cycles_iff named).mp none cyclic
  obtain ⟨first, others, found⟩ := List.exists_cons_of_ne_nil some
  have genuine := genuine_of_cycles named (found ▸ List.mem_cons_self : first ∈ graph.cycles)
  obtain ⟨start, rest, rfl, simple, chain⟩ := genuine
  have texts : ∀ item ∈ (start :: rest).map Key.toValue ++ [Key.toValue start],
      ∃ content, item = Value.text content := by
    intro item member
    rw [← List.map_singleton, ← List.map_append] at member
    obtain ⟨name, inside, rfl⟩ := List.mem_map.mp member
    apply named.written
    have targets := targets_of_chain chain
    rcases List.mem_cons.mp inside with rfl | later
    · exact targets (List.mem_append_right _ List.mem_cons_self)
    · exact targets later
  obtain ⟨fault, raised, source⟩ := Failure.cycle_of_texts (.text "package") texts
  refine ⟨_, ?_, start, rest, fault, rfl, ⟨start, rest, rfl, simple, chain⟩, source⟩
  rw [← raised]
  unfold validate
  rw [found]
  simp only [List.map_append, List.map_singleton, List.dropLast_concat,
    List.getLast?_concat, Option.getD_some]

/-- The scan of a graph finds genuine cycles only, and one if there is one; then, and only then, the
graph is refused with a cycle of its own. -/
theorem detection_is_exact :
    (∀ cycle ∈ graph.cycles, graph.IsCycle cycle) ∧ (graph.cycles = [] ↔ ¬graph.IsCyclic) ∧
      ((∃ failure, graph.validate = .error failure ∧ graph.Reports failure) ↔ graph.IsCyclic) ∧
      (graph.validate = .ok () ↔ ¬graph.IsCyclic) := by
  refine ⟨fun _ => genuine_of_cycles named, no_cycles_iff named, ⟨?_, validate_of_cyclic named⟩, ?_,
    validate_of_acyclic named⟩
  · rintro ⟨_, _, start, rest, _, _, genuine, _⟩
    exact cyclic_of_cycle genuine
  · intro passed cyclic
    obtain ⟨failure, refused, _⟩ := validate_of_cyclic named cyclic
    rw [passed] at refused
    cases refused

omit named

/-- Two packages that need each other, one of them twice, and one that needs itself. -/
def entangled : PackageGraph Scalar :=
  [(.text "forms", [.text "theme", .text "charts", .text "icons"]),
    (.text "theme", [.text "forms", .text "forms"]), (.text "charts", [.text "charts"])]

theorem entangled_is_detected :
    entangled.IsNamed ∧
      entangled.cycles =
      [[.text "forms", .text "theme", .text "forms"], [.text "forms", .text "theme", .text "forms"],
        [.text "charts", .text "charts"]] ∧
      (∀ cycle ∈ entangled.cycles, entangled.IsCycle cycle) ∧ entangled.IsCyclic ∧
      ∃ failure, entangled.validate = .error failure ∧ entangled.Reports failure := by
  have named : entangled.IsNamed := named_of_texts (by simp [entangled, names, Scalar.isText])
  have found : entangled.cycles = [[.text "forms", .text "theme", .text "forms"],
      [.text "forms", .text "theme", .text "forms"], [.text "charts", .text "charts"]] := rfl
  obtain ⟨genuine, none, refused, _⟩ := detection_is_exact named
  have cyclic : entangled.IsCyclic := by
    by_contra acyclic
    have empty := none.mpr acyclic
    rw [found] at empty
    cases empty
  exact ⟨named, found, genuine, cyclic, refused.mpr cyclic⟩

end PackageGraph
end Cycle
end Interplay
