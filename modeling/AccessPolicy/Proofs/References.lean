import AccessPolicy.Engine.Parameters
import AccessPolicy.Proofs.Names
import Mathlib.Logic.Relation

/-!
# Names reached by references

The walk that collects required parameters marks the names it enters and shares the marks between
all references. It enters exactly the names that references lead to through unmarked names: what it
enters is reached, and every reference of an entered name is marked when the walk is over. The walk
always comes back, since all its levels but the last enter a new name.
-/

namespace AccessPolicy

namespace Engine

variable {engine : Engine}

/-- A name refers to another one if the rule that it resolves to does. -/
def Refers (engine : Engine) (name reference : String) : Prop :=
  ∃ resolved rule, engine.resolve? name = some (resolved, rule) ∧ reference ∈ rule.references

/-- A name is reached by references through names that are not avoided, the first one included. -/
def ReachesOutside (engine : Engine) (avoided : List String) (start name : String) : Prop :=
  start ∉ avoided ∧
    Relation.ReflTransGen (fun before after => engine.Refers before after ∧ after ∉ avoided)
      start name

theorem ReachesOutside.not_mem {avoided : List String} {start name : String}
    (reached : engine.ReachesOutside avoided start name) : name ∉ avoided := by
  obtain ⟨outside, path⟩ := reached
  cases path with
  | refl => exact outside
  | tail _ step => exact step.2

theorem ReachesOutside.of_subset {avoided more : List String} {start name : String}
    (reached : engine.ReachesOutside more start name) (grows : avoided ⊆ more) :
    engine.ReachesOutside avoided start name :=
  ⟨fun old => reached.1 (grows old),
    Relation.ReflTransGen.mono (fun _ _ step => ⟨step.1, fun old => step.2 (grows old)⟩) _ _
      reached.2⟩

theorem ReachesOutside.head {avoided : List String} {start reference name : String}
    (reached : engine.ReachesOutside avoided reference name) (outside : start ∉ avoided)
    (refers : engine.Refers start reference) : engine.ReachesOutside avoided start name :=
  ⟨outside, reached.2.head ⟨refers, reached.1⟩⟩

theorem reachesOutside_nil {start name : String} :
    engine.ReachesOutside [] start name ↔ Relation.ReflTransGen engine.Refers start name := by
  simp [ReachesOutside]

/-- The names that a walk from one name can meet. -/
def referable (engine : Engine) (start : String) : List String :=
  start :: engine.rules.flatMap fun rule => rule.2.references

theorem length_referable (engine : Engine) (start : String) :
    (engine.referable start).length = engine.nameBound := by
  rw [referable, List.length_cons, nameBound, Nat.add_comm]

theorem mem_rules_of_resolve? {name resolved : String} {rule : CompiledRule}
    (resolves : engine.resolve? name = some (resolved, rule)) :
    (resolved, rule) ∈ engine.rules := by
  unfold resolve? at resolves
  split at resolves
  next configured =>
    cases resolves
    exact Entries.mem_of_find? configured
  next =>
    obtain ⟨fallback, configured, same⟩ := Option.map_eq_some_iff.1 resolves
    cases same
    exact Entries.mem_of_find? configured

theorem mem_referable {start name reference : String} (refers : engine.Refers name reference) :
    reference ∈ engine.referable start := by
  obtain ⟨resolved, rule, resolves, member⟩ := refers
  apply List.mem_cons_of_mem
  exact List.mem_flatMap.2 ⟨_, mem_rules_of_resolve? resolves, member⟩

/-! ## What a walk does -/

/-- What has happened to a collection when some names were followed. -/
structure Followed (engine : Engine) (names : List String) (before after : Collection) : Prop where
  /-- No mark is lost. -/
  grows : before.visited ⊆ after.visited
  /-- The names are marked. -/
  marks : names ⊆ after.visited
  /-- Every new name is reached from one of the names through unmarked names. -/
  reached : ∀ name ∈ after.visited, name ∉ before.visited →
    ∃ start ∈ names, engine.ReachesOutside before.visited start name
  /-- The references of every new name are marked. -/
  closed : ∀ name ∈ after.visited, name ∉ before.visited →
    ∀ reference, engine.Refers name reference → reference ∈ after.visited
  /-- The paths that are added are those of the new names. -/
  found : ∀ path, path ∈ after.found ↔ path ∈ before.found ∨
    ∃ name resolved rule, name ∈ after.visited ∧ name ∉ before.visited ∧
      engine.resolve? name = some (resolved, rule) ∧ path ∈ rule.parameters

namespace Followed

variable {before middle after : Collection} {name : String} {names : List String}

theorem nil (engine : Engine) (collection : Collection) :
    engine.Followed [] collection collection where
  grows := List.Subset.refl _
  marks := List.nil_subset _
  reached _ old fresh := absurd old fresh
  closed _ old fresh := absurd old fresh
  found path := by
    refine ⟨Or.inl, ?_⟩
    rintro (old | ⟨name, resolved, rule, old, fresh, -⟩)
    · exact old
    · exact absurd old fresh

theorem visited (engine : Engine) {collection : Collection} (old : name ∈ collection.visited) :
    engine.Followed [name] collection collection :=
  { nil engine collection with
    marks := by simpa using old
    reached := fun _ old fresh => absurd old fresh }

theorem cons (first : engine.Followed [name] before middle)
    (further : engine.Followed names middle after) :
    engine.Followed (name :: names) before after where
  grows := List.Subset.trans first.grows further.grows
  marks := List.cons_subset.2 ⟨further.grows (first.marks List.mem_cons_self), further.marks⟩
  reached other marked fresh := by
    by_cases old : other ∈ middle.visited
    · obtain ⟨start, member, reached⟩ := first.reached other old fresh
      exact ⟨start, List.mem_cons.2 (Or.inl (List.mem_singleton.1 member)), reached⟩
    · obtain ⟨start, member, reached⟩ := further.reached other marked old
      exact ⟨start, List.mem_cons_of_mem _ member, reached.of_subset first.grows⟩
  closed other marked fresh reference refers := by
    by_cases old : other ∈ middle.visited
    · exact further.grows (first.closed other old fresh reference refers)
    · exact further.closed other marked old reference refers
  found path := by
    rw [further.found, first.found]
    constructor
    · rintro ((old | ⟨other, resolved, rule, marked, fresh, brings⟩) |
        ⟨other, resolved, rule, marked, fresh, brings⟩)
      · exact Or.inl old
      · exact Or.inr ⟨other, resolved, rule, further.grows marked, fresh, brings⟩
      · exact Or.inr ⟨other, resolved, rule, marked, fun old => fresh (first.grows old), brings⟩
    · rintro (old | ⟨other, resolved, rule, marked, fresh, brings⟩)
      · exact Or.inl (Or.inl old)
      · by_cases old : other ∈ middle.visited
        · exact Or.inl (Or.inr ⟨other, resolved, rule, old, fresh, brings⟩)
        · exact Or.inr ⟨other, resolved, rule, marked, old, brings⟩

/-- Entering an unmarked name and then following all its references follows the name. -/
theorem enter {resolved : String} {rule : CompiledRule} (fresh : name ∉ before.visited)
    (resolves : engine.resolve? name = some (resolved, rule))
    (further : engine.Followed rule.references
      ⟨before.visited ++ [name], before.found ++ rule.parameters⟩ after) :
    engine.Followed [name] before after where
  grows := List.Subset.trans (List.subset_append_left _ _) further.grows
  marks := by simpa using further.grows (List.mem_append_right _ List.mem_cons_self)
  reached other marked outside := by
    refine ⟨name, List.mem_cons_self, ?_⟩
    by_cases entered : other ∈ before.visited ++ [name]
    · obtain rfl : other = name := by simpa [outside] using entered
      exact ⟨fresh, .refl⟩
    · obtain ⟨reference, member, reached⟩ := further.reached other marked entered
      exact (reached.of_subset (List.subset_append_left _ _)).head fresh
        ⟨resolved, rule, resolves, member⟩
  closed other marked outside reference refers := by
    by_cases entered : other ∈ before.visited ++ [name]
    · obtain rfl : other = name := by simpa [outside] using entered
      obtain ⟨other_resolved, other_rule, other_resolves, member⟩ := refers
      cases resolves.symm.trans other_resolves
      exact further.marks member
    · exact further.closed other marked entered reference refers
  found path := by
    rw [further.found, List.mem_append]
    constructor
    · rintro ((old | brought) | ⟨other, resolved, rule, marked, outside, brings⟩)
      · exact Or.inl old
      · exact Or.inr ⟨name, resolved, rule, further.grows (by simp), fresh, resolves, brought⟩
      · exact Or.inr ⟨other, resolved, rule, marked,
          fun old => outside (List.mem_append_left _ old), brings⟩
    · rintro (old | ⟨other, other_resolved, other_rule, marked, outside, other_resolves, brought⟩)
      · exact Or.inl (Or.inl old)
      · by_cases entered : other ∈ before.visited ++ [name]
        · obtain rfl : other = name := by simpa [outside] using entered
          cases resolves.symm.trans other_resolves
          exact Or.inl (Or.inr brought)
        · exact Or.inr ⟨other, other_resolved, other_rule, marked, entered, other_resolves, brought⟩

/-- Entering an unmarked name without a rule follows the name. -/
theorem enter_unresolved (fresh : name ∉ before.visited)
    (unresolved : engine.resolve? name = none) :
    engine.Followed [name] before { before with visited := before.visited ++ [name] } where
  grows := List.subset_append_left _ _
  marks := List.subset_append_right _ _
  reached other marked outside := by
    obtain rfl : other = name := by simpa [outside] using marked
    exact ⟨other, List.mem_cons_self, fresh, .refl⟩
  closed other marked outside reference refers := by
    obtain rfl : other = name := by simpa [outside] using marked
    obtain ⟨resolved, rule, resolves, -⟩ := refers
    rw [unresolved] at resolves
    cases resolves
  found path := by
    refine ⟨Or.inl, ?_⟩
    rintro (old | ⟨other, resolved, rule, marked, outside, resolves, -⟩)
    · exact old
    · obtain rfl : other = name := by simpa [outside] using marked
      rw [unresolved] at resolves
      cases resolves

/-- The names that were followed from one name are those that it reaches. -/
theorem mem_visited_iff (followed : engine.Followed [name] before after) {other : String} :
    other ∈ after.visited ↔
      other ∈ before.visited ∨ engine.ReachesOutside before.visited name other := by
  constructor
  · intro marked
    by_cases old : other ∈ before.visited
    · exact Or.inl old
    · obtain ⟨start, member, reached⟩ := followed.reached other marked old
      obtain rfl := List.mem_singleton.1 member
      exact Or.inr reached
  · rintro (old | ⟨outside, path⟩)
    · exact followed.grows old
    · -- Along the path every name is new, so the next one is marked too.
      suffices new : other ∈ after.visited ∧ other ∉ before.visited from new.1
      induction path with
      | refl => exact ⟨followed.marks List.mem_cons_self, outside⟩
      | tail _ step induction =>
        exact ⟨followed.closed _ induction.1 induction.2 _ step.1, step.2⟩

theorem mem_found_iff (followed : engine.Followed [name] before after) {path : String} :
    path ∈ after.found ↔ path ∈ before.found ∨
      ∃ reached resolved rule, engine.ReachesOutside before.visited name reached ∧
        engine.resolve? reached = some (resolved, rule) ∧ path ∈ rule.parameters := by
  rw [followed.found]
  constructor
  · rintro (old | ⟨reached, resolved, rule, marked, fresh, brings⟩)
    · exact Or.inl old
    · have reaches := (followed.mem_visited_iff.1 marked).resolve_left fresh
      exact Or.inr ⟨reached, resolved, rule, reaches, brings⟩
  · rintro (old | ⟨reached, resolved, rule, reaches, brings⟩)
    · exact Or.inl old
    · exact Or.inr ⟨reached, resolved, rule, followed.mem_visited_iff.2 (Or.inr reaches),
        reaches.not_mem, brings⟩

/-- Following names one after the other, each by a step that follows it from every collection that
has come far enough. -/
theorem foldlM {step : Collection → String → Option Collection} {names : List String}
    (all : List String) (levels : Nat)
    (follows : ∀ name ∈ names, ∀ collection : Collection,
      Names.unseen all collection.visited < levels →
        ∃ after, step collection name = some after ∧ engine.Followed [name] collection after)
    (start : Collection) (near : Names.unseen all start.visited < levels) :
    ∃ after, names.foldlM step start = some after ∧ engine.Followed names start after := by
  induction names generalizing start with
  | nil => exact ⟨start, rfl, nil engine start⟩
  | cons name rest induction =>
    obtain ⟨middle, stepped, first⟩ := follows name List.mem_cons_self start near
    have still_near := Nat.lt_of_le_of_lt (Names.unseen_le_of_subset all first.grows) near
    obtain ⟨after, folded, further⟩ :=
      induction (fun other member => follows other (List.mem_cons_of_mem _ member)) middle still_near
    refine ⟨after, ?_, first.cons further⟩
    rw [List.foldlM_cons, stepped]
    exact folded

end Followed

/-! ## The walk -/

/-- The walk comes back and has followed the name if there is a level more than names that it can
still enter. -/
theorem exists_followed_collect? {start name : String} {levels : Nat} {collection : Collection}
    (member : name ∈ engine.referable start)
    (enough : Names.unseen (engine.referable start) collection.visited < levels) :
    ∃ after, engine.collect? levels name collection = some after ∧
      engine.Followed [name] collection after := by
  induction levels generalizing name collection with
  | zero => cases enough
  | succ levels induction =>
    rw [collect?]
    split
    next old => exact ⟨collection, rfl, .visited engine old⟩
    next fresh =>
      split
      next unresolved => exact ⟨_, rfl, .enter_unresolved fresh unresolved⟩
      next resolved rule resolves =>
        have fewer := Names.unseen_concat_lt member fresh
        have near := Nat.lt_of_lt_of_le fewer (Nat.le_of_lt_succ enough)
        obtain ⟨after, folded, further⟩ := Followed.foldlM (engine.referable start) levels
          (fun reference refers _ => induction (mem_referable ⟨resolved, rule, resolves, refers⟩))
          ⟨collection.visited ++ [name], collection.found ++ rule.parameters⟩ near
        exact ⟨after, folded, .enter fresh resolves further⟩

/-- A fold that has a result keeps it if every step keeps its result. -/
theorem foldlM_eq_some_of_steps {step more : Collection → String → Option Collection}
    {names : List String} {before after : Collection}
    (keeps : ∀ collection name result, step collection name = some result →
      more collection name = some result)
    (folded : names.foldlM step before = some after) :
    names.foldlM more before = some after := by
  induction names generalizing before with
  | nil => exact folded
  | cons name rest induction =>
    rw [List.foldlM_cons] at folded ⊢
    obtain ⟨middle, stepped, further⟩ := Option.bind_eq_some_iff.1 folded
    rw [keeps before name middle stepped]
    exact induction further

/-- Further levels do not change what a walk has come back with. -/
theorem collect?_mono {name : String} {levels more : Nat} {collection after : Collection}
    (le : levels ≤ more) (walked : engine.collect? levels name collection = some after) :
    engine.collect? more name collection = some after := by
  induction levels generalizing more name collection after with
  | zero => cases walked
  | succ levels induction =>
    cases more with
    | zero => cases le
    | succ more =>
      rw [collect?] at walked ⊢
      split
      next old => rwa [if_pos old] at walked
      next fresh =>
        rw [if_neg fresh] at walked
        cases resolves : engine.resolve? name with
        | none => rwa [resolves] at walked
        | some found =>
          rw [resolves] at walked
          exact foldlM_eq_some_of_steps (fun _ _ _ => induction (Nat.le_of_succ_le_succ le)) walked

/-- The walk that a rule starts comes back, with every number of levels above that of the names, and
has followed the rule. -/
theorem requiredExcluding_spec (engine : Engine) (name : String) (visited : List String) :
    ∃ after : Collection, engine.Followed [name] ⟨visited, []⟩ after ∧
      (∀ levels, engine.nameBound < levels →
        engine.collect? levels name ⟨visited, []⟩ = some after) ∧
      engine.requiredExcluding name visited = (Names.sorted after.found, after.visited) := by
  have enough : Names.unseen (engine.referable name) visited < engine.nameBound + 1 :=
    Nat.lt_succ_of_le (engine.length_referable name ▸ Names.unseen_le_length _ visited)
  obtain ⟨after, walked, followed⟩ : ∃ after,
      engine.collect? (engine.nameBound + 1) name ⟨visited, []⟩ = some after ∧
        engine.Followed [name] ⟨visited, []⟩ after :=
    exists_followed_collect? List.mem_cons_self enough
  refine ⟨after, followed, fun levels more => collect?_mono more walked, ?_⟩
  rw [requiredExcluding, walked]

theorem mem_requiredExcluding_iff {name path : String} {visited : List String} :
    path ∈ (engine.requiredExcluding name visited).1 ↔
      ∃ reached resolved rule, engine.ReachesOutside visited name reached ∧
        engine.resolve? reached = some (resolved, rule) ∧ path ∈ rule.parameters := by
  obtain ⟨after, followed, -, collected⟩ := engine.requiredExcluding_spec name visited
  rw [collected, Names.mem_sorted, followed.mem_found_iff]
  simp only [List.not_mem_nil, false_or]

theorem pairwise_requiredExcluding (engine : Engine) (name : String) (visited : List String) :
    (engine.requiredExcluding name visited).1.Pairwise (· < ·) := by
  obtain ⟨after, -, -, collected⟩ := engine.requiredExcluding_spec name visited
  rw [collected]
  exact Names.pairwise_sorted _

theorem pairwise_bytes_requiredExcluding (engine : Engine) (name : String)
    (visited : List String) : (engine.requiredExcluding name visited).1.Pairwise
      fun first second => Text.bytes first < Text.bytes second :=
  (engine.pairwise_requiredExcluding name visited).imp Text.bytes_lt_bytes_iff.2

/-- A rule requires what the rules list that its references lead to. -/
theorem mem_required_iff {name path : String} :
    path ∈ engine.required name ↔
      ∃ reached resolved rule, Relation.ReflTransGen engine.Refers name reached ∧
        engine.resolve? reached = some (resolved, rule) ∧ path ∈ rule.parameters := by
  rw [required, mem_requiredExcluding_iff]
  simp only [reachesOutside_nil]

/-- The walk comes back with one collection, whatever number of levels it is given above that of the
names. The collected paths are strictly sorted by their bytes and are those that the rules of the
reached names list; the names visited afterwards are the given and the reached ones. Without names
to leave out everything that references lead to is reached. -/
theorem requiredExcluding_eq_closure (engine : Engine) (name : String) (visited : List String) :
    (∃ after : Collection,
      (∀ levels, engine.nameBound < levels →
        engine.collect? levels name ⟨visited, []⟩ = some after) ∧
      engine.requiredExcluding name visited = (Names.sorted after.found, after.visited)) ∧
    (engine.requiredExcluding name visited).1.Pairwise
      (fun first second => Text.bytes first < Text.bytes second) ∧
    (∀ path, path ∈ (engine.requiredExcluding name visited).1 ↔
      ∃ reached resolved rule, engine.ReachesOutside visited name reached ∧
        engine.resolve? reached = some (resolved, rule) ∧ path ∈ rule.parameters) ∧
    (∀ other, other ∈ (engine.requiredExcluding name visited).2 ↔
      other ∈ visited ∨ engine.ReachesOutside visited name other) ∧
    engine.required name = (engine.requiredExcluding name []).1 ∧
    ∀ path, path ∈ engine.required name ↔
      ∃ reached resolved rule, Relation.ReflTransGen engine.Refers name reached ∧
        engine.resolve? reached = some (resolved, rule) ∧ path ∈ rule.parameters := by
  obtain ⟨after, followed, ends, collected⟩ := engine.requiredExcluding_spec name visited
  refine ⟨⟨after, ends, collected⟩, engine.pairwise_bytes_requiredExcluding name visited,
    fun path => mem_requiredExcluding_iff, fun other => ?_, rfl, fun path => mem_required_iff⟩
  rw [collected]
  exact followed.mem_visited_iff

/-! ## Reports -/

section Reports

variable {name path : String} {merged : Json}

theorem mem_missing_iff : path ∈ (engine.reportMerged name merged).missing ↔
    path ∈ engine.required name ∧ Json.isMissing (merged.lookup? path) = true := List.mem_filter

theorem mem_provided_iff : path ∈ (engine.reportMerged name merged).provided ↔
    path ∈ engine.required name ∧ Json.isMissing (merged.lookup? path) = false := by
  simp [reportMerged]

theorem missing?_eq_ite (engine : Engine) (name : String) (merged : Json) :
    engine.missing? name merged =
      if (engine.reportMerged name merged).missing = [] then none
      else some (engine.reportMerged name merged).missing := by
  simp only [missing?, ParameterReport.isComplete, List.isEmpty_iff]

end Reports

end Engine

end AccessPolicy
