import AccessPolicy.Engine.Session
import AccessPolicy.Proofs.Calls
import AccessPolicy.Proofs.Leaves
import AccessPolicy.Proofs.Rules
import AccessPolicy.Proofs.Substitution

/-!
# Strict parameters

An engine that insists on parameters collects what a rule requires along the references that its
leaves spell before it decides the rule. If the spelt names hold no placeholders, the run calls no
name that this walk has not reached, so every placeholder of every leaf that may be visited has a
value. Each of these leaves is decided as the leaf in which the values are written in place of the
placeholders.
-/

namespace AccessPolicy

namespace Json

theorem not_isMissing_iff {found : Option Json} :
    isMissing found = false ↔ ∃ value, found = some value ∧ value ≠ .null := by
  cases found with
  | none => simp [isMissing]
  | some value => cases value <;> simp [isMissing]

/-- Whether the second text is the first one with the plain text of a value other than null in place
of every placeholder. -/
def FilledThroughout (parameters : Json) (text filled : String) : Prop :=
  ∃ (pieces : Text.Pieces) (values : List Char → Json), pieces.Cut text.toList ∧
    (∀ path ∈ pieces.paths,
      parameters.lookup? (String.ofList path) = some (values path) ∧ values path ≠ .null) ∧
    filled = String.ofList (pieces.render fun path => (values path).plainText.toList)

/-- If every placeholder in a text has a value, filling the text leaves no placeholder in place. -/
theorem filledThroughout_fill {parameters : Json} {text : String}
    (valued : ∀ path, Text.Occurs path text →
      ∃ value, parameters.lookup? path = some value ∧ value ≠ .null) :
    parameters.FilledThroughout text (parameters.fill text) := by
  let values (path : List Char) : Json := (parameters.lookup? (String.ofList path)).getD .null
  have looks_up : ∀ path ∈ (Text.Pieces.ofSegments (Text.segments text.toList)).paths,
      parameters.lookup? (String.ofList path) = some (values path) ∧ values path ≠ .null := by
    intro path member
    obtain ⟨value, found, given⟩ := valued _ (Text.Pieces.occurs_of_mem_paths_ofSegments member)
    have same : values path = value := by simp only [values, found, Option.getD_some]
    exact ⟨by rw [found, same], by rwa [same]⟩
  refine ⟨_, values, Text.Pieces.cut_ofSegments _, looks_up, ?_⟩
  rw [fill_eq_render_ofSegments]
  apply congrArg String.ofList
  apply Text.Pieces.render_congr
  intro path member
  obtain ⟨found, given⟩ := looks_up path member
  exact replacement_of_lookup? found given

end Json

namespace Leaf

/-- Whether a leaf is decided for some parameters as the leaf with the given text in the part in
which placeholders are replaced. Then the leaf needs parameters only for what it looks up itself,
so any others that leave the text as it is decide it alike. -/
def DecidedAs (leaf : Leaf) (parameters : Json) (text : String) : Prop :=
  ∀ (Event : Type) (surroundings : Surroundings Event) (other : Json), other.fill text = text →
    (∀ place, leaf.place? = some place → other.lookup? place = parameters.lookup? place) →
      leaf.evaluate { surroundings with parameters } =
        (leaf.withTemplate text).evaluate { surroundings with parameters := other }

/-- A leaf is decided as the leaf with its part filled. -/
theorem decidedAs_fill {leaf : Leaf} {part : String} (filled : leaf.template? = some part)
    (parameters : Json) : leaf.DecidedAs parameters (parameters.fill part) := by
  intro Event surroundings other kept looks_up
  cases leaf with
  | constant | absent | present | malformed => cases filled
  | path place value =>
    cases filled
    have found : other.lookup? place = parameters.lookup? place := looks_up place rfl
    simp only [evaluate, withTemplate, lookup?, kept, found]
  | _ =>
    cases filled
    simp only [evaluate, withTemplate, kept]

end Leaf

namespace Engine

variable {engine : Engine}

/-- Every leaf `rule:name` of an engine spells a name that is not empty and holds no placeholder. -/
def StaticReferences (engine : Engine) : Prop :=
  ∀ entry ∈ engine.rules, ∀ text ∈ entry.2.tree.leaves, ∀ name, text = "rule:" ++ name →
    name ≠ "" ∧ ∀ path, ¬Text.Occurs path name

/-- A rule lists every path whose placeholder stands in one of its leaves. -/
theorem mem_parameters_of_occurs {name resolved text path : String} {compiled : CompiledRule}
    (resolves : engine.resolve? name = some (resolved, compiled))
    (member : text ∈ compiled.tree.leaves) (occurs : Text.Occurs path text) :
    path ∈ compiled.parameters := by
  obtain ⟨derivation, rfl⟩ := exists_derivation_of_mem_rules (mem_rules_of_resolve? resolves)
  exact Names.mem_sorted.2 (derivation.mem_parameters_tree.2 ⟨text, member, occurs⟩)

/-- With static references a rule refers to whatever its leaves spell. -/
theorem refers_of_leaf (static : engine.StaticReferences) {name resolved text value : String}
    {compiled : CompiledRule} (resolves : engine.resolve? name = some (resolved, compiled))
    (member : text ∈ compiled.tree.leaves) (refers : Leaf.ofText text = .rule value)
    (parameters : Json) : engine.Refers name (parameters.fill value) := by
  have configured := mem_rules_of_resolve? resolves
  obtain rfl := Leaf.eq_of_ofText_eq_rule refers
  obtain ⟨named, closed⟩ := static _ configured _ member value rfl
  rw [Json.fill, Text.substitute_eq_self fun path occurs => absurd occurs (closed path)]
  exact ⟨resolved, compiled, resolves, mem_references_of_leaf configured member named⟩

/-- Parameters of which none is missing hold a value for every required path. -/
theorem exists_lookup?_of_missing?_eq_none {name path : String} {merged : Json}
    (complete : engine.missing? name merged = none) (member : path ∈ engine.required name) :
    ∃ value, merged.lookup? path = some value ∧ value ≠ .null := by
  apply Json.not_isMissing_iff.1
  rw [Bool.eq_false_iff]
  intro absent
  have listed : path ∈ (engine.reportMerged name merged).missing :=
    mem_missing_iff.2 ⟨member, absent⟩
  rw [missing?_eq_ite] at complete
  split at complete
  next empty =>
    rw [empty] at listed
    cases listed
  next => cases complete

end Engine

/-- With static references a run calls only names that references lead to. -/
theorem Inquiry.Calls.reaches {inquiry : Inquiry} {rule name : String} {levels : Nat}
    {active : List String} (static : inquiry.engine.StaticReferences)
    (called : inquiry.Calls rule levels active name) :
    Relation.ReflTransGen inquiry.engine.Refers rule name := by
  induction called with
  | checked => exact .refl
  | nested caller fresh resolves visits refers induction =>
    have member := Node.visited_subset_leaves _ visits
    exact induction.tail (Engine.refers_of_leaf static resolves member refers _)

namespace Session

variable {session : Session} {rule : String} {parameters : Json}

/-- A strict check that does not fail for missing parameters misses none and decides the rule. -/
theorem run_of_strict (strict : session.engine.options.strict = true)
    (accepted : ∀ name missing,
      (session.check rule parameters).answer ≠ .error (.missingParameters name missing)) :
    session.engine.missing? rule (session.engine.mergedParameters parameters) = none ∧
      session.run rule parameters = Inquiry.run
        ⟨session.engine, session.identity, session.engine.mergedParameters parameters⟩ rule := by
  cases complete : session.engine.missing? rule (session.engine.mergedParameters parameters) with
  | none => exact ⟨rfl, by simp [run, strict, complete]⟩
  | some missing =>
    refine absurd ?_ (accepted rule missing)
    simp [check, run, strict, complete]

theorem entered_mem_callbacks {name : String} {depth : Nat} {identity : Identity} {given : Json}
    (entered : .entered name depth identity given ∈ session.callbacks rule parameters) :
    .entered name depth ∈ (session.run rule parameters).events := by
  obtain ⟨event, member, told⟩ := List.mem_filterMap.1 entered
  cases event with
  | entered => cases told; exact member
  | _ => cases told

/-- In a strict check that does not fail for missing parameters, every placeholder in a leaf of a
rule that is used for an entered name has a value other than null. So wherever placeholders are
replaced in the leaf, all of them give way to the plain texts of such values, and the leaf is
decided as the leaf with these texts in it. -/
theorem strict_check_leaves_no_placeholder (session : Session) (rule : String) (parameters : Json)
    (strict : session.engine.options.strict = true) (static : session.engine.StaticReferences)
    (accepted : ∀ name missing,
      (session.check rule parameters).answer ≠ .error (.missingParameters name missing))
    {name : String} {depth : Nat} {identity : Identity} {given : Json}
    (entered : .entered name depth identity given ∈ session.callbacks rule parameters)
    {resolved text : String} {compiled : CompiledRule}
    (resolves : session.engine.resolve? name = some (resolved, compiled))
    (member : text ∈ compiled.tree.leaves) :
    (∀ path, Text.Occurs path text →
      ∃ value, (session.engine.mergedParameters parameters).lookup? path = some value ∧
        value ≠ .null) ∧
    ∀ part, (Leaf.ofText text).template? = some part →
      (session.engine.mergedParameters parameters).FilledThroughout part
        ((session.engine.mergedParameters parameters).fill part) ∧
      (Leaf.ofText text).DecidedAs (session.engine.mergedParameters parameters)
        ((session.engine.mergedParameters parameters).fill part) := by
  obtain ⟨complete, run_eq⟩ := run_of_strict strict accepted
  have happened := entered_mem_callbacks entered
  rw [run_eq] at happened
  obtain ⟨levels, active, called, -, -⟩ := Inquiry.entered_mem_events_run_iff.1 happened
  have valued : ∀ path, Text.Occurs path text →
      ∃ value, (session.engine.mergedParameters parameters).lookup? path = some value ∧
        value ≠ .null := by
    intro path occurs
    have listed := Engine.mem_parameters_of_occurs resolves member occurs
    have reached := called.reaches static
    have required := Engine.mem_required_iff.2 ⟨name, resolved, compiled, reached, resolves, listed⟩
    exact Engine.exists_lookup?_of_missing?_eq_none complete required
  refine ⟨valued, ?_⟩
  intro part template
  refine ⟨Json.filledThroughout_fill fun path occurs => ?_, Leaf.decidedAs_fill template _⟩
  exact valued path (occurs.of_infix (Leaf.template?_infix template))

/-- The derivation of a rule that refers to a rule `b`. -/
def referringRule : Derivation .disjunction :=
  .lastDisjunct (.lastConjunct (.plain (.expression "rule:b")))

/-- The derivation of a rule that asks for the role which a parameter names. -/
def roleRule : Derivation .disjunction :=
  .lastDisjunct (.lastConjunct (.plain (.expression "role:%(r)s")))

/-- A strict session with a rule `a` that refers to a rule `b` with a parameter. -/
def strictSession : Session where
  engine := {
    configuration := ⟨[("a", "rule:b"), ("b", "role:%(r)s")], by decide +kernel⟩
    rules := [("a", .ofTree referringRule.tree), ("b", .ofTree roleRule.tree)]
    compiled := by
      have first : referringRule.lexemes = Lexeme.ofText "rule:b" := by decide +kernel
      have second : roleRule.lexemes = Lexeme.ofText "role:%(r)s" := by decide +kernel
      refine Configuration.compile_eq_ok_iff.2 (.cons ?_ (.cons ?_ .nil))
      · exact Configuration.compileRule_eq_ok_iff.2 ⟨rfl, referringRule, first, rfl⟩
      · exact Configuration.compileRule_eq_ok_iff.2 ⟨rfl, roleRule, second, rfl⟩
    options := { strict := true } }
  identity := ⟨{}⟩
  debug := false

theorem staticReferences_strictSession : strictSession.engine.StaticReferences := by
  have closed : Text.placeholders "b" = [] := by decide +kernel
  rintro entry member _ listed name rfl
  rcases List.mem_cons.1 member with rfl | member
  · have spelt : "rule:" ++ name = "rule:" ++ "b" := List.mem_singleton.1 listed
    obtain rfl := String.append_right_inj _ |>.1 spelt
    refine ⟨by decide, fun path occurs => ?_⟩
    rw [← Text.mem_placeholders_iff, closed] at occurs
    cases occurs
  · obtain rfl := List.mem_singleton.1 member
    have spelt := congrArg String.toList (List.mem_singleton.1 listed)
    simp at spelt

/-- The value of a parameter stands alone where its placeholder stands alone. -/
theorem eq_of_filledThroughout_role {filled : String}
    (throughout : Json.FilledThroughout (.object [("r", .string "x")]) "%(r)s" filled) :
    filled = "x" := by
  obtain ⟨pieces, values, cut, looks_up, rfl⟩ := throughout
  have read : Text.Pieces.ofSegments (Text.segments "%(r)s".toList) = ⟨[], [(['r'], [])]⟩ := by
    decide +kernel
  obtain rfl : pieces = ⟨[], [(['r'], [])]⟩ :=
    (cut.unique (Text.Pieces.cut_ofSegments _)).trans read
  have found : Json.lookup? (.object [("r", .string "x")]) (String.ofList ['r']) =
      some (.string "x") := by
    decide +kernel
  have value : values ['r'] = .string "x" :=
    Option.some.inj ((looks_up ['r'] List.mem_cons_self).1.symm.trans found)
  simp [Text.Pieces.render, value, Json.plainText]

theorem strict_check_leaves_no_placeholder_in_role :
    strictSession.engine.StaticReferences ∧
      .entered "b" 1 ⟨{}⟩ (.object [("r", .string "x")]) ∈
        strictSession.callbacks "a" (.object [("r", .string "x")]) ∧
      (∃ value, Json.lookup? (.object [("r", .string "x")]) "r" = some value ∧ value ≠ .null) ∧
      Json.fill (.object [("r", .string "x")]) "%(r)s" = "x" ∧
      ∀ surroundings : Surroundings Unit,
        (Leaf.role "%(r)s").evaluate
            { surroundings with parameters := .object [("r", .string "x")] } =
          (Leaf.role "x").evaluate { surroundings with parameters := .null } := by
  have static := staticReferences_strictSession
  have accepted : (strictSession.check "a" (.object [("r", .string "x")])).answer = .ok false := by
    decide +kernel
  have entered : .entered "b" 1 ⟨{}⟩ (.object [("r", .string "x")]) ∈
      strictSession.callbacks "a" (.object [("r", .string "x")]) := by
    decide +kernel
  have occurs : Text.Occurs "r" "role:%(r)s" :=
    Text.mem_placeholders_iff.1 (by decide +kernel)
  have merged : strictSession.engine.mergedParameters (.object [("r", .string "x")]) =
      .object [("r", .string "x")] := by
    decide +kernel
  have resolves : strictSession.engine.resolve? "b" = some ("b", .ofTree roleRule.tree) := rfl
  have read : Leaf.ofText "role:%(r)s" = .role "%(r)s" := by decide +kernel
  obtain ⟨valued, decided⟩ := strict_check_leaves_no_placeholder strictSession "a"
    (.object [("r", .string "x")]) rfl static (by rw [accepted]; nofun) entered resolves
    List.mem_cons_self
  rw [merged] at valued decided
  obtain ⟨throughout, same⟩ := decided "%(r)s" (by rw [read]; rfl)
  have written := eq_of_filledThroughout_role throughout
  rw [read, written] at same
  have unread : Json.fill .null "x" = "x" := by decide +kernel
  refine ⟨static, entered, valued "r" occurs, written, fun surroundings => ?_⟩
  exact same Unit surroundings .null unread fun place looked_up => by cases looked_up

end Session

end AccessPolicy
