import AccessPolicy.Engine.Metadata
import AccessPolicy.PolicyFile.Load
import AccessPolicy.Proofs.Entries
import AccessPolicy.Proofs.Rules
import Mathlib.Data.Set.List

/-!
# Building engines

An engine is built from a whole configuration or not at all. One that is built describes every rule
of its configuration and no other; otherwise the error names the least rule that is refused. An
untyped object is read like the configuration with the same fields.
-/

namespace AccessPolicy

namespace Configuration

/-- What is asked of a configuration and of options before any rule is compiled. -/
structure Admissible (configuration : Configuration) (options : EngineOptions) : Prop where
  /-- There is a rule. -/
  nonempty : configuration.entries ≠ []
  /-- Every rule has a name. -/
  named : "" ∉ configuration.names
  /-- The default parameters are null or an object. -/
  defaults : options.defaultParameters = .null ∨
    ∃ fields, options.defaultParameters = .object fields

/-- The rules as the fields of an object. -/
def toFields (configuration : Configuration) : Entries Json :=
  configuration.entries.map fun rule => (rule.1, .string rule.2)

/-- A field as a rule, if its value is a text. -/
def readField {Error : Type} (refuse : String × Json → Error) (field : String × Json) :
    Except Error (String × String) :=
  match field.2 with
  | .string expression => .ok (field.1, expression)
  | _ => .error (refuse field)

end Configuration

/-- Whether a value is a text. -/
def Json.IsText (value : Json) : Prop := ∃ text, value = .string text

namespace Configuration

variable {Error : Type} {refuse : String × Json → Error} {fields : Entries Json}
  {configuration : Configuration}

theorem mapM_readField {step : String × Json → Except Error (String × String)}
    (agree : ∀ field, step field = readField refuse field) :
    (do
      let entries ← fields.mapM step
      return ofList entries) = (fields.mapM (readField refuse)).map ofList := by
  rw [funext agree]
  cases fields.mapM (readField refuse) <;> rfl

theorem ofJson_object : ofJson (.object fields) =
    (fields.mapM (readField fun field => .configuration (.notAnExpression field.1))).map
      ofList :=
  mapM_readField fun (_, value) => by cases value <;> rfl

theorem ofDocument_object : ofDocument (.object fields) =
    (fields.mapM (readField fun field => .notAnExpression field.1 field.2)).map ofList :=
  mapM_readField fun (_, value) => by cases value <;> rfl

theorem readField_eq_error_iff {field : String × Json} {error : Error} :
    readField refuse field = .error error ↔ ¬field.2.IsText ∧ refuse field = error := by
  obtain ⟨name, value⟩ := field
  cases value <;> simp [readField, Json.IsText]

/-- Fields that are all texts are the rules of a configuration. -/
theorem exists_toFields (sorted : Entries.Sorted fields)
    (texts : ∀ field ∈ fields, field.2.IsText) :
    ∃ given : Configuration, fields = given.toFields := by
  have listed : fields ∈ Set.range
      (List.map fun rule : String × String => (rule.1, Json.string rule.2)) := by
    rw [Set.range_list_map]
    intro field member
    obtain ⟨text, same⟩ := texts field member
    exact ⟨(field.1, text), Prod.ext rfl same.symm⟩
  obtain ⟨entries, rfl⟩ := listed
  rw [Entries.Sorted, List.pairwise_map] at sorted
  exact ⟨⟨entries, sorted⟩, rfl⟩

/-- The fields of a configuration are read back, whatever is refused. -/
theorem mapM_readField_toFields :
    configuration.toFields.mapM (readField refuse) = .ok configuration.entries := by
  rw [Traversal.mapM_eq_ok_iff, toFields, List.forall₂_map_left_iff, List.forall₂_same]
  intro rule _
  rfl

theorem ofList_entries : ofList configuration.entries = configuration := by
  obtain ⟨entries, sorted⟩ := configuration
  rw [ofList, mk.injEq]
  exact Entries.ofList_of_sorted sorted

theorem ofJson_toFields : ofJson (.object configuration.toFields) = .ok configuration := by
  rw [ofJson_object, mapM_readField_toFields]
  exact congrArg Except.ok ofList_entries

theorem ofDocument_toFields : ofDocument (.object configuration.toFields) = .ok configuration := by
  rw [ofDocument_object, mapM_readField_toFields]
  exact congrArg Except.ok ofList_entries

/-- Fields of which some are no texts are refused because of the least one of those. -/
theorem exists_least_of_not_isText (sorted : Entries.Sorted fields)
    (strange : ∃ field ∈ fields, ¬field.2.IsText) :
    ∃ field, Entries.Least (fun other => ¬other.2.IsText) fields field ∧
      ∀ {Error : Type} (refuse : String × Json → Error),
        fields.mapM (readField refuse) = .error (refuse field) := by
  have refused (field : String × Json) :
      (∃ error, readField id field = .error error) ↔ ¬field.2.IsText := by
    simp [readField_eq_error_iff]
  simp only [← refused] at strange ⊢
  obtain ⟨field, error, least, fails, traversed⟩ := Entries.exists_least_of_mapM sorted strange
  obtain ⟨-, rfl⟩ := readField_eq_error_iff.1 fails
  refine ⟨field, least, fun refuse => ?_⟩
  have told : readField refuse = fun other => (readField id other).mapError refuse := by
    funext (_, value)
    cases value <;> rfl
  rw [told, Traversal.mapM_mapError, traversed]
  rfl

theorem compileRule_eq_error_iff {rule : String × String} {error : PolicyError} :
    compileRule rule = .error error ↔
      ∃ cause, CompiledRule.ofText rule.2 = .error cause ∧ .compilation rule.1 cause = error := by
  rw [compileRule]
  cases CompiledRule.ofText rule.2 with
  | ok compiled => simp
  | error cause => simp

/-- A configuration compiles if all its expressions do. -/
theorem exists_compile_eq_ok_iff : (∃ rules, configuration.compile = .ok rules) ↔
    ∀ rule ∈ configuration.entries, ∃ compiled, CompiledRule.ofText rule.2 = .ok compiled := by
  constructor
  · rintro ⟨rules, compiles⟩ rule member
    obtain ⟨entry, -, compiled⟩ := Traversal.exists_of_mapM_eq_ok compiles member
    exact ⟨entry.2, (compileRule_eq_ok_iff_ofText.1 compiled).2⟩
  · intro compiles
    cases compiled : configuration.compile with
    | ok rules => exact ⟨rules, rfl⟩
    | error error =>
      obtain ⟨front, rule, back, split, -, fails⟩ := Traversal.mapM_eq_error_iff.1 compiled
      obtain ⟨cause, failed, -⟩ := compileRule_eq_error_iff.1 fails
      obtain ⟨other, succeeded⟩ := compiles rule (by simp [split])
      rw [failed] at succeeded
      cases succeeded

/-- A configuration with expressions that fail is refused because of the least one of those. -/
theorem exists_least_of_compile (fails : ∃ rule ∈ configuration.entries,
      ∃ cause, CompiledRule.ofText rule.2 = .error cause) :
    ∃ rule cause, Entries.Least (fun other => ∃ cause, CompiledRule.ofText other.2 = .error cause)
        configuration.entries rule ∧
      CompiledRule.ofText rule.2 = .error cause ∧
      configuration.compile = .error (.compilation rule.1 cause) := by
  have refused (rule : String × String) : (∃ error, compileRule rule = .error error) ↔
      ∃ cause, CompiledRule.ofText rule.2 = .error cause := by
    simp [compileRule_eq_error_iff]
  simp only [← refused] at fails ⊢
  obtain ⟨rule, error, least, failed, compiled⟩ :=
    Entries.exists_least_of_mapM configuration.sorted fails
  obtain ⟨cause, here, rfl⟩ := compileRule_eq_error_iff.1 failed
  exact ⟨rule, cause, least, here, compiled⟩

end Configuration

namespace Engine

variable {engine : Engine} {configuration : Configuration} {options : EngineOptions}
  {name : String}

/-- What is admissible is built from the compiled rules or fails as they do. -/
theorem ofConfiguration_of_admissible (admissible : configuration.Admissible options) :
    ofConfiguration configuration options =
      match compiled : configuration.compile with
      | .ok rules => .ok ⟨configuration, rules, compiled, options⟩
      | .error error => .error error := by
  have nonempty : ¬configuration.entries.isEmpty = true := by
    simpa using admissible.nonempty
  have named : ¬configuration.names.contains "" = true := by
    simpa using admissible.named
  rw [ofConfiguration, if_neg nonempty, if_neg named]
  split
  next => rfl
  next => rfl
  next other not_null not_object =>
    rcases admissible.defaults with null | ⟨fields, object⟩
    · exact absurd null not_null
    · exact absurd object (not_object fields)

theorem admissible_of_ofConfiguration
    (built : ofConfiguration configuration options = .ok engine) :
    configuration.Admissible options := by
  rw [ofConfiguration] at built
  split at built
  next => cases built
  next nonempty =>
  split at built
  next => cases built
  next named =>
  refine ⟨by simpa using nonempty, by simpa using named, ?_⟩
  split at built
  next null => exact Or.inl null
  next fields object => exact Or.inr ⟨fields, object⟩
  next => cases built

/-- An engine is built if its configuration and its options are admissible and the configuration
compiles. It has just these, and its rules are the compiled ones. -/
theorem ofConfiguration_eq_ok_iff : ofConfiguration configuration options = .ok engine ↔
    configuration.Admissible options ∧ engine.configuration = configuration ∧
      engine.options = options := by
  constructor
  · intro built
    have admissible := admissible_of_ofConfiguration built
    rw [ofConfiguration_of_admissible admissible] at built
    split at built
    next =>
      cases built
      exact ⟨admissible, rfl, rfl⟩
    next => cases built
  · rintro ⟨admissible, rfl, rfl⟩
    rw [ofConfiguration_of_admissible admissible]
    split
    next rules compiled =>
      have same : rules = engine.rules := by
        rw [engine.compiled] at compiled
        cases compiled
        rfl
      subst same
      rfl
    next error refused =>
      rw [engine.compiled] at refused
      cases refused

theorem ofConfiguration_of_refused (admissible : configuration.Admissible options)
    {error : PolicyError} (refused : configuration.compile = .error error) :
    ofConfiguration configuration options = .error error := by
  rw [ofConfiguration_of_admissible admissible]
  split
  next compiled =>
    rw [refused] at compiled
    cases compiled
  next failed =>
    rw [refused] at failed
    cases failed
    rfl

theorem exists_ofConfiguration_eq_ok_iff :
    (∃ engine, ofConfiguration configuration options = .ok engine) ↔
      configuration.Admissible options ∧
        ∀ rule ∈ configuration.entries, ∃ compiled, CompiledRule.ofText rule.2 = .ok compiled := by
  rw [← Configuration.exists_compile_eq_ok_iff]
  constructor
  · rintro ⟨engine, built⟩
    obtain ⟨admissible, rfl, -⟩ := ofConfiguration_eq_ok_iff.1 built
    exact ⟨admissible, engine.rules, engine.compiled⟩
  · rintro ⟨admissible, rules, compiled⟩
    let engine : Engine := ⟨configuration, rules, compiled, options⟩
    exact ⟨engine, ofConfiguration_eq_ok_iff.2 ⟨admissible, rfl, rfl⟩⟩

/-- An engine has a compiled rule just where its configuration has an expression. -/
theorem find?_or_rule? (engine : Engine) (name : String) :
    engine.configuration.find? name = none ∧ engine.rule? name = none ∨
      ∃ expression rule, engine.configuration.find? name = some expression ∧
        engine.rule? name = some rule ∧ CompiledRule.ofText expression = .ok rule := by
  have compiled := Configuration.compile_eq_ok_iff.1 engine.compiled
  exact Entries.find?_of_forall₂
    (compiled.imp fun _ _ => Configuration.compileRule_eq_ok_iff_ofText.1)

theorem rule?_eq_some_iff {rule : CompiledRule} : engine.rule? name = some rule ↔
    ∃ expression, engine.configuration.find? name = some expression ∧
      CompiledRule.ofText expression = .ok rule := by
  rcases engine.find?_or_rule? name with ⟨absent, unruled⟩ | ⟨_, _, found, ruled, compiled⟩
  · simp [absent, unruled]
  · simp [found, ruled, compiled]

theorem hasRule_iff : engine.hasRule name = true ↔ name ∈ engine.configuration.names := by
  rw [Configuration.names, Entries.mem_keys_iff, hasRule, ← Configuration.find?]
  rcases engine.find?_or_rule? name with ⟨absent, unruled⟩ | ⟨_, _, found, ruled, -⟩
  · simp [absent, unruled]
  · simp [found, ruled]

theorem metadata?_eq_some_iff {metadata : RuleMetadata} :
    engine.metadata? name = some metadata ↔
      ∃ expression rule, engine.configuration.find? name = some expression ∧
        CompiledRule.ofText expression = .ok rule ∧
        metadata = {
          name, expression
          parameters := rule.parameters
          references := rule.references
          fingerprint := Fingerprint.ofRule name expression } := by
  rw [metadata?]
  rcases engine.find?_or_rule? name with ⟨absent, unruled⟩ | ⟨_, _, found, ruled, compiled⟩
  · simp [absent, unruled]
  · simp [found, ruled, compiled, eq_comm]

theorem isSome_metadata?_iff :
    (engine.metadata? name).isSome = true ↔ name ∈ engine.configuration.names := by
  rw [← hasRule_iff, hasRule, metadata?]
  rcases engine.find?_or_rule? name with ⟨-, unruled⟩ | ⟨_, _, found, ruled, -⟩
  · simp [unruled]
  · simp [found, ruled]

theorem name_of_metadata? {metadata : RuleMetadata}
    (described : engine.metadata? name = some metadata) : metadata.name = name := by
  obtain ⟨_, _, -, -, rfl⟩ := metadata?_eq_some_iff.1 described
  rfl

/-- No configured name is left out of a list of descriptions. -/
theorem map_name_filterMap_metadata? {names : List String}
    (configured : names ⊆ engine.configuration.names) :
    (names.filterMap engine.metadata?).map (·.name) = names := by
  induction names with
  | nil => rfl
  | cons name rest induction =>
    obtain ⟨here, later⟩ := List.cons_subset.1 configured
    obtain ⟨metadata, described⟩ := Option.isSome_iff_exists.1 (isSome_metadata?_iff.2 here)
    rw [List.filterMap_cons_some described, List.map_cons, induction later,
      name_of_metadata? described]

theorem map_name_summary : engine.summary.rules.map (·.name) = engine.configuration.names :=
  map_name_filterMap_metadata? (List.Subset.refl _)

theorem metadata?_of_mem_summary {metadata : RuleMetadata}
    (listed : metadata ∈ engine.summary.rules) :
    engine.metadata? metadata.name = some metadata := by
  obtain ⟨name, -, described⟩ := List.mem_filterMap.1 listed
  rw [name_of_metadata? described, described]

theorem count_summary : engine.summary.count = engine.configuration.names.length := by
  have compiled := Configuration.compile_eq_ok_iff.1 engine.compiled
  rw [Configuration.names, Entries.keys, List.length_map, compiled.length_eq]
  rfl

/-- What an engine tells about the rules of a configuration, and that it has no other rule. -/
structure Describes (engine : Engine) (configuration : Configuration) : Prop where
  /-- The engine has the rules of the configuration. -/
  hasRule_iff (name : String) : engine.hasRule name = true ↔ name ∈ configuration.names
  /-- A compiled rule is that of the expression with its name. -/
  rule?_eq_some_iff (name : String) (rule : CompiledRule) : engine.rule? name = some rule ↔
    ∃ expression, configuration.find? name = some expression ∧
      CompiledRule.ofText expression = .ok rule
  /-- The rules of the configuration are described. -/
  isSome_metadata?_iff (name : String) :
    (engine.metadata? name).isSome = true ↔ name ∈ configuration.names
  /-- A description is made of the expression and the compiled rule with its name. -/
  metadata?_eq_some_iff (name : String) (metadata : RuleMetadata) :
    engine.metadata? name = some metadata ↔
      ∃ expression rule, configuration.find? name = some expression ∧
        CompiledRule.ofText expression = .ok rule ∧
        metadata = {
          name, expression
          parameters := rule.parameters
          references := rule.references
          fingerprint := Fingerprint.ofRule name expression }
  /-- The summary lists the rules of the configuration. -/
  summary_names : engine.summary.rules.map (·.name) = configuration.names
  /-- The summary lists them in the order of their names, so each one once. -/
  summary_increasing : (engine.summary.rules.map (·.name)).Pairwise fun first second =>
    Text.bytes first < Text.bytes second
  /-- The summary lists descriptions. -/
  summary_metadata : ∀ metadata ∈ engine.summary.rules,
    engine.metadata? metadata.name = some metadata
  /-- The summary counts the rules. -/
  summary_count : engine.summary.count = configuration.names.length
  /-- The summary tells whether there is a default rule. -/
  summary_hasDefault : engine.summary.hasDefault = true ↔ defaultRule ∈ configuration.names
  /-- The summary has the fingerprint of the configuration. -/
  summary_fingerprint : engine.summary.fingerprint = Fingerprint.ofConfiguration configuration

theorem describes_configuration (engine : Engine) : engine.Describes engine.configuration where
  hasRule_iff _ := hasRule_iff
  rule?_eq_some_iff _ _ := rule?_eq_some_iff
  isSome_metadata?_iff _ := isSome_metadata?_iff
  metadata?_eq_some_iff _ _ := metadata?_eq_some_iff
  summary_names := map_name_summary
  summary_increasing := by
    rw [map_name_summary, Configuration.names, Entries.keys, List.pairwise_map]
    exact engine.configuration.sorted.imp Text.bytes_lt_bytes_iff.2
  summary_metadata _ := metadata?_of_mem_summary
  summary_count := count_summary
  summary_hasDefault := hasRule_iff
  summary_fingerprint := rfl

/-- Building an engine is all or nothing, and what is built is faithful. An engine is built if what
is asked before compiling holds and every expression compiles, and it then describes the
configuration; if only the second fails, the error is that of the least rule that does not compile.
An object is built like the configuration with its fields, unless some field is no text: the error
then names the least such field, the same one that reading a document names. -/
theorem built_whole_or_refused {fields : Entries Json} (sorted : fields.Sorted)
    (configuration : Configuration) (options : EngineOptions) :
    ((∃ engine, ofConfiguration configuration options = .ok engine) ↔
      configuration.Admissible options ∧
        ∀ rule ∈ configuration.entries, ∃ compiled, CompiledRule.ofText rule.2 = .ok compiled) ∧
    (∀ engine, ofConfiguration configuration options = .ok engine →
      engine.Describes configuration ∧ engine.options = options) ∧
    (configuration.Admissible options →
      (∃ rule ∈ configuration.entries, ∃ cause, CompiledRule.ofText rule.2 = .error cause) →
      ∃ rule cause,
        Entries.Least (fun other => ∃ cause, CompiledRule.ofText other.2 = .error cause)
          configuration.entries rule ∧
        CompiledRule.ofText rule.2 = .error cause ∧
        ofConfiguration configuration options = .error (.compilation rule.1 cause)) ∧
    ((∀ field ∈ fields, field.2.IsText) →
      ∃ given : Configuration, fields = given.toFields ∧
        ofJson (.object fields) options = ofConfiguration given options ∧
        Configuration.ofDocument (.object fields) = .ok given) ∧
    ((∃ field ∈ fields, ¬field.2.IsText) →
      ∃ field, Entries.Least (fun other => ¬other.2.IsText) fields field ∧
        ofJson (.object fields) options = .error (.configuration (.notAnExpression field.1)) ∧
        Configuration.ofDocument (.object fields) =
          .error (.notAnExpression field.1 field.2)) := by
  refine ⟨exists_ofConfiguration_eq_ok_iff, ?_, ?_, ?_, ?_⟩
  · intro engine built
    obtain ⟨-, rfl, own⟩ := ofConfiguration_eq_ok_iff.1 built
    exact ⟨engine.describes_configuration, own⟩
  · intro admissible fails
    obtain ⟨rule, cause, least, failed, refused⟩ := Configuration.exists_least_of_compile fails
    exact ⟨rule, cause, least, failed, ofConfiguration_of_refused admissible refused⟩
  · intro texts
    obtain ⟨given, rfl⟩ := Configuration.exists_toFields sorted texts
    refine ⟨given, rfl, ?_, Configuration.ofDocument_toFields⟩
    rw [ofJson, Configuration.ofJson_toFields]
    rfl
  · intro strange
    obtain ⟨field, least, refused⟩ := Configuration.exists_least_of_not_isText sorted strange
    refine ⟨field, least, ?_, ?_⟩
    · rw [ofJson, Configuration.ofJson_object, refused]
      rfl
    · rw [Configuration.ofDocument_object, refused]
      rfl

/-- A configuration whose two rules are both malformed. -/
def malformedRules : Configuration := ⟨[("a", "or"), ("b", "and")], by decide +kernel⟩

/-- The first of two malformed rules and the first of two fields without a text are named. -/
theorem built_whole_or_refused_first :
    Entries.Sorted [("a", Json.null), ("b", .bool true)] ∧
    ofConfiguration malformedRules {} = .error (.compilation "a" .leadingOperator) ∧
    ofJson (.object [("a", .null), ("b", .bool true)]) {} =
      .error (.configuration (.notAnExpression "a")) ∧
    Configuration.ofDocument (.object [("a", .null), ("b", .bool true)]) =
      .error (.notAnExpression "a" .null) := by
  have sorted : Entries.Sorted [("a", Json.null), ("b", .bool true)] := by decide +kernel
  have admissible : malformedRules.Admissible {} := ⟨by decide, by decide, Or.inl rfl⟩
  have malformed : CompiledRule.ofText "or" = .error .leadingOperator := by
    have lexemes : Lexeme.ofText "or" = [⟨.operator, "or"⟩] := by decide +kernel
    rw [CompiledRule.ofText, lexemes]
    rfl
  have no_text : ¬Json.null.IsText := by rintro ⟨text, ⟨⟩⟩
  obtain ⟨-, -, refused, -, unread⟩ := built_whole_or_refused sorted malformedRules {}
  obtain ⟨rule, cause, least_rule, failed, not_built⟩ :=
    refused admissible ⟨("a", "or"), List.mem_cons_self, _, malformed⟩
  obtain ⟨field, least_field, not_read, not_loaded⟩ :=
    unread ⟨("a", .null), List.mem_cons_self, no_text⟩
  have rule_first : rule = ("a", "or") :=
    least_rule.eq_first malformedRules.sorted ⟨_, malformed⟩
  have field_first : field = ("a", .null) := least_field.eq_first sorted no_text
  subst rule_first field_first
  rw [malformed] at failed
  cases failed
  exact ⟨sorted, not_built, not_read, not_loaded⟩

end Engine

end AccessPolicy
