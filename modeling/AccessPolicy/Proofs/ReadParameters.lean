import AccessPolicy.Proofs.Comparison
import AccessPolicy.Proofs.StrictParameters

/-!
# Parameters that a check reads

The leaves of an engine mention paths: those of their placeholders, and those that they look up
themselves. A check reads its parameters only at mentioned paths, whichever rules it comes to and
also where it insists on parameters. So parameters that agree at these paths lead to one answer.
-/

namespace AccessPolicy

/-- The paths that the leaf with the given text mentions. -/
def Leaf.mentioned (text : String) : List String :=
  Text.placeholders text ++ (ofText text).place?.toList

/-- The paths that the leaves of an engine mention. -/
def Engine.mentioned (engine : Engine) : List String :=
  (engine.rules.flatMap fun entry => entry.2.tree.leaves).flatMap Leaf.mentioned

/-- Parameters agree at paths if they have the same values there, or none. -/
def Json.AgreeAt (paths : List String) (first second : Json) : Prop :=
  ∀ path ∈ paths, first.lookup? path = second.lookup? path

variable {first second : Json}

theorem Json.AgreeAt.of_subset {paths more : List String} (agree : AgreeAt more first second)
    (part : paths ⊆ more) : AgreeAt paths first second :=
  fun path member => agree path (part member)

namespace Leaf

variable {text part place : String}

theorem fill_congr (agree : Json.AgreeAt (mentioned text) first second)
    (filled : (ofText text).template? = some part) : first.fill part = second.fill part := by
  apply Text.substitute_congr
  intro path occurs
  have inside := template?_infix filled
  have in_text : Text.Occurs path text := occurs.of_infix inside
  have listed : path ∈ mentioned text :=
    List.mem_append_left _ (Text.mem_placeholders_iff.2 in_text)
  rw [Json.parameterText?, Json.parameterText?, Json.present?, Json.present?, agree path listed]

theorem lookup?_congr (agree : Json.AgreeAt (mentioned text) first second)
    (looked_up : (ofText text).place? = some place) :
    first.lookup? place = second.lookup? place := by
  apply agree
  rw [mentioned, looked_up]
  exact List.mem_append_right _ List.mem_cons_self

end Leaf

namespace Engine

variable {engine : Engine}

theorem mentioned_leaf_subset {entry : String × CompiledRule} {text : String}
    (configured : entry ∈ engine.rules) (member : text ∈ entry.2.tree.leaves) :
    Leaf.mentioned text ⊆ engine.mentioned := by
  intro path listed
  exact List.mem_flatMap.2 ⟨text, List.mem_flatMap.2 ⟨entry, configured, member⟩, listed⟩

/-- Required paths are mentioned. -/
theorem required_subset_mentioned (engine : Engine) (name : String) :
    engine.required name ⊆ engine.mentioned := by
  intro path required
  obtain ⟨reached, resolved, rule, -, resolves, listed⟩ := mem_required_iff.1 required
  have configured := mem_rules_of_resolve? resolves
  obtain ⟨derivation, same⟩ := exists_derivation_of_mem_rules configured
  obtain rfl : CompiledRule.ofTree derivation.tree = rule := same
  obtain ⟨text, member, occurs⟩ :=
    derivation.mem_parameters_tree.1 (Names.mem_sorted.1 listed)
  apply mentioned_leaf_subset configured member
  exact List.mem_append_left _ (Text.mem_placeholders_iff.2 occurs)

theorem missing?_congr (name : String) (agree : Json.AgreeAt (engine.required name) first second) :
    engine.missing? name first = engine.missing? name second := by
  have same_missing : (engine.reportMerged name first).missing =
      (engine.reportMerged name second).missing := by
    apply List.filter_congr
    intro path required
    rw [agree path required]
  rw [missing?_eq_ite, missing?_eq_ite, same_missing]

end Engine

namespace Inquiry

variable {engine : Engine}

/-- A leaf without a reference decides alike for parameters that agree at the paths it mentions. -/
theorem decision_ruleless_congr {text : String} (identity : Identity)
    (no_remote : engine.options.remoteCheck? = none)
    (agree : Json.AgreeAt (Leaf.mentioned text) first second)
    (plain : ∀ value, Leaf.ofText text ≠ .rule value) :
    ((Leaf.ofText text).evaluate (ruleless ⟨engine, identity, first⟩)).decision =
      ((Leaf.ofText text).evaluate (ruleless ⟨engine, identity, second⟩)).decision := by
  have fills : ∀ part, (Leaf.ofText text).template? = some part →
      first.fill part = second.fill part := fun _ => Leaf.fill_congr agree
  have looks_up : ∀ place, (Leaf.ofText text).place? = some place →
      first.lookup? place = second.lookup? place := fun _ => Leaf.lookup?_congr agree
  cases read : Leaf.ofText text with
  | constant | malformed => simp only [Leaf.evaluate]
  | rule value => exact absurd read (plain value)
  | remote address => simp only [Leaf.evaluate, ruleless, surroundings, no_remote, Option.map_none]
  | literal _ value | role value | admin value | adminProject value | fact _ value =>
    have filled : first.fill value = second.fill value := fills value (read ▸ rfl)
    simp only [Leaf.evaluate, ruleless, surroundings, filled]
  | absent place | present place =>
    have found : first.lookup? place = second.lookup? place := looks_up place (read ▸ rfl)
    simp only [Leaf.evaluate, ruleless, surroundings, found]
  | path place value =>
    have filled : first.fill value = second.fill value := fills value (read ▸ rfl)
    have found : first.lookup? place = second.lookup? place := looks_up place (read ▸ rfl)
    simp only [Leaf.evaluate, Leaf.lookup?, ruleless, surroundings, filled, found]

/-- One who asks with parameters that agree at mentioned paths is told the same. -/
theorem compares_of_agreeAt (identity : Identity) (no_remote : engine.options.remoteCheck? = none)
    (agree : Json.AgreeAt engine.mentioned first second) :
    Compares Eq ⟨engine, identity, first⟩ ⟨engine, identity, second⟩ where
  engine := rfl
  failures _ := rfl
  trees _ _ _ _ := Node.decision_congr_of_leaves
  references _ configured _ member _ refers := by
    have own := agree.of_subset (Engine.mentioned_leaf_subset configured member)
    exact Leaf.fill_congr own (by rw [refers]; rfl)
  leaves _ configured _ member plain := by
    have own := agree.of_subset (Engine.mentioned_leaf_subset configured member)
    exact decision_ruleless_congr identity no_remote own plain

end Inquiry

namespace Session

/-- Without a remote check, an answer depends on the parameters of the call only through the values
that the paths mentioned in the rules have once the default parameters stand below. -/
theorem answer_eq_of_agreeAt_mentioned (session : Session) (rule : String) (given other : Json)
    (no_remote : session.engine.options.remoteCheck? = none)
    (agree : Json.AgreeAt session.engine.mentioned (session.engine.mergedParameters given)
      (session.engine.mergedParameters other)) :
    (session.check rule given).answer = (session.check rule other).answer := by
  have compares := Inquiry.compares_of_agreeAt session.identity no_remote agree
  have required := agree.of_subset (Engine.required_subset_mentioned session.engine rule)
  exact relation_answer compares (Engine.missing?_congr rule required).symm

/-- A strict session with a rule `a` that calls the rule which a parameter names. -/
def choosingSession : Session where
  engine := {
    (Engine.ofConfiguration
      (.ofList [("a", "rule:%(next)s"), ("b", "not null:owner")]) {}).toOption.get
      (by decide +kernel) with
    options := { strict := true } }
  identity := ⟨{}⟩
  debug := false

theorem answer_eq_of_agreeAt_mentioned_choosing :
    Json.AgreeAt choosingSession.engine.mentioned
        (choosingSession.engine.mergedParameters (.object [("next", .string "b")]))
        (choosingSession.engine.mergedParameters
          (.object [("next", .string "b"), ("other", .string "c")])) ∧
      (choosingSession.check "a" (.object [("next", .string "b")])).answer =
        (choosingSession.check "a"
          (.object [("next", .string "b"), ("other", .string "c")])).answer := by
  have leaves : (choosingSession.engine.rules.flatMap fun entry => entry.2.tree.leaves) =
      ["rule:%(next)s", "not null:owner"] := by
    decide +kernel
  have agree : Json.AgreeAt choosingSession.engine.mentioned
      (choosingSession.engine.mergedParameters (.object [("next", .string "b")]))
      (choosingSession.engine.mergedParameters
        (.object [("next", .string "b"), ("other", .string "c")])) := by
    rw [Json.AgreeAt, Engine.mentioned, leaves]
    decide +kernel
  exact ⟨agree, answer_eq_of_agreeAt_mentioned choosingSession "a" _ _ rfl agree⟩

end Session

end AccessPolicy
