import AccessPolicy.Proofs.Cycles

/-!
# References that rules list

A rule lists the names that its `rule:` leaves spell before placeholders are replaced, and leaves
out the empty name. So what a run refers to is what a leaf of the parent's rule spells with the
parameters put in, but a listed name only if the leaf spells one and has no placeholder with a
value. A leaf `rule:%(x)s` refers to the rule that the parameter names, and a leaf `rule:` to the
empty name, which the default rule is used for.
-/

namespace AccessPolicy

namespace Inquiry

variable {inquiry : Inquiry} {rule name parent reference : String} {levels depth : Nat}
  {active : List String}

/-- A reference in a call is spelt by the rule of its parent. -/
theorem Calls.spells_of_nested (called : inquiry.Calls rule levels active name)
    (nested : .nested parent reference depth ∈ (inquiry.decide levels active name).events) :
    inquiry.Spells parent reference := by
  induction called using Calls.run_induction with
  | old levels active name called old =>
    rw [decide_of_mem _ old] at nested
    cases List.mem_singleton.1 nested
  | unresolved levels active name called fresh unresolved =>
    rw [decide_of_unresolved levels fresh unresolved] at nested
    simp [Run.mem_events_enclosed, Run.failed] at nested
  | resolved levels active name called fresh resolved compiled resolves induction =>
    rcases (mem_events_of_resolved levels fresh resolves).1 nested with
      ⟨⟨⟩⟩ | ⟨-, ⟨⟩⟩ | ⟨text, visits, inner⟩ | ⟨⟨⟩⟩
    have not_remote (address : String) :
        Happening.nested parent reference depth ≠ .remoteAsked address := by
      rintro ⟨⟩
    obtain ⟨value, refers, within⟩ := exists_rule_of_mem_events inner not_remote
    rw [referenceRun, Run.mem_events_enclosed] at within
    rcases within with ahead | within | ⟨⟨⟩⟩
    · cases List.mem_singleton.1 ahead
      exact spells_of_visited resolves visits refers
    · exact induction text value visits refers within

end Inquiry

namespace Session

variable {session : Session} {rule parent reference : String} {parameters : Json} {depth : Nat}

/-- An observer is told only of references that the run meets. -/
theorem nested_mem_events
    (nested : .nested parent reference depth ∈ session.callbacks rule parameters) :
    .nested parent reference depth ∈ (session.run rule parameters).events := by
  obtain ⟨event, member, told⟩ := List.mem_filterMap.1 nested
  cases event with
  | nested found spelt level =>
    cases told
    exact member
  | _ => cases told

theorem spells_of_nested
    (nested : .nested parent reference depth ∈ session.callbacks rule parameters) :
    (session.inquiry parameters).Spells parent reference := by
  have met := nested_mem_events nested
  rcases session.run_cases rule parameters with ⟨-, missing, -, refused⟩ | ⟨-, decides⟩
  · rw [refused] at met
    cases List.mem_singleton.1 met
  · rw [decides] at met
    exact Inquiry.Calls.checked.spells_of_nested met

/-- A reference that an observer is told of is spelt by a leaf of the rule that its parent resolves
to. The rule lists what the leaf spells before placeholders are replaced, if that is not empty. So
it lists the reference if no placeholder of the leaf has a value. -/
theorem nested_reference_spelt (session : Session) (rule : String) (parameters : Json)
    (nested : .nested parent reference depth ∈ session.callbacks rule parameters) :
    ∃ resolved compiled value, session.engine.resolve? parent = some (resolved, compiled) ∧
      "rule:" ++ value ∈ compiled.tree.leaves ∧
      (session.engine.mergedParameters parameters).fill value = reference ∧
      (value ≠ "" → value ∈ compiled.references ∧
        ((∀ path, Text.Occurs path value →
          (session.engine.mergedParameters parameters).parameterText? path = none) →
            reference ∈ compiled.references)) := by
  obtain ⟨resolved, compiled, value, resolves, member, spelt⟩ := spells_of_nested nested
  refine ⟨resolved, compiled, value, resolves, member, spelt, fun named => ?_⟩
  have listed : value ∈ compiled.references :=
    Engine.mem_references_of_leaf (Engine.mem_rules_of_resolve? resolves) member named
  refine ⟨listed, fun unvalued => ?_⟩
  have same : reference = value := spelt.symm.trans (Text.substitute_eq_self unvalued)
  rw [same]
  exact listed

/-- A session with a rule that refers to the rule which a parameter names, and a rule that refers to
the empty name. -/
def spellingSession : Session where
  engine := (Engine.ofConfiguration
    (.ofList [("_default", "@"), ("a", "rule:%(x)s"), ("c", "rule:")]) {}).toOption.get
    (by decide +kernel)
  identity := ⟨{}⟩
  debug := false

theorem nested_reference_spelt_by_parameter :
    .nested "a" "b" 1 ∈ spellingSession.callbacks "a" (.object [("x", .string "b")]) ∧
      ∃ resolved compiled value,
        spellingSession.engine.resolve? "a" = some (resolved, compiled) ∧
        "rule:" ++ value ∈ compiled.tree.leaves ∧
        (spellingSession.engine.mergedParameters (.object [("x", .string "b")])).fill value =
          "b" ∧
        value ∈ compiled.references := by
  have nested :
      .nested "a" "b" 1 ∈ spellingSession.callbacks "a" (.object [("x", .string "b")]) := by
    decide +kernel
  obtain ⟨resolved, compiled, value, resolves, member, spelt, lists⟩ :=
    nested_reference_spelt spellingSession "a" _ nested
  have named : value ≠ "" := by
    rintro rfl
    revert spelt
    decide +kernel
  exact ⟨nested, resolved, compiled, value, resolves, member, spelt, (lists named).1⟩

/-- A run may refer to a name that the rule of its parent does not list. -/
theorem nested_reference_unlisted :
    (.nested "a" "b" 1 ∈ spellingSession.callbacks "a" (.object [("x", .string "b")]) ∧
      ∃ compiled, spellingSession.engine.resolve? "a" = some ("a", compiled) ∧
        "b" ∉ compiled.references) ∧
    .nested "c" "" 1 ∈ spellingSession.callbacks "c" .null ∧
      ∃ compiled, spellingSession.engine.resolve? "c" = some ("c", compiled) ∧
        "" ∉ compiled.references := by
  have by_parameter :
      .nested "a" "b" 1 ∈ spellingSession.callbacks "a" (.object [("x", .string "b")]) := by
    decide +kernel
  have by_nothing : .nested "c" "" 1 ∈ spellingSession.callbacks "c" .null := by decide +kernel
  have listed : (spellingSession.engine.resolve? "a").map
      (fun found => (found.1, found.2.references)) = some ("a", ["%(x)s"]) := by
    decide +kernel
  have unlisted : (spellingSession.engine.resolve? "c").map
      (fun found => (found.1, found.2.references)) = some ("c", []) := by
    decide +kernel
  obtain ⟨⟨resolved, compiled⟩, resolves, same⟩ := Option.map_eq_some_iff.1 listed
  obtain ⟨⟨other, empty⟩, other_resolves, other_same⟩ := Option.map_eq_some_iff.1 unlisted
  obtain ⟨rfl, references⟩ := Prod.mk.inj same
  obtain ⟨rfl, no_references⟩ := Prod.mk.inj other_same
  dsimp only at references no_references
  refine ⟨⟨by_parameter, compiled, resolves, ?_⟩, by_nothing, empty, other_resolves, ?_⟩
  · rw [references]
    decide
  · rw [no_references]
    exact List.not_mem_nil

end Session

end AccessPolicy
