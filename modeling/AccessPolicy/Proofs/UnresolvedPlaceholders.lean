import AccessPolicy.Check.Evaluate
import AccessPolicy.Proofs.Leaves
import AccessPolicy.Proofs.Placeholders

/-!
# Placeholders that stay in place

A placeholder whose path has no value stays in the value of a leaf as it is written. Such a value
means none of the texts that stand for truth values or for a missing fact, so a leaf that compares
it with texts holds only if one of them is that very value, with the placeholder in it.
-/

namespace AccessPolicy

/-! ## Values that keep a placeholder -/

theorem Text.Occurs.percent_mem {path text : String} (occurs : Occurs path text) :
    '%' ∈ text.toList :=
  occurs.2.subset List.mem_cons_self

/-- A text with a percent sign differs from one without also if the case of letters is ignored. -/
theorem Text.sameLetters_eq_false {text other : String} (percent : '%' ∈ text.toList)
    (clear : '%' ∉ (lower other).toList) : sameLetters text other = false := by
  rw [sameLetters, beq_eq_false_iff_ne]
  intro same
  rw [← same, lower, String.toList_ofList] at clear
  exact clear (List.mem_map_of_mem percent)

theorem Json.parameterText?_eq_none {parameters : Json} {path : String}
    (missing : isMissing (parameters.lookup? path) = true) :
    parameters.parameterText? path = none := by
  rw [parameterText?, present?]
  cases found : parameters.lookup? path with
  | none => rfl
  | some value =>
    rw [found] at missing
    cases value with
    | null => rfl
    | _ => cases missing

/-- A missing parameter leaves its placeholder in the filled text. -/
theorem Json.occurs_fill {parameters : Json} {path text : String}
    (occurs : Text.Occurs path text)
    (missing : isMissing (parameters.lookup? path) = true) :
    Text.Occurs path (parameters.fill text) :=
  Text.Occurs.substitute occurs (parameterText?_eq_none missing)

namespace Leaf

section Values

variable {value : String}

theorem ne_of_percent_mem {other : String} (percent : '%' ∈ value.toList)
    (clear : '%' ∉ other.toList) : value ≠ other := by
  rintro rfl
  exact clear percent

/-- No flag is as a value with a percent sign says. -/
theorem flagMatches_eq_false (flag acceptOne : Bool) (percent : '%' ∈ value.toList) :
    flagMatches flag value acceptOne = false := by
  have not_true : Text.sameLetters value "true" = false :=
    Text.sameLetters_eq_false percent (by decide +kernel)
  have not_false : Text.sameLetters value "false" = false :=
    Text.sameLetters_eq_false percent (by decide +kernel)
  have not_one : value ≠ "1" := ne_of_percent_mem percent (by decide)
  have not_plain : value ≠ Json.boolText flag := by
    cases flag
    all_goals exact ne_of_percent_mem percent (by decide)
  simp [flagMatches, not_true, not_false, not_one, not_plain.symm]

theorem factMatches_iff_of_percent {fact : Option String} (percent : '%' ∈ value.toList) :
    factMatches fact value = true ↔ value ∈ fact.toList := by
  have not_null : value ≠ "null" := ne_of_percent_mem percent (by decide)
  cases fact with
  | none => simp [factMatches, not_null]
  | some actual => simpa [factMatches] using eq_comm

theorem valueMatches_iff_of_percent {actual : Option Json} (percent : '%' ∈ value.toList) :
    valueMatches actual value = true ↔
      value ∈ ((actual.filter fun found => !found.isNull).map Json.plainText).toList := by
  have not_null : value ≠ "null" := ne_of_percent_mem percent (by decide)
  rw [valueMatches, if_neg not_null]
  cases actual with
  | none => simp [Json.textEquals]
  | some found => cases found <;> simp [Json.textEquals, Json.isNull]

end Values

/-! ## What a leaf compares -/

variable {Event : Type}

/-- The value of a leaf that compares its value with something. -/
def comparison? : Leaf → Option String
  | .literal _ value | .role value | .admin value | .adminProject value | .fact _ value
  | .path _ value => some value
  | .constant _ | .remote _ | .absent _ | .present _ | .rule _ | .malformed _ => none

/-- The texts that a leaf compares its value with: the text in quotes, the role names of the
identity, the fact if there is one, or the plain text of the looked-up value unless that is missing.
A flag is not compared as a text. -/
def comparedTexts (surroundings : Surroundings Event) : Leaf → List String
  | .literal text _ => [text]
  | .role _ => (surroundings.identity?.map (·.roleNames)).getD []
  | .fact tested _ => (surroundings.identity?.bind (·.fact? tested)).toList
  | .path place _ =>
    (((lookup? surroundings place).filter fun found => !found.isNull).map Json.plainText).toList
  | _ => []

theorem comparison?_ofKey {key : String} (value : String)
    (free : key ∉ ["rule", "None", "not null"]) : (ofKey key value).comparison? = some value := by
  simp only [List.mem_cons, List.not_mem_nil, or_false, not_or] at free
  obtain ⟨not_rule, not_absent, not_present⟩ := free
  fun_cases ofKey key value with
  | case1 same => exact absurd same not_absent
  | case2 _ same => exact absurd same not_present
  | case3 _ _ same => exact absurd same not_rule
  | _ => rfl

/-- A leaf that compares a value with a percent sign holds if one of the compared texts is this
value. -/
theorem evaluate_iff_mem_comparedTexts {surroundings : Surroundings Event} {leaf : Leaf}
    {value : String} (compares : leaf.comparison? = some value)
    (percent : '%' ∈ (surroundings.parameters.fill value).toList) :
    ∃ allowed, leaf.evaluate surroundings = .settled (.ok allowed) ∧
      (allowed = true ↔ surroundings.parameters.fill value ∈ leaf.comparedTexts surroundings) := by
  cases leaf with
  | literal text value =>
    cases compares
    exact ⟨_, rfl, by simpa [comparedTexts] using eq_comm⟩
  | role value =>
    cases compares
    refine ⟨_, rfl, ?_⟩
    cases asks : surroundings.identity? <;> simp [comparedTexts, asks, Identity.hasRole]
  | admin value =>
    cases compares
    refine ⟨_, rfl, ?_⟩
    simp [comparedTexts, flagMatches_eq_false _ _ percent]
  | adminProject value =>
    cases compares
    refine ⟨_, rfl, ?_⟩
    simp [comparedTexts, flagMatches_eq_false _ _ percent]
  | fact tested value =>
    cases compares
    exact ⟨_, rfl, factMatches_iff_of_percent percent⟩
  | path place value =>
    cases compares
    exact ⟨_, rfl, valueMatches_iff_of_percent percent⟩
  | _ => cases compares

/-! ## Subjects -/

/-- What stands before the colon of a leaf. -/
inductive Subject where
  /-- A text in quotes. -/
  | quoted (text : String)
  /-- A key. -/
  | keyed (key : String)
  deriving DecidableEq, Repr

/-- What a leaf with a subject and a value tests. -/
def Subject.leaf : Subject → String → Leaf
  | .quoted text, value => .literal text value
  | .keyed key, value => ofKey key value

/-- Whether a text begins with a text in quotes, followed by a colon and a value. -/
def Quotes (text inner value : String) : Prop :=
  ∃ quote, (quote = '\'' ∨ quote = '"') ∧ quote ∉ inner.toList ∧
    text.toList = quote :: (inner.toList ++ quote :: ':' :: value.toList)

/-- How a leaf is written with a subject and a value. A leaf that begins with a text in quotes and a
colon has no key. -/
inductive Written (text : String) : Subject → String → Prop
  /-- A text in quotes, a colon and the value. -/
  | quoted {inner value : String} (quotes : Quotes text inner value) :
      Written text (.quoted inner) value
  /-- A key without colons, a colon and the value. -/
  | keyed {key value : String} (unquoted : ∀ inner rest, ¬Quotes text inner rest)
      (clear : ':' ∉ key.toList) (spelt : text = key ++ ":" ++ value) :
      Written text (.keyed key) value

section Reading

variable {text value path : String} {subject : Subject} {surroundings : Surroundings Event}

theorem quotes_iff_splitQuoted? {inner : String} :
    Quotes text inner value ↔
      splitQuoted? text.toList = some (inner.toList, value.toList) :=
  splitQuoted?_eq_some_iff.symm

theorem splitQuoted?_eq_none_iff :
    splitQuoted? text.toList = none ↔ ∀ inner rest, ¬Quotes text inner rest := by
  rw [Option.eq_none_iff_forall_ne_some]
  constructor
  · intro unsplit inner rest quotes
    exact unsplit _ (quotes_iff_splitQuoted?.1 quotes)
  · rintro unquoted ⟨inner, rest⟩ quoted
    apply unquoted (String.ofList inner) (String.ofList rest)
    rw [quotes_iff_splitQuoted?, quoted, String.toList_ofList, String.toList_ofList]

/-- A colon is written in every leaf with a subject. -/
theorem Written.colon_mem (written : Written text subject value) : ':' ∈ text.toList := by
  cases written with
  | quoted quotes =>
    obtain ⟨quote, -, -, spelt⟩ := quotes
    simp [spelt]
  | keyed unquoted clear spelt => simp [spelt]

/-- A text is read as it is written unless it is an address. -/
theorem ofText_of_written (written : Written text subject value)
    (local_check : isAddress text = false) : ofText text = subject.leaf value := by
  have differs : ∀ other : String, ':' ∉ other.toList → text ≠ other := by
    rintro other no_colon rfl
    exact no_colon written.colon_mem
  rw [ofText, if_neg (not_or.2 ⟨differs "@" (by decide), differs "true" (by decide)⟩),
    if_neg (not_or.2 ⟨differs "!" (by decide), differs "false" (by decide)⟩), local_check,
    if_neg Bool.false_ne_true]
  cases written with
  | quoted quotes =>
    simp only [quotes_iff_splitQuoted?.1 quotes, String.ofList_toList, Subject.leaf]
  | @keyed key _ unquoted clear spelt =>
    have keyed : splitAt? ':' text.toList = some (key.toList, value.toList) :=
      splitAt?_eq_some_iff.2 ⟨clear, by simp [spelt]⟩
    simp only [splitQuoted?_eq_none_iff.2 unquoted, keyed, String.ofList_toList, Subject.leaf]

theorem Subject.comparison?_leaf (value : String)
    (free : subject ∉ [.keyed "rule", .keyed "None", .keyed "not null"]) :
    (subject.leaf value).comparison? = some value := by
  cases subject with
  | quoted text => rfl
  | keyed key => exact comparison?_ofKey value (by simpa using free)

/-- A leaf with a placeholder whose path is missing in the parameters is always decided. It holds
exactly if a text that it compares is the filled value, and that has the placeholder in it as it is
written. A flag is never as such a value says. -/
theorem unresolved_placeholder_fails_closed (written : Written text subject value)
    (local_check : isAddress text = false)
    (free : subject ∉ [.keyed "rule", .keyed "None", .keyed "not null"])
    (occurs : Text.Occurs path value)
    (missing : Json.isMissing (surroundings.parameters.lookup? path) = true) :
    ∃ allowed, evaluateText surroundings text = .settled (.ok allowed) ∧
      (allowed = true ↔ surroundings.parameters.fill value ∈
        (subject.leaf value).comparedTexts surroundings) ∧
      Text.Occurs path (surroundings.parameters.fill value) ∧
      (subject ∈ [.keyed "is_admin", .keyed "is_admin_project"] → allowed = false) := by
  have kept := Json.occurs_fill occurs missing
  obtain ⟨allowed, evaluated, holds⟩ :=
    evaluate_iff_mem_comparedTexts (Subject.comparison?_leaf value free) kept.percent_mem
  refine ⟨allowed, ?_, holds, kept, ?_⟩
  · rw [evaluateText, ofText_of_written written local_check, evaluated]
  · intro flag
    rw [Bool.eq_false_iff]
    intro allows
    have compared := holds.1 allows
    simp only [List.mem_cons, List.not_mem_nil, or_false] at flag
    rcases flag with rfl | rfl
    all_goals cases compared

end Reading

/-- Somebody who has a role named by a placeholder asks without parameters. -/
def verbatimSurroundings : Surroundings Empty where
  identity? := some ⟨{ roles := [⟨none, some "%(x)s"⟩] }⟩

theorem unresolved_placeholder_fails_closed_verbatim :
    Written "role:%(x)s" (.keyed "role") "%(x)s" ∧
      Written "is_admin:%(x)s" (.keyed "is_admin") "%(x)s" ∧
      Text.Occurs "x" "%(x)s" ∧
      Json.isMissing (verbatimSurroundings.parameters.lookup? "x") = true ∧
      verbatimSurroundings.parameters.fill "%(x)s" ∈
        (Subject.leaf (.keyed "role") "%(x)s").comparedTexts verbatimSurroundings ∧
      evaluateText verbatimSurroundings "role:%(x)s" = .settled (.ok true) ∧
      evaluateText verbatimSurroundings "is_admin:%(x)s" = .settled (.ok false) := by
  have role : Written "role:%(x)s" (.keyed "role") "%(x)s" :=
    .keyed (splitQuoted?_eq_none_iff.1 (by decide)) (by decide) (by decide)
  have admin : Written "is_admin:%(x)s" (.keyed "is_admin") "%(x)s" :=
    .keyed (splitQuoted?_eq_none_iff.1 (by decide)) (by decide) (by decide)
  have occurs : Text.Occurs "x" "%(x)s" :=
    ⟨⟨by decide, List.all_eq_true.1 (by decide +kernel)⟩, by decide⟩
  have missing : Json.isMissing (verbatimSurroundings.parameters.lookup? "x") = true := by
    decide +kernel
  have compared : verbatimSurroundings.parameters.fill "%(x)s" ∈
      (Subject.leaf (.keyed "role") "%(x)s").comparedTexts verbatimSurroundings := by
    decide +kernel
  obtain ⟨allowed, role_evaluated, holds, -, -⟩ := unresolved_placeholder_fails_closed role
    (by decide +kernel) (by decide) occurs missing
  obtain ⟨flag, admin_evaluated, -, -, refused⟩ := unresolved_placeholder_fails_closed admin
    (by decide +kernel) (by decide) occurs missing
  rw [holds.2 compared] at role_evaluated
  rw [refused (by decide)] at admin_evaluated
  exact ⟨role, admin, occurs, missing, compared, role_evaluated, admin_evaluated⟩

end Leaf

end AccessPolicy
