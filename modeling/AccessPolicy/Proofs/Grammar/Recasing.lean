import AccessPolicy.Proofs.Grammar.Respacing
import AccessPolicy.Proofs.Grammar.Spelling

/-!
# Recasing rule text

The operators of a rule text may be written in another case. The text then has the same lexemes but
for the case of its operators, and compiles to the same rule. The exception is a word `not` before
`null:`. In lower case it belongs to a presence test, in any other case it is an operator before an
expression.
-/

namespace AccessPolicy

/-! ## Characters without case -/

namespace Text

theorem toLower_eq_self_or_letter (character : Char) :
    character.toLower = character ∨
      97 ≤ character.toLower.toNat ∧ character.toLower.toNat ≤ 122 := by
  unfold Char.toLower
  split
  next upper =>
    have least : 65 ≤ character.val.toNat := UInt32.le_iff_toNat_le.1 upper.1
    have greatest : character.val.toNat ≤ 90 := UInt32.le_iff_toNat_le.1 upper.2
    have shift : ('a'.val - 'A'.val).toNat = 32 := by decide
    have moved : (character.val + ('a'.val - 'A'.val)).toNat = character.val.toNat + 32 := by
      rw [UInt32.toNat_add, shift]
      exact Nat.mod_eq_of_lt (by omega)
    right
    rw [Char.toNat, moved]
    omega
  next => exact Or.inl rfl

/-- A character that is no letter is the only one with its lower case. -/
theorem eq_of_toLower_eq {character other : Char} (fixed : other.toLower = other)
    (no_letter : ¬(97 ≤ other.toNat ∧ other.toNat ≤ 122))
    (same : character.toLower = other.toLower) : character = other := by
  rw [fixed] at same
  rcases toLower_eq_self_or_letter character with own | letter
  · exact own.symm.trans same
  · rw [same] at letter
    exact absurd letter no_letter

theorem eq_of_toLower_eq_of_isBlank {character other : Char} (blank : isBlank other = true)
    (same : character.toLower = other.toLower) : character = other := by
  refine eq_of_toLower_eq (Lexeme.toLower_of_isBlank blank) ?_ same
  simp only [isBlank, inRanges, blankRanges, List.any_cons, List.any_nil, Bool.or_eq_true,
    Bool.and_eq_true, decide_eq_true_eq, Bool.false_eq_true, or_false] at blank
  omega

theorem eq_of_toLower_eq_of_parenthesis {character other : Char}
    (parenthesis : other = '(' ∨ other = ')') (same : character.toLower = other.toLower) :
    character = other := by
  rcases parenthesis with rfl | rfl
  · exact eq_of_toLower_eq (by decide) (by decide) same
  · exact eq_of_toLower_eq (by decide) (by decide) same

end Text

namespace Lexeme

variable {text other source changed rest later gap : List Char} {lexeme : Lexeme}

/-! ## What bounds a word -/

theorem endsWord_of_map_toLower (same : other.map Char.toLower = rest.map Char.toLower)
    (ends : endsWord rest = true) : endsWord other = true := by
  cases rest with
  | nil => rwa [List.map_eq_nil_iff.1 same]
  | cons next tail =>
    obtain ⟨first, further, rfl, first_same, -⟩ := List.map_eq_cons_iff.1 same
    have bounds : Text.isBlank next = true ∨ next = '(' ∨ next = ')' := by
      simpa [endsWord, or_assoc] using ends
    have first_eq : first = next := by
      rcases bounds with blank | parenthesis
      · exact Text.eq_of_toLower_eq_of_isBlank blank first_same
      · exact Text.eq_of_toLower_eq_of_parenthesis parenthesis first_same
    rw [first_eq]
    exact ends

/-- What follows an expression may be written in another case. -/
theorem body_of_map_toLower (same : other.map Char.toLower = rest.map Char.toLower)
    (body : ExpressionBody source rest) : ExpressionBody source other := by
  refine body.before (fun empty => ?_) fun next member => ?_
  · rw [empty] at same
    exact List.map_eq_nil_iff.1 same
  · rcases body.ends with rfl | ⟨-, bound, tail, rfl, cuts⟩
    · rw [List.map_eq_nil_iff.1 same] at member
      cases member
    · obtain ⟨first, further, rfl, first_same, -⟩ := List.map_eq_cons_iff.1 same
      cases member
      rcases cuts with blank | closing
      · rw [Text.eq_of_toLower_eq_of_isBlank blank first_same]
        exact Or.inl blank
      · rw [Text.eq_of_toLower_eq_of_parenthesis (Or.inr closing) first_same]
        exact Or.inr closing

theorem Reserved.of_map_toLower (reserved : Reserved source rest)
    (source_same : changed.map Char.toLower = source.map Char.toLower)
    (rest_same : other.map Char.toLower = rest.map Char.toLower) : Reserved changed other :=
  ⟨by rw [source_same]; exact reserved.1, endsWord_of_map_toLower rest_same reserved.2⟩

/-- A text starts with a reserved word in whatever case it is written. -/
theorem Reserved.exists_of_map_toLower (reserved : Reserved source rest)
    (same : other.map Char.toLower = (source ++ rest).map Char.toLower) :
    ∃ word tail, other = word ++ tail ∧ Reserved word tail := by
  rw [List.map_append] at same
  obtain ⟨word, tail, rfl, word_same, tail_same⟩ := List.map_eq_append_iff.1 same
  exact ⟨word, tail, rfl, reserved.of_map_toLower word_same tail_same⟩

/-- The case of its letters does not change the operator that a text spells. -/
theorem ofText?_of_map_toLower (same : changed.map Char.toLower = source.map Char.toLower) :
    OperatorWord.ofText? (String.ofList changed) = OperatorWord.ofText? (String.ofList source) := by
  have parenthesis (character : Char) (parenthesis : character = '(' ∨ character = ')') :
      changed = [character] ↔ source = [character] := by
    constructor
    · rintro rfl
      obtain ⟨first, rfl, first_same⟩ := List.map_eq_singleton_iff.1 same.symm
      rw [Text.eq_of_toLower_eq_of_parenthesis parenthesis first_same]
    · rintro rfl
      obtain ⟨first, rfl, first_same⟩ := List.map_eq_singleton_iff.1 same
      rw [Text.eq_of_toLower_eq_of_parenthesis parenthesis first_same]
  have opening : String.ofList changed = "(" ↔ String.ofList source = "(" := by
    simpa [← String.toList_inj] using parenthesis '(' (Or.inl rfl)
  have closing : String.ofList changed = ")" ↔ String.ofList source = ")" := by
    simpa [← String.toList_inj] using parenthesis ')' (Or.inr rfl)
  have lower_same : Text.lower (String.ofList changed) = Text.lower (String.ofList source) := by
    rw [Text.lower, Text.lower, String.toList_ofList, String.toList_ofList, same]
  unfold OperatorWord.ofText? Text.sameLetters
  rw [lower_same]
  exact if_congr opening rfl (if_congr closing rfl rfl)

/-! ## Texts in another case -/

/-- Another source of a lexeme. An expression stays as it is, the letters of an operator may change
their case. -/
def Respelt (lexeme : Lexeme) (source changed : List Char) : Prop :=
  changed = source ∨
    lexeme.isExpression = false ∧ changed.map Char.toLower = source.map Char.toLower

/-- A text and the same text with its operators written in another case. -/
inductive Recased : List Char → List Char → Prop where
  /-- Blanks stay as they are. -/
  | blank {gap : List Char} (blank : ∀ character ∈ gap, Text.isBlank character = true) :
      Recased gap gap
  /-- Blanks, another source of a lexeme, and the rest in another case. -/
  | lexeme {gap source changed rest other : List Char} {lexeme : Lexeme}
      (blank : ∀ character ∈ gap, Text.isBlank character = true)
      (written : Written source lexeme rest) (respelt : lexeme.Respelt source changed)
      (later : Recased rest other) : Recased (gap ++ (source ++ rest)) (gap ++ (changed ++ other))

/-- Where the second text is a presence test from some place on, so is the first one. -/
def KeepsTests (text other : List Char) : Prop :=
  ∀ position path, TestsPresence (other.drop position) path →
    ∃ tested, TestsPresence (text.drop position) tested

theorem Respelt.map_toLower (respelt : lexeme.Respelt source changed) :
    changed.map Char.toLower = source.map Char.toLower := by
  rcases respelt with rfl | ⟨-, same⟩
  · rfl
  · exact same

theorem Respelt.eq_of_isExpression (respelt : lexeme.Respelt source changed)
    (atomic : lexeme.isExpression = true) : changed = source := by
  rcases respelt with same | ⟨operator, -⟩
  · exact same
  · rw [operator] at atomic
    cases atomic

/-- A text is itself in another case. -/
theorem Divided.recased_self {lexemes : List Lexeme} (divided : Divided text lexemes) :
    Recased text text := by
  induction divided with
  | blank blank => exact .blank blank
  | lexeme blank written _ induction => exact .lexeme blank written (Or.inl rfl) induction

theorem Recased.cons (written : Written source lexeme rest)
    (respelt : lexeme.Respelt source changed) (later : Recased rest other) :
    Recased (source ++ rest) (changed ++ other) := by
  have no_gap : ∀ character ∈ ([] : List Char), Text.isBlank character = true := by simp
  exact .lexeme no_gap written respelt later

theorem Recased.map_toLower (recased : Recased text other) :
    other.map Char.toLower = text.map Char.toLower := by
  induction recased with
  | blank => rfl
  | lexeme _ _ respelt _ induction =>
    simp only [List.map_append, respelt.map_toLower, induction]

theorem TestsPresence.mem_colon {path : List Char} (test : TestsPresence text path) :
    ':' ∈ text := by
  obtain ⟨gap, -, -, ⟨further, rfl⟩, rfl⟩ := test
  simp

/-- What is kept in a whole text is kept behind a part of it. -/
theorem KeepsTests.behind {front back : List Char}
    (kept : KeepsTests (front ++ text) (back ++ other)) (lengths : back.length = front.length) :
    KeepsTests text other := by
  intro position path test
  have whole : TestsPresence ((back ++ other).drop (back.length + position)) path := by
    rwa [List.drop_length_add_append]
  have tested := kept _ path whole
  rwa [lengths, List.drop_length_add_append] at tested

/-- Another source of a lexeme is written for the same lexeme but for its case. -/
theorem Written.respelt (written : Written source lexeme rest)
    (respelt : lexeme.Respelt source changed)
    (rest_same : other.map Char.toLower = rest.map Char.toLower)
    (kept : KeepsTests (source ++ rest) (changed ++ other)) :
    ∃ recased, Written changed recased other ∧ recased.lowered = lexeme.lowered := by
  have same := respelt.map_toLower
  cases written with
  | @parenthesis character _ parenthesis =>
    obtain ⟨first, rfl, first_same⟩ := List.map_eq_singleton_iff.1 same
    rw [Text.eq_of_toLower_eq_of_parenthesis parenthesis first_same]
    exact ⟨_, .parenthesis parenthesis, rfl⟩
  | word reserved alone =>
    have still_alone (path : List Char) : ¬TestsPresence (changed ++ other) path := fun test => by
      obtain ⟨tested, test_before⟩ := kept 0 path test
      exact alone tested test_before
    refine ⟨_, .word (reserved.of_map_toLower same rest_same) still_alone, ?_⟩
    obtain ⟨word, spells⟩ := Option.isSome_iff_exists.1 (isSome_word?_of_reserved reserved)
    have spells_changed : (operator (String.ofList changed)).word? = some word :=
      (ofText?_of_map_toLower same).trans spells
    rw [lowered_of_word? spells, lowered_of_word? spells_changed]
  | presence test body =>
    obtain rfl := respelt.eq_of_isExpression rfl
    exact ⟨_, .presence test (body_of_map_toLower rest_same body), rfl⟩
  | @expression first further _ visible inner unreserved body =>
    obtain rfl := respelt.eq_of_isExpression rfl
    refine ⟨_, .expression visible inner (fun word tail whole reserved => ?_)
      (body_of_map_toLower rest_same body), rfl⟩
    -- A reserved word at the start of the one text would be one in the other text too.
    have whole_same : (first :: (further ++ rest)).map Char.toLower =
        (word ++ tail).map Char.toLower := by
      rw [← whole, List.map_cons, List.map_cons, List.map_append, List.map_append, rest_same]
    obtain ⟨reserved_word, behind, split_text, reserved_before⟩ :=
      reserved.exists_of_map_toLower whole_same
    exact unreserved reserved_word behind split_text reserved_before

/-- A text in another case is divided like the text itself. -/
theorem Recased.exists_divided (recased : Recased text other) (kept : KeepsTests text other) :
    ∃ lexemes changed, Divided text lexemes ∧ Divided other changed ∧
      changed.map lowered = lexemes.map lowered := by
  induction recased with
  | blank blank => exact ⟨[], [], .blank blank, .blank blank, rfl⟩
  | @lexeme gap source changed rest other lexeme blank written respelt later induction =>
    have kept_source : KeepsTests (source ++ rest) (changed ++ other) := kept.behind rfl
    have lengths : changed.length = source.length := by
      simpa using congrArg List.length respelt.map_toLower
    obtain ⟨recased, recased_written, lowered_same⟩ :=
      written.respelt respelt later.map_toLower kept_source
    obtain ⟨lexemes, others, divided, others_divided, map_same⟩ :=
      induction (kept_source.behind lengths)
    exact ⟨_, _, .lexeme blank written divided, .lexeme blank recased_written others_divided,
      by rw [List.map_cons, List.map_cons, lowered_same, map_same]⟩

end Lexeme

namespace CompiledRule

open Lexeme (Recased KeepsTests lowered)

variable {text other : String}

/-- A rule text in another case compiles to the same rule, or is refused for the same reason, unless
a word `not` before `null:` comes to be in lower case. -/
theorem ofText_recased (recased : Recased text.toList other.toList)
    (kept : KeepsTests text.toList other.toList) :
    (ofText other).mapError SyntaxError.lowered = (ofText text).mapError SyntaxError.lowered := by
  obtain ⟨lexemes, changed, divided, changed_divided, same⟩ := recased.exists_divided kept
  have text_scan : Lexeme.ofText text = lexemes := Lexeme.scan_of_divided divided
  have other_scan : Lexeme.ofText other = changed := Lexeme.scan_of_divided changed_divided
  calc (ofText other).mapError SyntaxError.lowered
      = (ofLexemes (changed.map lowered)).mapError SyntaxError.lowered := by
        rw [ofText, other_scan, ofLexemes_map_lowered]
    _ = (ofText text).mapError SyntaxError.lowered := by
        rw [same, ofLexemes_map_lowered, ofText, text_scan]

/-- A negation in two mixtures of cases. -/
theorem ofText_recased_negation :
    (ofText "nOT a").mapError SyntaxError.lowered =
      (ofText "Not a").mapError SyntaxError.lowered := by
  have reserved : Lexeme.Reserved ['N', 'o', 't'] [' ', 'a'] := ⟨by decide, by decide⟩
  have alone (path : List Char) : ¬Lexeme.TestsPresence ['N', 'o', 't', ' ', 'a'] path :=
    fun test => absurd test.mem_colon (by decide)
  have respelt : Lexeme.Respelt (.operator (String.ofList ['N', 'o', 't'])) ['N', 'o', 't']
      ['n', 'O', 'T'] := Or.inr ⟨rfl, by decide⟩
  have recased : Recased "Not a".toList "nOT a".toList :=
    .cons (.word reserved alone) respelt (Lexeme.divided_scan [' ', 'a']).recased_self
  refine ofText_recased recased fun position path test => ?_
  exact absurd (List.mem_of_mem_drop test.mem_colon) (by decide)

/-- In lower case `not` before `null:` is no operator any more. -/
theorem ofText_recased_presence :
    Recased "NOT null:x".toList "not null:x".toList ∧
      ofText "NOT null:x" = .ok (ofTree (.negation (.expression "null:x"))) ∧
      ofText "not null:x" = .ok (ofTree (.expression "not null:x")) ∧
      ofTree (.negation (.expression "null:x")) ≠ ofTree (.expression "not null:x") := by
  have reserved : Lexeme.Reserved ['N', 'O', 'T'] [' ', 'n', 'u', 'l', 'l', ':', 'x'] :=
    ⟨by decide, by decide⟩
  have alone (path : List Char) :
      ¬Lexeme.TestsPresence ['N', 'O', 'T', ' ', 'n', 'u', 'l', 'l', ':', 'x'] path := by
    rintro ⟨gap, -, -, -, whole⟩
    cases whole
  have respelt : Lexeme.Respelt (.operator (String.ofList ['N', 'O', 'T'])) ['N', 'O', 'T']
      ['n', 'o', 't'] := Or.inr ⟨rfl, by decide⟩
  have recased : Recased "NOT null:x".toList "not null:x".toList :=
    .cons (.word reserved alone) respelt (Lexeme.divided_scan _).recased_self
  have upper_lexemes : Lexeme.ofText "NOT null:x" = [.operator "NOT", .expression "null:x"] := by
    decide +kernel
  have lower_lexemes : Lexeme.ofText "not null:x" = [.expression "not null:x"] := by
    decide +kernel
  refine ⟨recased, ?_, ?_, fun same => by cases congrArg CompiledRule.tree same⟩
  · rw [ofText, upper_lexemes]
    exact ofLexemes_lexemes
      (.lastDisjunct (.lastConjunct
        (.negated (.operator "NOT") (.plain (.expression "null:x")) (by decide))))
  · rw [ofText, lower_lexemes, ofLexemes_expression]

end CompiledRule

end AccessPolicy
