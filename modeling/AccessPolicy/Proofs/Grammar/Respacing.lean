import AccessPolicy.Proofs.Grammar.Division

/-!
# Respacing rule text

The texts of the lexemes of any rule text, with one space between them, have the same lexemes again.
A division of the first text is turned into one of the second: what bounds a lexeme there, a space
bounds here, and no operator `not` comes to stand before `null:`.
-/

namespace AccessPolicy

theorem ExpressionBody.before {body rest other : List Char} (divides : ExpressionBody body rest)
    (ending : rest = [] → other = []) (cuts : ∀ next ∈ other.head?, Cuts next) :
    ExpressionBody body other := by
  refine ⟨divides.uncut, ?_⟩
  cases other with
  | nil => exact Or.inl rfl
  | cons next tail =>
    rcases divides.ends with empty | ⟨closed, -⟩
    · cases ending empty
    · exact Or.inr ⟨closed, next, tail, rfl, cuts next rfl⟩

namespace Lexeme

variable {source text rest : List Char} {lexeme : Lexeme} {lexemes : List Lexeme}

/-- The texts of lexemes with a space before each. -/
def spaced (lexemes : List Lexeme) : List Char :=
  lexemes.flatMap fun lexeme => ' ' :: lexeme.text.toList

theorem isBlank_of_mem_space : ∀ character ∈ [' '], Text.isBlank character = true :=
  List.forall_mem_singleton.2 rfl

theorem spaced_cons : spaced (lexeme :: lexemes) = ' ' :: (lexeme.text.toList ++ spaced lexemes) :=
  rfl

theorem eq_space_of_mem_head?_spaced {next : Char} (member : next ∈ (spaced lexemes).head?) :
    next = ' ' := by
  cases lexemes with
  | nil => cases member
  | cons lexeme lexemes =>
    cases member
    rfl

theorem separated_spaced : Separated (spaced lexemes) := fun _ member =>
  Or.inl (eq_space_of_mem_head?_spaced member)

theorem endsWord_spaced : endsWord (spaced lexemes) = true := by
  cases lexemes with
  | nil => rfl
  | cons lexeme lexemes => rfl

theorem endsWord_of_cuts {next : Char} {tail : List Char} (cuts : Cuts next) :
    endsWord (next :: tail) = true := by
  rcases cuts with blank | rfl
  · simp [endsWord, blank]
  · simp [endsWord]

theorem Divided.eq_nil (divided : Divided [] lexemes) : lexemes = [] := by
  rw [← scan_of_divided divided, scan_nil]

/-- No lexeme starts with a blank. -/
theorem Written.text_starts (written : Written source lexeme rest) :
    ∃ first further, lexeme.text.toList = first :: further ∧ Text.isBlank first = false := by
  cases written with
  | @parenthesis character _ parenthesis =>
    refine ⟨character, [], String.toList_ofList, ?_⟩
    rcases parenthesis with rfl | rfl <;> rfl
  | word reserved =>
    obtain ⟨first, further, rfl, visible, -⟩ := reserved.starts
    exact ⟨first, further, String.toList_ofList, visible⟩
  | presence => exact ⟨'n', _, String.toList_ofList, rfl⟩
  | expression visible => exact ⟨_, _, String.toList_ofList, visible⟩

/-- A lexeme whose text starts with `null:` is written as it stands. -/
theorem Written.source_eq (written : Written source lexeme rest)
    (starts : ['n', 'u', 'l', 'l', ':'] <+: lexeme.text.toList) :
    source = lexeme.text.toList := by
  cases written with
  | parenthesis | word | expression => exact String.toList_ofList.symm
  | presence =>
    obtain ⟨further, same⟩ := starts
    rw [Lexeme.expression, String.toList_ofList] at same
    cases same

/-- Only the word `not` in lower case starts a presence test. -/
theorem Reserved.eq_not {behind path : List Char} (reserved : Reserved source rest)
    (test : TestsPresence (source ++ behind) path) : source = ['n', 'o', 't'] := by
  obtain ⟨gap, -, -, -, whole⟩ := test
  have spelt := reserved.1
  simp only [reservedWords, List.mem_cons, List.not_mem_nil, or_false] at spelt
  rcases spelt with spelt | spelt | spelt
  all_goals
    have lengths := congrArg List.length spelt
    rw [List.length_map] at lengths
  · have front : source = ['n', 'o', 't'] := List.append_inj_left whole lengths
    rw [front] at spelt
    exact absurd spelt (by decide)
  · have front : source = ['n', 'o'] := List.append_inj_left whole lengths
    rw [front] at spelt
    exact absurd spelt (by decide)
  · exact List.append_inj_left whole lengths

/-- Between two lexemes stands one blank. -/
theorem eq_space_of_spaced_eq {gap path : List Char} (written : Written source lexeme rest)
    (nonempty : gap ≠ []) (blank : ∀ character ∈ gap, Text.isBlank character = true)
    (whole : spaced (lexeme :: lexemes) = gap ++ path) : gap = [' '] := by
  obtain ⟨first, letters, text_eq, visible⟩ := written.text_starts
  obtain ⟨space, others, rfl⟩ := List.exists_cons_of_ne_nil nonempty
  rw [spaced_cons, text_eq, List.cons_append, List.cons_append] at whole
  obtain ⟨rfl, behind⟩ := List.cons.inj whole
  cases others with
  | nil => rfl
  | cons second others =>
    obtain ⟨rfl, -⟩ := List.cons.inj behind
    have blank_first := blank first (by simp)
    rw [visible] at blank_first
    cases blank_first

/-- An operator word that no presence test starts with is not made one by respacing. -/
theorem not_testsPresence_spaced (reserved : Reserved source rest)
    (alone : ∀ path, ¬TestsPresence (source ++ rest) path) (divided : Divided rest lexemes)
    (path : List Char) : ¬TestsPresence (source ++ spaced lexemes) path := by
  intro test
  obtain rfl := reserved.eq_not test
  obtain ⟨gap, nonempty, blank, starts, whole⟩ := test
  have behind : spaced lexemes = gap ++ path := by simpa using whole
  cases divided with
  | blank =>
    have empty : gap = [] := (List.append_eq_nil_iff.1 behind.symm).1
    exact nonempty empty
  | @lexeme blanks word tail lexeme further blanks_blank written _ =>
    -- The blanks of the test are the one space, so the next lexeme starts with `null:`.
    obtain rfl := eq_space_of_spaced_eq written nonempty blank behind
    have path_eq : lexeme.text.toList ++ spaced further = path := (List.cons.inj behind).2
    have lexeme_starts : ['n', 'u', 'l', 'l', ':'] <+: lexeme.text.toList := by
      refine prefix_of_prefix_append (path_eq ▸ starts) fun next member => ?_
      rw [eq_space_of_mem_head?_spaced member]
      decide
    obtain ⟨letters, spelt⟩ := written.source_eq lexeme_starts ▸ lexeme_starts
    subst spelt
    -- It is written as it stands, so only blanks can bound the word before it.
    have blanks_nonempty : blanks ≠ [] := by
      rintro rfl
      have bounded : endsWord ('n' :: _) = true := reserved.2
      cases bounded
    exact alone _ ⟨blanks, blanks_nonempty, blanks_blank,
      (List.prefix_append _ letters).trans (List.prefix_append _ tail), rfl⟩

/-- No reserved word starts an expression that a space follows. -/
theorem not_reserved_spaced {word tail : List Char}
    (unreserved : ∀ word tail, source ++ rest = word ++ tail → ¬Reserved word tail)
    (body : ExpressionBody source rest) (whole : source ++ spaced lexemes = word ++ tail) :
    ¬Reserved word tail := by
  have bounded : endsWord rest = true := by
    rcases body.ends with rfl | ⟨-, next, tail, rfl, cuts⟩
    · rfl
    · exact endsWord_of_cuts cuts
  have source_unreserved : reservedWord? source = none := by
    refine Option.eq_none_iff_forall_ne_some.2 fun (word, extra) found => ?_
    obtain ⟨rfl, spelt, ends⟩ := reservedWord?_eq_some_iff.1 found
    refine unreserved word (extra ++ rest) (List.append_assoc _ _ _) ⟨spelt, ?_⟩
    cases extra with
    | nil => exact bounded
    | cons next extra => exact ends
  intro reserved
  have found := reservedWord?_eq_some_iff.2 ⟨whole, reserved⟩
  rw [reservedWord?_append source_unreserved separated_spaced] at found
  cases found

theorem Written.respaced (written : Written source lexeme rest) (later : Divided rest lexemes) :
    Written lexeme.text.toList lexeme (spaced lexemes) := by
  have ending : rest = [] → spaced lexemes = [] := by
    rintro rfl
    rw [later.eq_nil]
    rfl
  have cuts (next : Char) (member : next ∈ (spaced lexemes).head?) : Cuts next := by
    rw [eq_space_of_mem_head?_spaced member]
    exact Or.inl rfl
  cases written with
  | parenthesis parenthesis =>
    rw [Lexeme.operator, String.toList_ofList]
    exact .parenthesis parenthesis
  | word reserved alone =>
    rw [Lexeme.operator, String.toList_ofList]
    exact .word ⟨reserved.1, endsWord_spaced⟩ (not_testsPresence_spaced reserved alone later)
  | @presence _ path _ test body =>
    obtain ⟨gap, nonempty, blank, starts, rfl⟩ := test
    have test : TestsPresence ('n' :: 'o' :: 't' :: ' ' :: path) path :=
      ⟨[' '], List.cons_ne_nil _ _, isBlank_of_mem_space, starts, rfl⟩
    rw [Lexeme.expression, String.toList_ofList]
    exact .presence test (body.before ending cuts)
  | @expression first further _ visible inner unreserved body =>
    rw [Lexeme.expression, String.toList_ofList]
    exact .expression visible inner (fun _ _ => not_reserved_spaced unreserved body)
      (body.before ending cuts)

theorem Divided.respaced (divided : Divided text lexemes) : Divided (spaced lexemes) lexemes := by
  induction divided with
  | blank => exact .blank (by simp [spaced])
  | lexeme _ written later induction =>
    exact .lexeme isBlank_of_mem_space (written.respaced later) induction

theorem toList_intercalate_cons (lexeme : Lexeme) (lexemes : List Lexeme) :
    (" ".intercalate ((lexeme :: lexemes).map (·.text))).toList =
      lexeme.text.toList ++ spaced lexemes := by
  induction lexemes generalizing lexeme with
  | nil => simp [spaced]
  | cons next lexemes induction =>
    have later := induction next
    simp only [List.map_cons, String.intercalate_cons_cons, String.toList_append] at later ⊢
    rw [later, spaced_cons, List.append_assoc]
    rfl

/-- Scanning the lexemes of a text with one space between them gives the same lexemes. -/
theorem ofText_respaced (text : String) :
    ofText (" ".intercalate ((ofText text).map (·.text))) = ofText text := by
  have divided : Divided text.toList (ofText text) := divided_scan text.toList
  have scanned : scan (spaced (ofText text)) = ofText text := scan_of_divided divided.respaced
  cases lexemes : ofText text with
  | nil => exact scan_nil
  | cons lexeme further =>
    rw [lexemes, spaced_cons, scan_blank rfl] at scanned
    rw [ofText, toList_intercalate_cons, scanned]

end Lexeme

end AccessPolicy
