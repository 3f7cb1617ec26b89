import AccessPolicy.Rule.Scan

/-!
# Scanning rule text

What is scanned from the start of a text, one lemma for each way in which a text can start, and
when a text is scanned to the same lexemes whatever is printed behind it.
-/

namespace AccessPolicy

namespace Nesting

/-- What is open after a further character, whether or not it belongs to the expression. -/
def next (nesting : Nesting) (character : Char) : Nesting := (nesting.step? character).getD nesting

/-- What is open after a text. -/
def after (nesting : Nesting) (text : List Char) : Nesting := text.foldl next nesting

/-- A text that belongs to an expression as a whole still does if the expression ends behind it. -/
theorem span_append_of_span {nesting : Nesting} {text rest : List Char}
    (whole : nesting.span text = (text, []))
    (ends : ∀ character ∈ rest.head?, (nesting.after text).step? character = none) :
    nesting.span (text ++ rest) = (text, rest) := by
  induction text generalizing nesting with
  | nil =>
    cases rest with
    | nil => rfl
    | cons character rest =>
      have ended : nesting.step? character = none := ends character rfl
      simp only [List.nil_append, span, ended]
  | cons character text induction =>
    cases step : nesting.step? character with
    | none => simp [span, step] at whole
    | some next_nesting =>
      simp only [span, step, Prod.mk.injEq, List.cons.injEq, true_and] at whole
      have same : nesting.next character = next_nesting := by rw [next, step, Option.getD_some]
      have later := induction (Prod.ext whole.1 whole.2) (by simpa [after, same] using ends)
      simp only [List.cons_append, span, step, later]

end Nesting

namespace Lexeme

variable {first : Char} {rest tail written : List Char}

theorem scan_nil : scan [] = [] := by rw [scan]

theorem scan_blank (blank : Text.isBlank first = true) : scan (first :: rest) = scan rest := by
  rw [scan, if_pos blank]

theorem scan_parenthesis (visible : Text.isBlank first = false)
    (parenthesis : first = '(' ∨ first = ')') :
    scan (first :: rest) = operator (String.ofList [first]) :: scan rest := by
  rw [scan, if_neg (ne_true_of_eq_false visible), if_pos parenthesis]

theorem scan_presenceTest (found : presenceTest? (first :: rest) = some tail) :
    scan (first :: rest) =
      expression (String.ofList ('n' :: 'o' :: 't' :: ' ' :: (Nesting.outside.span tail).1)) ::
        scan (Nesting.outside.span tail).2 := by
  have starts : first = 'n' := by
    unfold presenceTest? at found
    split at found
    next same => cases same; rfl
    next => cases found
  subst starts
  rw [scan, if_neg (by decide), if_neg (by decide)]
  split
  next other found_other =>
    rw [found] at found_other
    cases found_other
    rfl
  next absent =>
    rw [found] at absent
    cases absent

theorem scan_reservedWord (absent : presenceTest? (first :: rest) = none)
    (visible : Text.isBlank first = false) (inner : ¬(first = '(' ∨ first = ')'))
    (found : reservedWord? (first :: rest) = some (written, tail)) :
    scan (first :: rest) = operator (String.ofList written) :: scan tail := by
  rw [scan, if_neg (ne_true_of_eq_false visible), if_neg inner]
  split
  next other found_other =>
    rw [absent] at found_other
    cases found_other
  next =>
    split
    next other_written other_tail found_other =>
      rw [found] at found_other
      cases found_other
      rfl
    next missing =>
      rw [found] at missing
      cases missing

theorem scan_expression (absent : presenceTest? (first :: rest) = none)
    (visible : Text.isBlank first = false) (inner : ¬(first = '(' ∨ first = ')'))
    (unreserved : reservedWord? (first :: rest) = none) :
    scan (first :: rest) =
      expression (String.ofList (Nesting.outside.span (first :: rest)).1) ::
        scan (Nesting.outside.span (first :: rest)).2 := by
  rw [scan, if_neg (ne_true_of_eq_false visible), if_neg inner]
  split
  next other found =>
    rw [absent] at found
    cases found
  next =>
    split
    next other_written other_tail found =>
      rw [unreserved] at found
      cases found
    next => rfl

/-! ## What follows an operand -/

/-- A word at the start of a text ends before what goes on with none of its letters. -/
theorem prefix_of_prefix_append {word text : List Char} (starts : word <+: text ++ rest)
    (ends : ∀ next ∈ rest.head?, next ∉ word) : word <+: text := by
  rcases Nat.lt_or_ge text.length word.length with short | long
  · cases rest with
    | nil => rwa [List.append_nil] at starts
    | cons next rest =>
      have goes_on : text ++ [next] <+: text ++ next :: rest := ⟨rest, by simp⟩
      have fits : (text ++ [next]).length ≤ word.length := by
        rw [List.length_append]
        exact short
      have inside : text ++ [next] <+: word := List.prefix_of_prefix_length_le goes_on starts fits
      exact absurd (inside.subset (by simp)) (ends next rfl)
  · exact List.prefix_of_prefix_length_le starts (List.prefix_append text rest) long

/-- What is printed behind an operand: nothing, a space, or a closing parenthesis. -/
def Separated (rest : List Char) : Prop := ∀ next ∈ rest.head?, next = ' ' ∨ next = ')'

theorem separated_space (rest : List Char) : Separated (' ' :: rest) := by
  rintro next ⟨⟩
  exact Or.inl rfl

theorem separated_closing (rest : List Char) : Separated (')' :: rest) := by
  rintro next ⟨⟩
  exact Or.inr rfl

theorem reservedWord?_eq_none_iff {text : List Char} :
    reservedWord? text = none ↔ ∀ word ∈ reservedWords,
      (text.take word.length).map Char.toLower = word → endsWord (text.drop word.length) = false := by
  simp [reservedWord?, List.findSome?_eq_none_iff]

/-- A separator is no letter of a reserved word. -/
theorem not_mem_reservedWords {next : Char} (separates : next = ' ' ∨ next = ')') :
    ∀ word ∈ reservedWords, next.toLower ∉ word := by
  rcases separates with rfl | rfl <;> decide

/-- A text that does not start with a reserved word does not do so before a separator. -/
theorem reservedWord?_append {text : List Char} (unreserved : reservedWord? text = none)
    (separated : Separated rest) : reservedWord? (text ++ rest) = none := by
  rw [reservedWord?_eq_none_iff] at unreserved ⊢
  intro word member spelt
  rcases Nat.lt_or_ge text.length word.length with longer | shorter
  · -- The word would go on behind the text.
    exfalso
    cases rest with
    | nil =>
      have same := congrArg List.length spelt
      simp at same
      omega
    | cons next rest =>
      have here : (next :: rest).take (word.length - text.length) =
          next :: rest.take (word.length - text.length - 1) := by
        rw [List.take_cons (by omega)]
      have inside : next.toLower ∈ word := by
        rw [← spelt, List.take_append, here]
        simp
      exact not_mem_reservedWords (separated next rfl) word member inside
  · rw [List.take_append_of_le_length shorter] at spelt
    have ended := unreserved word member spelt
    rw [List.drop_append_of_le_length shorter]
    cases dropped : text.drop word.length with
    | nil =>
      rw [dropped] at ended
      cases ended
    | cons next tail =>
      rw [dropped] at ended
      exact ended

/-- A presence test is `not`, blanks and a text that starts with `null:`. -/
theorem presenceTest?_eq_some_iff {text : List Char} :
    presenceTest? text = some tail ↔ ∃ gap rest, text = 'n' :: 'o' :: 't' :: gap :: rest ∧
      Text.isBlank gap = true ∧ rest.dropWhile Text.isBlank = tail ∧
      ['n', 'u', 'l', 'l', ':'] <+: tail := by
  constructor
  · intro found
    unfold presenceTest? at found
    split at found
    next gap rest =>
      simp only at found
      split at found
      next test =>
        cases found
        exact ⟨gap, rest, rfl, test.1, rfl, test.2⟩
      next => cases found
    next => cases found
  · rintro ⟨gap, rest, rfl, blank, rfl, starts⟩
    exact if_pos ⟨blank, starts⟩

theorem reservedWord?_of_presenceTest? {text : List Char} (found : presenceTest? text = some tail) :
    reservedWord? text ≠ none := by
  obtain ⟨gap, rest, rfl, blank, -, -⟩ := presenceTest?_eq_some_iff.1 found
  intro unreserved
  have ended := reservedWord?_eq_none_iff.1 unreserved ['n', 'o', 't'] (by simp [reservedWords]) rfl
  simp [endsWord, blank] at ended

theorem append_of_reservedWord? {text : List Char}
    (found : reservedWord? text = some (written, tail)) : written ++ tail = text := by
  obtain ⟨word, -, found⟩ := List.exists_of_findSome?_eq_some found
  simp only at found
  split at found
  next =>
    cases found
    exact List.take_append_drop word.length text
  next => cases found

/-- No lexeme is longer than the text. -/
theorem length_le_of_mem_scan {text : List Char} {lexeme : Lexeme} (member : lexeme ∈ scan text) :
    lexeme.text.toList.length ≤ text.length := by
  fun_induction scan text with
  | case1 => cases member
  | case2 first rest blank induction => exact Nat.le_succ_of_le (induction member)
  | case3 first rest visible parenthesis induction =>
    rcases List.mem_cons.1 member with rfl | later
    · simp [operator]
    · exact Nat.le_succ_of_le (induction later)
  | case4 first rest visible inner tail found parts induction =>
    obtain ⟨gap, behind, whole, -, rfl, -⟩ := presenceTest?_eq_some_iff.1 found
    have bound := (List.dropWhile_suffix Text.isBlank (l := behind)).length_le
    have split_tail := congrArg List.length
      (Nesting.outside.span_append (behind.dropWhile Text.isBlank))
    simp only [whole, List.length_append, List.length_cons] at split_tail ⊢
    rcases List.mem_cons.1 member with rfl | later
    · simp only [expression, String.toList_ofList, List.length_cons, parts]
      omega
    · have short := induction later
      simp only [parts] at short
      omega
  | case5 first rest visible inner absent written tail found induction =>
    have whole := congrArg List.length (append_of_reservedWord? found)
    rw [List.length_append] at whole
    rcases List.mem_cons.1 member with rfl | later
    · simp only [operator, String.toList_ofList]
      omega
    · have short := induction later
      omega
  | case6 first rest visible inner absent unreserved parts induction =>
    have whole := congrArg List.length (Nesting.outside.span_append (first :: rest))
    rw [List.length_append] at whole
    rcases List.mem_cons.1 member with rfl | later
    · simp only [expression, String.toList_ofList, parts]
      omega
    · have short := induction later
      simp only [parts] at short
      omega

/-! ## Printed words -/

/-- A reserved word before a space is an operator, unless the two start a presence test. -/
theorem scan_word (word : List Char) (member : word ∈ reservedWords)
    (absent : presenceTest? (word ++ ' ' :: rest) = none) :
    scan (word ++ ' ' :: rest) = operator (String.ofList word) :: scan rest := by
  have blank : Text.isBlank ' ' = true := by decide
  have found : reservedWord? (word ++ ' ' :: rest) = some (word, ' ' :: rest) := by
    simp only [reservedWords, List.mem_cons, List.not_mem_nil, or_false] at member
    rcases member with rfl | rfl | rfl <;> rfl
  simp only [reservedWords, List.mem_cons, List.not_mem_nil, or_false] at member
  rcases member with rfl | rfl | rfl
  all_goals
    rw [List.cons_append] at absent found ⊢
    rw [scan_reservedWord absent (by decide) (by decide) found, scan_blank blank]

theorem scan_and (rest : List Char) :
    scan ('a' :: 'n' :: 'd' :: ' ' :: rest) = operator "and" :: scan rest :=
  scan_word ['a', 'n', 'd'] (by decide) rfl

theorem scan_or (rest : List Char) :
    scan ('o' :: 'r' :: ' ' :: rest) = operator "or" :: scan rest :=
  scan_word ['o', 'r'] (by decide) rfl

theorem scan_not (clear : ¬['n', 'u', 'l', 'l', ':'] <+: rest.dropWhile Text.isBlank) :
    scan ('n' :: 'o' :: 't' :: ' ' :: rest) = operator "not" :: scan rest :=
  scan_word ['n', 'o', 't'] (by decide) (if_neg fun test => clear test.2)

/-! ## Texts that are one expression -/

/-- The ways in which a whole text is one expression: as a presence test with a single space, or
from its first character on. -/
theorem cases_of_scan_eq_expression {text : List Char}
    (atomic : scan text = [expression (String.ofList text)]) :
    (∃ path, text = 'n' :: 'o' :: 't' :: ' ' :: path ∧ ['n', 'u', 'l', 'l', ':'] <+: path ∧
      Nesting.outside.span path = (path, [])) ∨
    (∃ first rest, text = first :: rest ∧ Text.isBlank first = false ∧
      ¬(first = '(' ∨ first = ')') ∧ reservedWord? text = none ∧
      Nesting.outside.span text = (text, [])) := by
  cases text with
  | nil =>
    rw [scan_nil] at atomic
    cases atomic
  | cons first rest =>
    have visible : Text.isBlank first = false := by
      rw [Bool.eq_false_iff]
      intro blank
      rw [scan_blank blank] at atomic
      have short := length_le_of_mem_scan (atomic ▸ List.mem_singleton_self _)
      simp only [expression, String.toList_ofList, List.length_cons] at short
      omega
    have inner : ¬(first = '(' ∨ first = ')') := by
      intro parenthesis
      rw [scan_parenthesis visible parenthesis] at atomic
      cases (List.cons.inj atomic).1
    cases found : presenceTest? (first :: rest) with
    | some tail =>
      left
      rw [scan_presenceTest found] at atomic
      obtain ⟨gap, behind, whole, blank, dropped, starts⟩ := presenceTest?_eq_some_iff.1 found
      have same := congrArg (·.text.toList) (List.cons.inj atomic).1
      simp only [expression, String.toList_ofList, whole, List.cons.injEq, true_and] at same
      obtain ⟨rfl, same⟩ := same
      -- The expression is as long as the text, so it ends with it and has only one blank.
      have split_tail := Nesting.outside.span_append tail
      have suffix : tail <:+ behind := dropped ▸ List.dropWhile_suffix _
      have lengths := congrArg List.length split_tail
      have bound := suffix.length_le
      rw [same, List.length_append] at lengths
      have nothing : (Nesting.outside.span tail).2 = [] := List.length_eq_zero_iff.1 (by omega)
      rw [same, nothing, List.append_nil] at split_tail
      subst split_tail
      exact ⟨behind, whole, starts, Prod.ext same nothing⟩
    | none =>
      right
      cases reserved : reservedWord? (first :: rest) with
      | some parts =>
        rw [scan_reservedWord found visible inner reserved] at atomic
        cases (List.cons.inj atomic).1
      | none =>
        rw [scan_expression found visible inner reserved] at atomic
        have same := congrArg (·.text.toList) (List.cons.inj atomic).1
        simp only [expression, String.toList_ofList] at same
        have split_text := Nesting.outside.span_append (first :: rest)
        rw [same] at split_text
        exact ⟨first, rest, rfl, visible, inner, rfl,
          Prod.ext same (List.append_right_eq_self.1 split_text)⟩

theorem step?_outside_of_separates {next : Char} (separates : next = ' ' ∨ next = ')') :
    Nesting.outside.step? next = none := by
  rcases separates with rfl | rfl <;> decide

/-- An expression that leaves nothing open is scanned to itself before every separator. -/
theorem scan_append_of_atomic {text : List Char}
    (atomic : scan text = [expression (String.ofList text)])
    (closed : Nesting.outside.after text = Nesting.outside) (separated : Separated rest) :
    scan (text ++ rest) = expression (String.ofList text) :: scan rest := by
  have ends : ∀ next ∈ rest.head?, Nesting.outside.step? next = none := fun next member =>
    step?_outside_of_separates (separated next member)
  rcases cases_of_scan_eq_expression atomic with
    ⟨path, rfl, starts, whole⟩ | ⟨first, tail, rfl, visible, inner, unreserved, whole⟩
  · have closed_path : Nesting.outside.after path = Nesting.outside := closed
    have found : presenceTest? ('n' :: 'o' :: 't' :: ' ' :: (path ++ rest)) =
        some (path ++ rest) := by
      refine presenceTest?_eq_some_iff.2
        ⟨' ', path ++ rest, rfl, by decide, ?_, starts.trans (List.prefix_append path rest)⟩
      obtain ⟨behind, rfl⟩ := starts
      exact List.dropWhile_cons_of_neg (by decide)
    have spanned := Nesting.span_append_of_span whole (by rwa [closed_path])
    rw [List.cons_append, List.cons_append, List.cons_append, List.cons_append,
      scan_presenceTest found, spanned]
  · have unreserved := reservedWord?_append unreserved separated
    have absent : presenceTest? (first :: tail ++ rest) = none := by
      rw [Option.eq_none_iff_forall_ne_some]
      intro found_tail found
      exact reservedWord?_of_presenceTest? found unreserved
    have spanned := Nesting.span_append_of_span whole (by rwa [closed])
    rw [List.cons_append] at absent unreserved spanned ⊢
    rw [scan_expression absent visible inner unreserved, spanned]

end Lexeme

end AccessPolicy
