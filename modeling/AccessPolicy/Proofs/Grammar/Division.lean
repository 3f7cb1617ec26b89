import AccessPolicy.Proofs.Grammar.Scanning
import Mathlib.Data.List.TakeWhile

/-!
# Dividing rule text

A rule text is divided into blanks and the sources of its lexemes, so that nothing of it is lost.
What may be the source of a lexeme depends on the text behind it: an operator word is bounded, and
an expression goes on to the first blank or closing parenthesis outside its own quotes and
parentheses. A text has one division, and scanning finds it.
-/

namespace AccessPolicy

/-! ## Quotes and parentheses -/

/-- The texts in which every quote and every parenthesis that is opened is closed again. -/
inductive Closed : List Char → Prop where
  /-- Nothing is opened. -/
  | nil : Closed []
  /-- A character that is no quote and no parenthesis. -/
  | plain {character : Char} {rest : List Char} (unquoted : Nesting.isQuote character = false)
      (inner : ¬(character = '(' ∨ character = ')')) (closed : Closed rest) :
      Closed (character :: rest)
  /-- A quote, up to the next one of its kind. -/
  | quoted {quote : Char} {inside rest : List Char} (opens : Nesting.isQuote quote = true)
      (first : quote ∉ inside) (closed : Closed rest) : Closed (quote :: (inside ++ quote :: rest))
  /-- A pair of parentheses. -/
  | grouped {inside rest : List Char} (group : Closed inside) (closed : Closed rest) :
      Closed ('(' :: (inside ++ ')' :: rest))

/-- The texts that close what is open and everything that they open themselves. -/
inductive Closes : Nesting → List Char → Prop where
  /-- Nothing is open. -/
  | nothing {text : List Char} (closed : Closed text) : Closes .outside text
  /-- The innermost parenthesis is closed first. -/
  | parenthesis {depth : Nat} {inside rest : List Char} (closed : Closed inside)
      (later : Closes ⟨none, depth⟩ rest) : Closes ⟨none, depth + 1⟩ (inside ++ ')' :: rest)
  /-- The quote is closed first. -/
  | quote {quote : Char} {depth : Nat} {inside rest : List Char} (first : quote ∉ inside)
      (later : Closes ⟨none, depth⟩ rest) : Closes ⟨some quote, depth⟩ (inside ++ quote :: rest)

/-- Text that keeps closed texts closed may be put in front of what closes parentheses. -/
theorem Closes.prepend {depth : Nat} {text front : List Char}
    (keeps : ∀ rest, Closed rest → Closed (front ++ rest)) (closes : Closes ⟨none, depth⟩ text) :
    Closes ⟨none, depth⟩ (front ++ text) := by
  cases closes with
  | nothing closed => exact .nothing (keeps text closed)
  | @parenthesis depth inside rest closed later =>
    rw [← List.append_assoc]
    exact .parenthesis (keeps inside closed) later

/-- Whether an expression ends before a character unless it has something open. -/
def Cuts (character : Char) : Prop := Text.isBlank character = true ∨ character = ')'

namespace Nesting

variable {nesting : Nesting} {character : Char} {text : List Char}

theorem isQuote_of_cuts (cuts : Cuts character) : isQuote character = false := by
  rw [Bool.eq_false_iff]
  intro quote
  rcases cuts with blank | rfl
  · rcases (by simpa [isQuote] using quote : character = '\'' ∨ character = '"') with rfl | rfl
    · cases blank
    · cases blank
  · cases quote

/-- An expression ends only where nothing is open. -/
theorem step?_eq_none_iff : nesting.step? character = none ↔ nesting = outside ∧ Cuts character := by
  obtain ⟨quote, depth⟩ := nesting
  constructor
  · intro ends
    cases quote with
    | some quote => cases ends
    | none =>
      simp only [step?] at ends
      repeat' split at ends
      all_goals simp_all [outside, Cuts]
  · rintro ⟨whole, cuts⟩
    cases whole
    have opening : character ≠ '(' := by
      rintro rfl
      rcases cuts with blank | same
      · cases blank
      · cases same
    rcases cuts with blank | rfl
    · simp [step?, isQuote_of_cuts (Or.inl blank), opening, blank]
    · rfl

/-- What a character of an expression does to what is open. -/
inductive Step : Nesting → Char → Nesting → Prop where
  /-- Inside a quote the other characters do nothing. -/
  | inside {quote character : Char} {depth : Nat} (differs : character ≠ quote) :
      Step ⟨some quote, depth⟩ character ⟨some quote, depth⟩
  /-- The quote ends at the next one of its kind. -/
  | endsQuote {quote : Char} {depth : Nat} : Step ⟨some quote, depth⟩ quote ⟨none, depth⟩
  /-- A quote starts. -/
  | startsQuote {quote : Char} {depth : Nat} (opens : isQuote quote = true) :
      Step ⟨none, depth⟩ quote ⟨some quote, depth⟩
  /-- A parenthesis is opened. -/
  | opens {depth : Nat} : Step ⟨none, depth⟩ '(' ⟨none, depth + 1⟩
  /-- A parenthesis is closed. -/
  | closes {depth : Nat} : Step ⟨none, depth + 1⟩ ')' ⟨none, depth⟩
  /-- A character that is no quote and no parenthesis does nothing. -/
  | plain {character : Char} {depth : Nat} (unquoted : isQuote character = false)
      (inner : ¬(character = '(' ∨ character = ')')) : Step ⟨none, depth⟩ character ⟨none, depth⟩

theorem step_of_step? {following : Nesting} (step : nesting.step? character = some following) :
    Step nesting character following := by
  obtain ⟨quote, depth⟩ := nesting
  cases quote with
  | some quote =>
    cases step
    by_cases same : character = quote
    · rw [if_pos same, same]
      exact .endsQuote
    · rw [if_neg same]
      exact .inside same
  | none =>
    simp only [step?] at step
    split at step
    next quote =>
      cases step
      exact .startsQuote quote
    next unquoted =>
    split at step
    next opening =>
      cases step
      rw [opening]
      exact .opens
    next notOpening =>
    split at step
    next closing =>
      split at step
      next => cases step
      next positive =>
        cases step
        obtain ⟨outer, rfl⟩ := Nat.exists_eq_succ_of_ne_zero positive
        rw [closing]
        exact .closes
    next notClosing =>
      split at step
      next => cases step
      next =>
        cases step
        exact .plain (eq_false_of_ne_true unquoted) (not_or.2 ⟨notOpening, notClosing⟩)

theorem next_of_step {following : Nesting} (step : Step nesting character following) :
    nesting.next character = following := by
  cases step with
  | inside differs => simp [next, step?, differs]
  | endsQuote => simp [next, step?]
  | startsQuote opens => simp [next, step?, opens]
  | opens | closes => rfl
  | plain unquoted inner =>
    obtain ⟨opening, closing⟩ := not_or.1 inner
    simp only [next, step?, unquoted, Bool.false_eq_true, if_false, opening, closing]
    split <;> rfl

theorem after_cons : nesting.after (character :: text) = (nesting.next character).after text := rfl

theorem after_append (front back : List Char) :
    nesting.after (front ++ back) = (nesting.after front).after back :=
  List.foldl_append

/-- Inside a quote nothing changes up to the next quote of its kind. -/
theorem after_of_not_mem {quote : Char} (clear : quote ∉ text) (depth : Nat) :
    after ⟨some quote, depth⟩ text = ⟨some quote, depth⟩ := by
  induction text with
  | nil => rfl
  | cons character text induction =>
    obtain ⟨differs, later⟩ := not_or.1 (mt List.mem_cons.2 clear)
    rw [after_cons, next_of_step (.inside (Ne.symm differs)), induction later]

/-- A closed text leaves open what was open before it. -/
theorem after_of_closed (closed : Closed text) (depth : Nat) :
    after ⟨none, depth⟩ text = ⟨none, depth⟩ := by
  induction closed generalizing depth with
  | nil => rfl
  | plain unquoted inner _ induction =>
    rw [after_cons, next_of_step (.plain unquoted inner), induction]
  | quoted opens first _ induction =>
    rw [after_cons, next_of_step (.startsQuote opens), after_append, after_of_not_mem first,
      after_cons, next_of_step .endsQuote, induction]
  | grouped _ _ inside_kept rest_kept =>
    rw [after_cons, next_of_step .opens, after_append, inside_kept, after_cons,
      next_of_step .closes, rest_kept]

theorem span_cons_eq_iff {body rest : List Char} :
    nesting.span (character :: text) = (character :: body, rest) ↔
      ∃ following, nesting.step? character = some following ∧
        following.span text = (body, rest) := by
  cases step : nesting.step? character with
  | none => simp [span, step]
  | some following => simp [span, step, Prod.ext_iff]

theorem span_cons_eq_nil_iff :
    nesting.span (character :: text) = ([], character :: text) ↔
      nesting.step? character = none := by
  cases step : nesting.step? character with
  | none => simp [span, step]
  | some following => simp [span, step]

/-- An expression goes on behind a part of it with what that part leaves open. -/
theorem span_append_eq_iff {front body rest : List Char} :
    nesting.span (front ++ text) = (front ++ body, rest) ↔
      nesting.span front = (front, []) ∧ (nesting.after front).span text = (body, rest) := by
  induction front generalizing nesting with
  | nil => simp [span, after]
  | cons character front induction =>
    rw [List.cons_append, List.cons_append, span_cons_eq_iff, span_cons_eq_iff, after_cons]
    constructor
    · rintro ⟨following, step, later⟩
      rw [next_of_step (step_of_step? step)]
      obtain ⟨whole, goes⟩ := induction.1 later
      exact ⟨⟨following, step, whole⟩, goes⟩
    · rintro ⟨⟨following, step, whole⟩, goes⟩
      rw [next_of_step (step_of_step? step)] at goes
      exact ⟨following, step, induction.2 ⟨whole, goes⟩⟩

/-- A character that belongs to an expression leaves its effect to the text behind it. -/
theorem closes_cons {following : Nesting} (step : Step nesting character following)
    (closes : Closes following text) : Closes nesting (character :: text) := by
  cases step with
  | @inside quote _ _ differs =>
    obtain ⟨⟩ | ⟨⟩ | @⟨_, _, inside, rest, first, later⟩ := closes
    have clear : quote ∉ character :: inside := by simp [Ne.symm differs, first]
    exact .quote clear later
  | endsQuote =>
    show Closes _ ([] ++ character :: text)
    exact .quote List.not_mem_nil closes
  | @startsQuote _ depth opens =>
    obtain ⟨⟩ | ⟨⟩ | @⟨_, _, inside, rest, first, later⟩ := closes
    have block : Closes ⟨none, depth⟩ (character :: (inside ++ [character]) ++ rest) :=
      later.prepend fun rest closed => by simpa using Closed.quoted opens first closed
    simpa using block
  | @opens depth =>
    obtain ⟨⟩ | @⟨_, inside, rest, group, later⟩ | ⟨⟩ := closes
    have block : Closes ⟨none, depth⟩ ('(' :: (inside ++ [')']) ++ rest) :=
      later.prepend fun rest closed => by simpa using Closed.grouped group closed
    simpa using block
  | closes =>
    show Closes _ ([] ++ ')' :: text)
    exact .parenthesis .nil closes
  | plain unquoted inner =>
    show Closes _ ([character] ++ text)
    exact closes.prepend fun rest closed => .plain unquoted inner closed

/-- A text that belongs to an expression as a whole and leaves nothing open closes what was open. -/
theorem closes_of_span (whole : nesting.span text = (text, []))
    (closed : nesting.after text = outside) : Closes nesting text := by
  induction text generalizing nesting with
  | nil =>
    cases closed
    exact .nothing .nil
  | cons character text induction =>
    obtain ⟨following, goes, later⟩ := span_cons_eq_iff.1 whole
    have step := step_of_step? goes
    rw [after_cons, next_of_step step] at closed
    exact closes_cons step (induction later closed)

end Nesting

/-! ## The body of an expression -/

/-- What belongs to an expression before the rest of a text. -/
structure ExpressionBody (body rest : List Char) : Prop where
  /-- Blanks and closing parentheses stand only inside its own quotes and parentheses. -/
  uncut : ∀ front character back, body = front ++ character :: back → Closed front →
    ¬Cuts character
  /-- It reaches the end of the text, or else it leaves nothing open and ends before a blank or a
  closing parenthesis. -/
  ends : rest = [] ∨ Closed body ∧ ∃ next tail, rest = next :: tail ∧ Cuts next

namespace ExpressionBody

variable {text body rest other tail extra : List Char}

theorem of_span (spans : Nesting.outside.span text = (body, rest)) : ExpressionBody body rest := by
  have split_text : body ++ rest = text := by
    have whole := Nesting.outside.span_append text
    rwa [spans] at whole
  rw [← split_text] at spans
  have spans_nothing : Nesting.outside.span (body ++ rest) = (body ++ [], rest) := by
    rwa [List.append_nil]
  obtain ⟨whole, stops⟩ := Nesting.span_append_eq_iff.1 spans_nothing
  constructor
  · rintro front character back rfl closed cuts
    have goes := (Nesting.span_append_eq_iff.1 whole).2
    have outside_after : Nesting.outside.after front = .outside := Nesting.after_of_closed closed 0
    rw [outside_after] at goes
    obtain ⟨following, step, -⟩ := Nesting.span_cons_eq_iff.1 goes
    rw [Nesting.step?_eq_none_iff.2 ⟨rfl, cuts⟩] at step
    cases step
  · cases rest with
    | nil => exact Or.inl rfl
    | cons next tail =>
      obtain ⟨closed, cuts⟩ :=
        Nesting.step?_eq_none_iff.1 (Nesting.span_cons_eq_nil_iff.1 stops)
      obtain ⟨closed_body⟩ | ⟨⟩ | ⟨⟩ := Nesting.closes_of_span whole closed
      exact Or.inr ⟨closed_body, next, tail, rfl, cuts⟩

/-- No body goes on where another one of the same text ends. -/
theorem eq_nil_of_append (short : ExpressionBody body (extra ++ rest))
    (long : ExpressionBody (body ++ extra) rest) : extra = [] := by
  cases extra with
  | nil => rfl
  | cons character extra =>
    rcases short.ends with empty | ⟨closed, next, tail, split_rest, cuts⟩
    · cases empty
    · cases split_rest
      exact absurd cuts (long.uncut body character extra rfl closed)

/-- A text has one body. -/
theorem unique (first : ExpressionBody body rest) (second : ExpressionBody other tail)
    (same : body ++ rest = other ++ tail) : body = other ∧ rest = tail := by
  rcases List.append_eq_append_iff.1 same with ⟨extra, rfl, rfl⟩ | ⟨extra, rfl, rfl⟩
  · rw [eq_nil_of_append first second]
    exact ⟨(List.append_nil _).symm, rfl⟩
  · rw [eq_nil_of_append second first]
    exact ⟨List.append_nil _, rfl⟩

theorem span_eq (divides : ExpressionBody body rest) :
    Nesting.outside.span (body ++ rest) = (body, rest) := by
  have found : ExpressionBody (Nesting.outside.span (body ++ rest)).1
      (Nesting.outside.span (body ++ rest)).2 := of_span rfl
  obtain ⟨same_body, same_rest⟩ := divides.unique found (Nesting.outside.span_append _).symm
  exact Prod.ext same_body.symm same_rest.symm

end ExpressionBody

namespace Lexeme

/-! ## Words at the start of a text -/

/-- A reserved word in any case stands before a text that bounds it. -/
def Reserved (word rest : List Char) : Prop :=
  word.map Char.toLower ∈ reservedWords ∧ endsWord rest = true

/-- A text is a presence test: `not`, at least one blank, and a path that starts with `null:`. -/
def TestsPresence (text path : List Char) : Prop :=
  ∃ gap, gap ≠ [] ∧ (∀ character ∈ gap, Text.isBlank character = true) ∧
    ['n', 'u', 'l', 'l', ':'] <+: path ∧ text = 'n' :: 'o' :: 't' :: (gap ++ path)

theorem reservedWord?_eq_some_iff {text word rest : List Char} :
    reservedWord? text = some (word, rest) ↔ text = word ++ rest ∧ Reserved word rest := by
  constructor
  · intro found
    obtain ⟨reserved, member, found⟩ := List.exists_of_findSome?_eq_some found
    simp only at found
    split at found
    next spelt =>
      cases found
      exact ⟨(List.take_append_drop reserved.length text).symm, by rwa [spelt.1], spelt.2⟩
    next => cases found
  · rintro ⟨rfl, member, bounded⟩
    simp only [reservedWords, List.mem_cons, List.not_mem_nil, or_false] at member
    rcases member with spelt | spelt | spelt
    all_goals
      simp only [List.map_eq_cons_iff, List.map_eq_nil_iff] at spelt
    · obtain ⟨first, _, rfl, lower_first, second, _, rfl, lower_second, third, _, rfl,
        lower_third, rfl⟩ := spelt
      simp [reservedWord?, reservedWords, lower_first, lower_second, lower_third, bounded]
    · obtain ⟨first, _, rfl, lower_first, second, _, rfl, lower_second, rfl⟩ := spelt
      simp [reservedWord?, reservedWords, lower_first, lower_second, bounded]
    · obtain ⟨first, _, rfl, lower_first, second, _, rfl, lower_second, third, _, rfl,
        lower_third, rfl⟩ := spelt
      simp [reservedWord?, reservedWords, lower_first, lower_second, lower_third, bounded]

theorem presenceTest?_eq_some_iff_testsPresence {text path : List Char} :
    presenceTest? text = some path ↔ TestsPresence text path := by
  rw [presenceTest?_eq_some_iff]
  constructor
  · rintro ⟨first, behind, rfl, blank, rfl, starts⟩
    refine ⟨first :: behind.takeWhile Text.isBlank, List.cons_ne_nil _ _, ?_, starts, ?_⟩
    · intro character member
      rcases List.mem_cons.1 member with rfl | later
      · exact blank
      · exact List.mem_takeWhile_imp later
    · rw [List.cons_append, List.takeWhile_append_dropWhile]
  · rintro ⟨gap, nonempty, blank, ⟨further, rfl⟩, rfl⟩
    obtain ⟨first, gap, rfl⟩ := List.exists_cons_of_ne_nil nonempty
    refine ⟨first, gap ++ (['n', 'u', 'l', 'l', ':'] ++ further), rfl,
      blank first List.mem_cons_self, ?_, List.prefix_append _ further⟩
    rw [List.dropWhile_append_of_pos fun character member =>
      blank character (List.mem_cons_of_mem _ member)]
    exact List.dropWhile_cons_of_neg (by decide)

/-! ## Sources of lexemes -/

/-- The texts that are written for a lexeme before the rest of a text. -/
inductive Written : List Char → Lexeme → List Char → Prop where
  /-- A parenthesis stands for itself. -/
  | parenthesis {character : Char} {rest : List Char}
      (parenthesis : character = '(' ∨ character = ')') :
      Written [character] (operator (String.ofList [character])) rest
  /-- An operator word stands for itself, unless a presence test starts with it. -/
  | word {source rest : List Char} (reserved : Reserved source rest)
      (alone : ∀ path, ¬TestsPresence (source ++ rest) path) :
      Written source (operator (String.ofList source)) rest
  /-- A presence test is an expression with one space in place of its blanks. -/
  | presence {source path rest : List Char} (test : TestsPresence source path)
      (body : ExpressionBody path rest) :
      Written source (expression (String.ofList ('n' :: 'o' :: 't' :: ' ' :: path))) rest
  /-- Everything else that starts with neither a blank, a parenthesis nor a reserved word is an
  expression as it stands. -/
  | expression {first : Char} {further rest : List Char} (visible : Text.isBlank first = false)
      (inner : ¬(first = '(' ∨ first = ')'))
      (unreserved : ∀ word tail, first :: (further ++ rest) = word ++ tail → ¬Reserved word tail)
      (body : ExpressionBody (first :: further) rest) :
      Written (first :: further) (expression (String.ofList (first :: further))) rest

/-- The division of a text into blanks and the sources of its lexemes. -/
inductive Divided : List Char → List Lexeme → Prop where
  /-- Only blanks are left. -/
  | blank {gap : List Char} (blank : ∀ character ∈ gap, Text.isBlank character = true) :
      Divided gap []
  /-- Blanks, the source of a lexeme, and the division of the rest. -/
  | lexeme {gap source rest : List Char} {lexeme : Lexeme} {lexemes : List Lexeme}
      (blank : ∀ character ∈ gap, Text.isBlank character = true)
      (written : Written source lexeme rest) (later : Divided rest lexemes) :
      Divided (gap ++ (source ++ rest)) (lexeme :: lexemes)

variable {first : Char} {text source path rest : List Char} {lexeme : Lexeme}
  {lexemes : List Lexeme}

theorem Divided.cons_blank (blank : Text.isBlank first = true) (divided : Divided text lexemes) :
    Divided (first :: text) lexemes := by
  cases divided with
  | blank others => exact .blank (List.forall_mem_cons.2 ⟨blank, others⟩)
  | @lexeme gap source rest lexeme lexemes others written later =>
    have gap_blank : ∀ character ∈ first :: gap, Text.isBlank character = true :=
      List.forall_mem_cons.2 ⟨blank, others⟩
    exact .lexeme gap_blank written later

theorem Divided.cons (written : Written source lexeme rest) (later : Divided rest lexemes) :
    Divided (source ++ rest) (lexeme :: lexemes) := by
  have no_gap : ∀ character ∈ ([] : List Char), Text.isBlank character = true := by simp
  exact .lexeme no_gap written later

/-- The path of a presence test starts with `null:` before its expression ends. -/
theorem prefix_body (starts : ['n', 'u', 'l', 'l', ':'] <+: path ++ rest)
    (body : ExpressionBody path rest) : ['n', 'u', 'l', 'l', ':'] <+: path := by
  refine prefix_of_prefix_append starts ?_
  rintro next head letter
  rcases body.ends with rfl | ⟨-, other, tail, rfl, cuts⟩
  · cases head
  · cases head
    simp only [List.mem_cons, List.not_mem_nil, or_false] at letter
    rcases cuts with blank | rfl
    · rcases letter with rfl | rfl | rfl | rfl | rfl <;> cases blank
    · simp at letter

theorem TestsPresence.append (test : TestsPresence source path) (rest : List Char) :
    TestsPresence (source ++ rest) (path ++ rest) := by
  obtain ⟨gap, nonempty, blank, starts, rfl⟩ := test
  exact ⟨gap, nonempty, blank, starts.trans (List.prefix_append path rest), by simp⟩

/-- A text that is a presence test starts with one that ends where the expression does. -/
theorem exists_source_of_testsPresence (test : TestsPresence text (path ++ rest))
    (body : ExpressionBody path rest) : ∃ source, text = source ++ rest ∧
      TestsPresence source path := by
  obtain ⟨gap, nonempty, blank, starts, rfl⟩ := test
  refine ⟨'n' :: 'o' :: 't' :: (gap ++ path), by simp, ?_⟩
  exact ⟨gap, nonempty, blank, prefix_body starts body, rfl⟩

/-! ## Scanning finds the division -/

theorem divided_scan (text : List Char) : Divided text (scan text) := by
  fun_induction scan text with
  | case1 => exact .blank (by simp)
  | case2 first rest blank induction => exact induction.cons_blank blank
  | case3 first rest visible parenthesis induction =>
    exact .cons (.parenthesis parenthesis) induction
  | case4 first rest visible inner tail found parts induction =>
    have split_tail : parts.1 ++ parts.2 = tail := Nesting.outside.span_append tail
    have body : ExpressionBody parts.1 parts.2 := .of_span rfl
    rw [presenceTest?_eq_some_iff_testsPresence, ← split_tail] at found
    obtain ⟨source, whole, test⟩ := exists_source_of_testsPresence found body
    rw [whole]
    exact .cons (.presence test body) induction
  | case5 first rest visible inner absent written tail found induction =>
    obtain ⟨whole, reserved⟩ := reservedWord?_eq_some_iff.1 found
    have alone (path : List Char) : ¬TestsPresence (written ++ tail) path := by
      rw [← whole, ← presenceTest?_eq_some_iff_testsPresence, absent]
      exact (Option.some_ne_none path).symm
    rw [whole]
    exact .cons (.word reserved alone) induction
  | case6 first rest visible inner absent unreserved parts induction =>
    have whole : parts.1 ++ parts.2 = first :: rest := Nesting.outside.span_append (first :: rest)
    have body : ExpressionBody parts.1 parts.2 := .of_span rfl
    have belongs := Nesting.isSome_step?_outside (eq_false_of_ne_true visible)
      fun closing => inner (Or.inr closing)
    obtain ⟨following, step⟩ := Option.isSome_iff_exists.1 belongs
    have starts : parts.1 = first :: (following.span rest).1 := by
      simp only [parts, Nesting.span, step]
    rw [starts] at whole body ⊢
    rw [← whole]
    refine .cons (.expression (eq_false_of_ne_true visible) inner ?_ body) induction
    intro word tail split_text reserved
    have found := reservedWord?_eq_some_iff.2 ⟨whole.symm.trans split_text, reserved⟩
    rw [unreserved] at found
    cases found

theorem scan_gap_append {gap : List Char}
    (blank : ∀ character ∈ gap, Text.isBlank character = true) :
    scan (gap ++ text) = scan text := by
  induction gap with
  | nil => rfl
  | cons first gap induction =>
    obtain ⟨here, later⟩ := List.forall_mem_cons.1 blank
    rw [List.cons_append, scan_blank here, induction later]

theorem toLower_of_isBlank {character : Char} (blank : Text.isBlank character = true) :
    character.toLower = character := by
  unfold Char.toLower
  split
  next upper =>
    exfalso
    have least : 65 ≤ character.toNat := UInt32.le_iff_toNat_le.1 upper.1
    have greatest : character.toNat ≤ 90 := UInt32.le_iff_toNat_le.1 upper.2
    simp only [Text.isBlank, Text.inRanges, Text.blankRanges, List.any_cons, List.any_nil,
      Bool.or_eq_true, Bool.and_eq_true, decide_eq_true_eq, Bool.false_eq_true, or_false] at blank
    omega
  next => rfl

/-- A reserved word starts with a letter. -/
theorem Reserved.starts (reserved : Reserved source rest) : ∃ first further,
    source = first :: further ∧ Text.isBlank first = false ∧ ¬(first = '(' ∨ first = ')') := by
  obtain ⟨member, -⟩ := reserved
  cases source with
  | nil => exact absurd member (by decide)
  | cons first further =>
    have letter : first.toLower ∈ ['a', 'o', 'n'] := by
      simp only [reservedWords, List.map_cons, List.mem_cons, List.cons.injEq, List.not_mem_nil,
        or_false] at member ⊢
      exact member.imp And.left (Or.imp And.left And.left)
    refine ⟨first, further, rfl, ?_, ?_⟩
    · rw [Bool.eq_false_iff]
      intro blank
      rw [toLower_of_isBlank blank] at letter
      simp only [List.mem_cons, List.not_mem_nil, or_false] at letter
      rcases letter with rfl | rfl | rfl <;> cases blank
    · rintro (rfl | rfl)
      · exact absurd letter (by decide)
      · exact absurd letter (by decide)

theorem scan_of_written (written : Written source lexeme rest) :
    scan (source ++ rest) = lexeme :: scan rest := by
  cases written with
  | @parenthesis character _ parenthesis =>
    have visible : Text.isBlank character = false := by
      rcases parenthesis with rfl | rfl <;> decide
    exact scan_parenthesis visible parenthesis
  | word reserved alone =>
    obtain ⟨first, further, rfl, visible, inner⟩ := reserved.starts
    have absent : presenceTest? (first :: (further ++ rest)) = none :=
      Option.eq_none_iff_forall_ne_some.2 fun path found =>
        alone path (presenceTest?_eq_some_iff_testsPresence.1 found)
    exact scan_reservedWord absent visible inner (reservedWord?_eq_some_iff.2 ⟨rfl, reserved⟩)
  | @presence _ path _ test body =>
    have found := presenceTest?_eq_some_iff_testsPresence.2 (test.append rest)
    obtain ⟨gap, -, -, -, rfl⟩ := test
    rw [List.cons_append] at found ⊢
    rw [scan_presenceTest found, body.span_eq]
  | @expression first further _ visible inner unreserved body =>
    have reserved_none : reservedWord? (first :: (further ++ rest)) = none :=
      Option.eq_none_iff_forall_ne_some.2 fun (word, tail) found =>
        let ⟨whole, reserved⟩ := reservedWord?_eq_some_iff.1 found
        unreserved word tail whole reserved
    have absent : presenceTest? (first :: (further ++ rest)) = none :=
      Option.eq_none_iff_forall_ne_some.2 fun path found =>
        reservedWord?_of_presenceTest? found reserved_none
    have spans := body.span_eq
    rw [List.cons_append] at spans ⊢
    rw [scan_expression absent visible inner reserved_none, spans]

/-- A text is scanned to the lexemes of its division. -/
theorem scan_of_divided (divided : Divided text lexemes) : scan text = lexemes := by
  induction divided with
  | @blank gap blank =>
    rw [← List.append_nil gap, scan_gap_append blank, scan_nil]
  | lexeme blank written _ induction =>
    rw [scan_gap_append blank, scan_of_written written, induction]

theorem Divided.written_of_mem (divided : Divided text lexemes) (member : lexeme ∈ lexemes) :
    ∃ source rest, Written source lexeme rest := by
  induction divided with
  | blank => cases member
  | lexeme _ written _ induction =>
    rcases List.mem_cons.1 member with rfl | later
    · exact ⟨_, _, written⟩
    · exact induction later

theorem isSome_word?_of_reserved (reserved : Reserved source rest) :
    (operator (String.ofList source)).word?.isSome = true := by
  have spelt := reserved.1
  simp only [reservedWords, List.mem_cons, List.not_mem_nil, or_false] at spelt
  rw [Option.isSome_iff_ne_none]
  intro missing
  simp only [word?, operator, OperatorWord.ofText?, Text.sameLetters, Text.lower,
    String.toList_ofList, beq_iff_eq, ite_eq_iff, reduceCtorEq, and_false, false_or, and_true]
    at missing
  obtain ⟨-, -, not_and, not_or, not_not⟩ := missing
  rcases spelt with spelt | spelt | spelt
  · exact not_and (by rw [spelt]; rfl)
  · exact not_or (by rw [spelt]; rfl)
  · exact not_not (by rw [spelt]; rfl)

/-- Every lexeme that is no expression is written as an operator that it stands for. -/
theorem Written.isSome_word? (written : Written source lexeme rest)
    (plain : lexeme.isExpression = false) : lexeme.word?.isSome = true := by
  cases written with
  | parenthesis parenthesis => rcases parenthesis with rfl | rfl <;> rfl
  | word reserved => exact isSome_word?_of_reserved reserved
  | presence | expression => cases plain

/-- The lexemes of a text are those of its division, so scanning loses, doubles and invents
nothing; and every operator among them stands for an operator word or a parenthesis. -/
theorem ofText_eq_iff_divided (text : String) :
    (∀ lexemes, ofText text = lexemes ↔ Divided text.toList lexemes) ∧
      ∀ lexeme ∈ ofText text, lexeme.isExpression = false → lexeme.word?.isSome = true := by
  have divided : Divided text.toList (ofText text) := divided_scan text.toList
  refine ⟨fun lexemes => ⟨?_, scan_of_divided⟩, fun lexeme member => ?_⟩
  · rintro rfl
    exact divided
  · obtain ⟨source, rest, written⟩ := divided.written_of_mem member
    exact written.isSome_word?

end Lexeme

end AccessPolicy
