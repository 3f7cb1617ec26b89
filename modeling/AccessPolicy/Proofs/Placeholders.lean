import AccessPolicy.Text.Placeholder
import Mathlib.Data.List.Basic
import Mathlib.Data.List.Infix
import Mathlib.Data.List.TakeWhile

/-!
# Occurrences of placeholders

Reading a text from left to right finds every placeholder that stands in it. Two placeholders never
overlap, because the path of one holds no parenthesis, so no occurrence is lost to an earlier one.
-/

namespace AccessPolicy

namespace Text

/-- Whether a list of characters can be the path of a placeholder. -/
def IsPath (path : List Char) : Prop := path ≠ [] ∧ ∀ character ∈ path, isPathCharacter character

/-- Whether the placeholder with a path stands somewhere in a text. -/
def Occurs (path text : String) : Prop :=
  IsPath path.toList ∧ placeholderForm path.toList <:+: text.toList

theorem placeholderForm_append (path tail : List Char) :
    placeholderForm path ++ tail = '%' :: '(' :: (path ++ ')' :: 's' :: tail) := by
  simp [placeholderForm]

theorem IsPath.opening_not_mem {path : List Char} (valid : IsPath path) : '(' ∉ path := by
  intro member
  have admitted := valid.2 '(' member
  cases admitted

/-- A placeholder at the start of a text is read as the first thing. -/
theorem placeholderAt?_eq_some_iff {text path tail : List Char} :
    placeholderAt? text = some (path, tail) ↔
      IsPath path ∧ text = placeholderForm path ++ tail := by
  constructor
  · intro found
    unfold placeholderAt? at found
    split at found
    next rest =>
      split at found
      next first further tail taken dropped =>
        cases found
        refine ⟨⟨List.cons_ne_nil _ _, ?_⟩, ?_⟩
        · rw [← taken]
          intro character member
          exact List.mem_takeWhile_imp member
        · have whole := List.takeWhile_append_dropWhile (p := isPathCharacter) (l := rest)
          rw [taken, dropped] at whole
          simp [placeholderForm, ← whole]
      next => cases found
    next => cases found
  · rintro ⟨⟨nonempty, admitted⟩, rfl⟩
    have stops : ¬isPathCharacter ')' := Bool.false_ne_true
    have taken : (path ++ ')' :: 's' :: tail).takeWhile isPathCharacter = path := by
      rw [List.takeWhile_append_of_pos admitted, List.takeWhile_cons_of_neg stops,
        List.append_nil]
    have dropped : (path ++ ')' :: 's' :: tail).dropWhile isPathCharacter =
        ')' :: 's' :: tail := by
      rw [List.dropWhile_append_of_pos admitted, List.dropWhile_cons_of_neg stops]
    obtain ⟨first, further, rfl⟩ := List.exists_cons_of_ne_nil nonempty
    rw [placeholderForm_append, placeholderAt?]
    simp only [taken, dropped]

/-- What follows a percent sign inside a placeholder is more of it, and no parenthesis opens. -/
private theorem opening_not_mem_of_suffix {path form : List Char} (valid : IsPath path)
    (inside : '%' :: form <:+ path ++ [')', 's']) : form ≠ [] ∧ '(' ∉ form := by
  constructor
  · rintro rfl
    obtain ⟨before, split⟩ := inside
    have last := congrArg List.getLast? split
    simp at last
  · intro opened
    have member := inside.subset (List.mem_cons_of_mem _ opened)
    simp [valid.opening_not_mem] at member

/-- A placeholder that starts behind the start of another one starts behind its end. -/
theorem placeholderForm_prefix_of_append {first other before after tail : List Char}
    (valid : IsPath first) (later : before ≠ [])
    (split : before ++ (placeholderForm other ++ after) = placeholderForm first ++ tail) :
    placeholderForm first <+: before := by
  obtain ⟨inside, first_split, rest_split⟩ | ⟨extra, rfl, -⟩ := List.append_eq_append_iff.1 split
  · cases inside with
    | nil =>
      rw [List.append_nil] at first_split
      exact ⟨[], by rw [List.append_nil, first_split]⟩
    | cons mark form =>
      rw [placeholderForm_append] at rest_split
      obtain ⟨rfl, form_split⟩ := List.cons.inj rest_split
      obtain ⟨percent, before, rfl⟩ := List.exists_cons_of_ne_nil later
      obtain ⟨-, opening_split⟩ := List.cons.inj first_split
      cases before with
      | nil => cases opening_split
      | cons opening before =>
        obtain ⟨-, path_split⟩ := List.cons.inj opening_split
        obtain ⟨nonempty, closed⟩ := opening_not_mem_of_suffix valid ⟨before, path_split.symm⟩
        obtain ⟨opened, further, rfl⟩ := List.exists_cons_of_ne_nil nonempty
        obtain ⟨rfl, -⟩ := List.cons.inj form_split
        exact absurd List.mem_cons_self closed
  · exact List.prefix_append _ extra

/-- An occurrence of a placeholder that does not start with the one that is read first lies behind
it. -/
theorem placeholderForm_infix_of_append {first other tail : List Char} (valid : IsPath first)
    (occurs : placeholderForm other <:+: placeholderForm first ++ tail)
    (later : ¬placeholderForm other <+: placeholderForm first ++ tail) :
    placeholderForm other <:+: tail := by
  obtain ⟨before, after, split⟩ := occurs
  rw [List.append_assoc] at split
  have inner : before ≠ [] := by
    rintro rfl
    exact later ⟨after, split⟩
  obtain ⟨extra, rfl⟩ := placeholderForm_prefix_of_append valid inner split
  rw [List.append_assoc] at split
  exact ⟨extra, after, by rw [List.append_assoc, List.append_cancel_left split]⟩

/-- Reading a text finds exactly the placeholders that stand in it. -/
theorem placeholder_mem_segments_iff {path text : List Char} :
    .placeholder path ∈ segments text ↔ IsPath path ∧ placeholderForm path <:+: text := by
  fun_induction segments text with
  | case1 => simp [placeholderForm]
  | case2 character rest first tail found induction =>
    obtain ⟨valid, split⟩ := placeholderAt?_eq_some_iff.1 found
    rw [List.mem_cons, induction, split]
    constructor
    · rintro (⟨⟨⟩⟩ | ⟨admitted, behind⟩)
      · exact ⟨valid, (List.prefix_append _ tail).isInfix⟩
      · exact ⟨admitted, behind.trans (List.suffix_append _ tail).isInfix⟩
    · rintro ⟨admitted, occurs⟩
      by_cases first_read : placeholderForm path <+: placeholderForm first ++ tail
      · obtain ⟨after, same⟩ := first_read
        have again := placeholderAt?_eq_some_iff.2 ⟨admitted, split.trans same.symm⟩
        rw [found] at again
        cases again
        exact Or.inl rfl
      · exact Or.inr ⟨admitted, placeholderForm_infix_of_append valid occurs first_read⟩
  | case3 character rest unread induction =>
    rw [List.mem_cons, induction, List.infix_cons_iff]
    constructor
    · rintro (⟨⟨⟩⟩ | ⟨admitted, behind⟩)
      exact ⟨admitted, Or.inr behind⟩
    · rintro ⟨admitted, ⟨after, first_read⟩ | behind⟩
      · rw [placeholderAt?_eq_some_iff.2 ⟨admitted, first_read.symm⟩] at unread
        cases unread
      · exact Or.inr ⟨admitted, behind⟩

/-- The extracted paths are those of the placeholders that stand in a text. -/
theorem mem_placeholders_iff {path text : String} :
    path ∈ placeholders text ↔ Occurs path text := by
  rw [placeholders, Names.mem_extend, Occurs, ← placeholder_mem_segments_iff]
  simp only [List.not_mem_nil, false_or, List.mem_filterMap]
  constructor
  · rintro ⟨segment, member, spells⟩
    cases segment with
    | verbatim character => cases spells
    | placeholder found =>
      cases spells
      rwa [String.toList_ofList]
  · intro member
    exact ⟨_, member, congrArg some String.ofList_toList⟩

theorem Occurs.of_infix {path part text : String} (occurs : Occurs path part)
    (inside : part.toList <:+: text.toList) : Occurs path text :=
  ⟨occurs.1, occurs.2.trans inside⟩

/-- A text is made of the sources of its segments. -/
theorem flatMap_source_segments (text : List Char) :
    (segments text).flatMap Segment.source = text := by
  fun_induction segments text with
  | case1 => rfl
  | case2 character rest path tail found induction =>
    rw [List.flatMap_cons, induction, (placeholderAt?_eq_some_iff.1 found).2]
    rfl
  | case3 character rest unread induction =>
    rw [List.flatMap_cons, induction]
    rfl

/-! ## Occurrences in order -/

/-- The path of the placeholder that a text starts with. -/
def leadingPath? (text : List Char) : Option String :=
  (placeholderAt? text).map fun found => String.ofList found.1

/-- The paths of the placeholders in a text, in the order of the places where they start. -/
def occurrences (text : String) : List String := text.toList.tails.filterMap leadingPath?

/-- No placeholder starts inside another one. -/
private theorem leadingPath?_of_inside {path inside : List Char} (valid : IsPath path)
    (tail : List Char) (nonempty : inside ≠ []) (behind : inside <:+ '(' :: (path ++ [')', 's'])) :
    leadingPath? (inside ++ tail) = none := by
  rw [leadingPath?, Option.map_eq_none_iff, Option.eq_none_iff_forall_ne_some]
  rintro ⟨other, after⟩ found
  obtain ⟨-, starts⟩ := placeholderAt?_eq_some_iff.1 found
  obtain ⟨before, whole⟩ := behind
  have first_split : placeholderForm path = ('%' :: before) ++ inside := by
    rw [List.cons_append, whole]
    rfl
  have split : ('%' :: before) ++ (placeholderForm other ++ after) =
      placeholderForm path ++ tail := by
    rw [← starts, first_split, List.append_assoc]
  have past := placeholderForm_prefix_of_append valid (List.cons_ne_nil _ _) split
  have length_le := past.length_le
  rw [first_split, List.length_append] at length_le
  have length_pos := List.length_pos_iff.2 nonempty
  omega

/-- Behind the start of a placeholder the next one starts where the text goes on. -/
private theorem filterMap_leadingPath?_inside {path inside : List Char} (valid : IsPath path)
    (tail : List Char) (behind : inside <:+ '(' :: (path ++ [')', 's'])) :
    (inside ++ tail).tails.filterMap leadingPath? = tail.tails.filterMap leadingPath? := by
  induction inside with
  | nil => rfl
  | cons mark inside induction =>
    have nothing := leadingPath?_of_inside valid tail (List.cons_ne_nil mark inside) behind
    rw [List.cons_append] at nothing ⊢
    rw [List.tails_cons, List.filterMap_cons_none nothing]
    exact induction ((List.suffix_cons mark inside).trans behind)

/-- Reading a text meets its placeholders in the order of their places. -/
theorem filterMap_path?_segments (text : String) :
    (segments text.toList).filterMap Segment.path? = occurrences text := by
  rw [occurrences]
  generalize text.toList = characters
  fun_induction segments characters with
  | case1 => rfl
  | case2 character rest path tail found induction =>
    obtain ⟨valid, split⟩ := placeholderAt?_eq_some_iff.1 found
    have here : leadingPath? (character :: rest) = some (String.ofList path) := by
      rw [leadingPath?, found, Option.map_some]
    have behind := filterMap_leadingPath?_inside valid tail (List.suffix_refl _)
    rw [placeholderForm_append] at split
    obtain ⟨rfl, rfl⟩ := List.cons.inj split
    have read : Segment.path? (.placeholder path) = some (String.ofList path) := rfl
    rw [List.tails_cons, List.filterMap_cons_some here, List.filterMap_cons_some read, induction]
    simpa using behind.symm
  | case3 character rest unread induction =>
    have nothing : leadingPath? (character :: rest) = none := by
      rw [leadingPath?, unread, Option.map_none]
    have plain : Segment.path? (.verbatim character) = none := rfl
    rw [List.tails_cons, List.filterMap_cons_none nothing, List.filterMap_cons_none plain,
      induction]

/-! ## Substitution -/

/-- A placeholder whose path has no value is still there after the others are replaced. -/
theorem Occurs.substitute {value? : String → Option String} {path text : String}
    (occurs : Occurs path text) (unvalued : value? path = none) :
    Occurs path (substitute value? text) := by
  have read := placeholder_mem_segments_iff.2 occurs
  have kept : Segment.fill value? (.placeholder path.toList) = placeholderForm path.toList := by
    simp only [Segment.fill, String.ofList_toList, unvalued]
  refine ⟨occurs.1, ?_⟩
  rw [Text.substitute, String.toList_ofList, List.flatMap_def, ← kept]
  exact List.infix_of_mem_flatten (List.mem_map_of_mem read)

/-- The result depends on the values only where the text has a placeholder. -/
theorem substitute_congr {value? other? : String → Option String} {text : String}
    (agree : ∀ path, Occurs path text → value? path = other? path) :
    substitute value? text = substitute other? text := by
  have same : (segments text.toList).flatMap (Segment.fill value?) =
      (segments text.toList).flatMap (Segment.fill other?) := by
    apply List.flatMap_congr
    intro segment member
    cases segment with
    | verbatim character => rfl
    | placeholder path =>
      have occurs : Occurs (String.ofList path) text := by
        rw [Occurs, String.toList_ofList]
        exact placeholder_mem_segments_iff.1 member
      rw [Segment.fill, Segment.fill, agree _ occurs]
  rw [substitute, substitute, same]

theorem substitute_none (text : String) : substitute (fun _ => none) text = text := by
  have sources : Segment.fill (fun _ => none) = Segment.source := by
    funext segment
    cases segment <;> rfl
  rw [substitute, sources, flatMap_source_segments, String.ofList_toList]

/-- A text is left as it is if no placeholder in it has a value. -/
theorem substitute_eq_self {value? : String → Option String} {text : String}
    (unvalued : ∀ path, Occurs path text → value? path = none) : substitute value? text = text :=
  (substitute_congr unvalued).trans (substitute_none text)

end Text

end AccessPolicy
